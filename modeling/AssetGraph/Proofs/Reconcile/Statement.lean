import AssetGraph.Proofs.Reconcile.Effect
/-!
# Statements

What a graph tells, by the keys of the world outside it: that an asset exists, that a team owns it, that an
asset contains it.  A statement holds, has held once, or never has.  When that has been so is told as well
(`Graph.times?`), and whether it holds is read off that (`Graph.holds?_eq`).  What events do to a graph
comes as a word on a statement, which amends whether it holds and revises its times
(`Statement.map_isLive_revise`).
-/
namespace AssetGraph

/-- **What a graph tells.** -/
inductive Statement where
  | asset (key : AssetKey)
  | owner (key : AssetKey) (identifier : String)
  | parent (child parent : AssetKey)
deriving DecidableEq, Repr

namespace Statement

/-- The statement ends with the asset: it is about the asset, or an edge at it. -/
def isAt (k : AssetKey) : Statement → Bool
  | asset k' => k' = k
  | owner .. => false
  | parent c p => c = k || p = k

/-- **What is known after a word**: what never held cannot end. -/
def amend : (word before : Option Bool) → Option Bool
  | some true, _ => some true
  | some false, before => before.map fun _ => false
  | none, before => before

@[simp] theorem amend_none (before : Option Bool) : amend none before = before := rfl

@[simp] theorem amend_true (before : Option Bool) : amend (some true) before = some true := rfl

@[simp] theorem amend_false (before : Option Bool) :
    amend (some false) before = before.map fun _ => false := rfl

theorem isSome_amend (word before : Option Bool) :
    (amend word before).isSome = (decide (word = some true) || before.isSome) := by
  rcases word with _ | _ | _ <;> cases before <;> rfl

end Statement

/-- **When what a statement says has been so**: an asset or an edge is seen first and last and expires, an
ownership starts and may have come to a finish. -/
inductive Times where
  | seen (first last expiration : Instant)
  | held (start : Instant) (finish : Option Instant)
deriving DecidableEq, Repr

namespace Times

/-- Nothing has ended it. -/
def isLive : Times → Bool
  | seen _ _ expiration => expiration = Instant.unexpired
  | held _ finish => finish.isNone

/-- The times of what is so at a time, again or still. -/
def raised (now : Instant) : Times → Times
  | seen first _ _ => seen first now Instant.unexpired
  | held start _ => held start none

/-- The times of what ends at a time, unless it has ended by then. -/
def felled (now : Instant) : Times → Times
  | seen first last expiration => if now < expiration then seen first now now else seen first last expiration
  | held start finish => held start (finish.or (some now))

theorem isLive_raised (now : Instant) (x : Times) : (x.raised now).isLive = true := by
  cases x <;> simp [raised, isLive]

/-- An ownership that ends is over, whatever the time. -/
theorem isLive_felled_held (now start : Instant) (finish : Option Instant) :
    ((held start finish).felled now).isLive = false := by
  cases finish <;> rfl

theorem isLive_felled {now : Instant} (hn : now < Instant.unexpired) (x : Times) :
    (x.felled now).isLive = false := by
  cases x with
  | seen first last expiration =>
    rw [felled, Bool.eq_false_iff]
    intro hlive
    split at hlive
    · rw [isLive, decide_eq_true_eq] at hlive
      exact Instant.lt_irrefl _ (hlive ▸ hn)
    · rename_i hlt
      rw [isLive, decide_eq_true_eq] at hlive
      exact hlt (hlive ▸ hn)
  | held start finish => exact isLive_felled_held now start finish

theorem raised_raised (now : Instant) (x : Times) : (x.raised now).raised now = x.raised now := by
  cases x <;> rfl

theorem felled_felled (now : Instant) (x : Times) : (x.felled now).felled now = x.felled now := by
  cases x with
  | seen first last expiration =>
    rw [felled]
    by_cases hlt : now < expiration
    · rw [if_pos hlt, felled, if_neg (Instant.lt_irrefl now)]
    · rw [if_neg hlt, felled, if_neg hlt]
  | held start finish => cases finish <;> rfl

end Times

def Asset.times (a : Asset) : Times := .seen a.firstSeen a.lastSeen a.expiration

def Owns.times (o : Owns) : Times := .held o.startTime o.endTime

def ParentOf.times (e : ParentOf) : Times := .seen e.firstSeen e.lastSeen e.expiration

namespace Statement

/-- The times of what has not been so before. -/
def begun (now : Instant) : Statement → Times
  | owner .. => .held now none
  | _ => .seen now now Instant.unexpired

/-- **The times that are known after a word**: what never has been so begins, and cannot end. -/
def revise (now : Instant) (s : Statement) : (word : Option Bool) → (before : Option Times) → Option Times
  | some true, before => some ((before.getD (s.begun now)).raised now)
  | some false, before => before.map (Times.felled now)
  | none, before => before

@[simp] theorem revise_none (now : Instant) (s : Statement) (before : Option Times) :
    s.revise now none before = before := rfl

theorem revise_ite (now : Instant) (s : Statement) (p : Prop) [Decidable p] (before : Option Times) :
    s.revise now (if p then some true else none) before =
      if p then some ((before.getD (s.begun now)).raised now) else before := by
  split <;> rfl

/-- A word said again, or one that says nothing, revises nothing more. -/
theorem revise_revise {b : Bool} {word : Option Bool} (h : word = none ∨ word = some b) (now : Instant)
    (s : Statement) (before : Option Times) :
    s.revise now word (s.revise now (some b) before) = s.revise now (some b) before := by
  rcases h with rfl | rfl
  · rfl
  cases b with
  | true => exact congrArg some (Times.raised_raised now _)
  | false =>
    rw [revise, revise, Option.map_map]
    exact Option.map_congr fun x _ => Times.felled_felled now x

/-- What is known of whether a statement holds is read off its times. -/
theorem map_isLive_revise {now : Instant} (hn : now < Instant.unexpired) (s : Statement)
    (word : Option Bool) (before : Option Times) :
    (s.revise now word before).map Times.isLive = amend word (before.map Times.isLive) := by
  rcases word with _ | _ | _
  · rfl
  · rw [revise, amend_false, Option.map_map, Option.map_map]
    exact Option.map_congr fun x _ => Times.isLive_felled hn x
  · exact congrArg some (Times.isLive_raised now _)

end Statement

namespace Graph

open Statement (amend)

/-! ## What a graph tells -/

def assetId? (g : Graph) (k : AssetKey) : Option String := (g.asset? k).map (·.id)

def teamId? (g : Graph) (identifier : String) : Option String := (g.team? identifier).map (·.id)

/-- What stands between two entities, if both are there. -/
def between (a b : Option String) (edge : String → String → Option Bool) : Option Bool :=
  a.bind fun a => b.bind fun b => edge a b

/-- **Whether a statement holds still**; nothing where it never did. -/
def holds? (g : Graph) : Statement → Option Bool
  | .asset k => (g.asset? k).map (·.isUnexpired)
  | .owner k i => between (g.assetId? k) (g.teamId? i) fun a t => (g.owns? a t).map (·.isActive)
  | .parent c p => between (g.assetId? c) (g.assetId? p) fun a b => (g.parentOf? a b).map (·.isUnexpired)

def teamName? (g : Graph) (identifier : String) : Option String := (g.team? identifier).map (·.name)

/-- **The times of what a statement says**; none where it never held. -/
def times? (g : Graph) : Statement → Option Times
  | .asset k => (g.asset? k).map (·.times)
  | .owner k i => (g.assetId? k).bind fun a => (g.teamId? i).bind fun t => (g.owns? a t).map (·.times)
  | .parent c p => (g.assetId? c).bind fun a => (g.assetId? p).bind fun b => (g.parentOf? a b).map (·.times)

variable {g g' : Graph}

/-- **A statement holds while nothing has ended what it says.** -/
theorem holds?_eq (g : Graph) (s : Statement) : g.holds? s = (g.times? s).map Times.isLive := by
  cases s with
  | asset k =>
    rw [holds?, times?, Option.map_map]
    rfl
  | owner k i =>
    simp only [holds?, between, times?, Option.map_bind, Function.comp_def, Option.map_map]
    rfl
  | parent c p =>
    simp only [holds?, between, times?, Option.map_bind, Function.comp_def, Option.map_map]
    rfl

theorem assetId?_eq (g : Graph) (k : AssetKey) : g.assetId? k =
    ((g.assets.map fun a => (a.id, a.key)).find? (·.2 = k)).map Prod.fst := by
  rw [List.find?_map, Option.map_map]
  rfl

theorem teamId?_eq (g : Graph) (i : String) : g.teamId? i =
    ((g.teams.map fun t => (t.id, t.identifier)).find? (·.2 = i)).map Prod.fst := by
  rw [List.find?_map, Option.map_map]
  rfl

theorem SameShape.assetId? (hs : SameShape g g') (k : AssetKey) : g'.assetId? k = g.assetId? k := by
  rw [assetId?_eq, assetId?_eq, hs.assets]

theorem SameShape.teamId? (hs : SameShape g g') (i : String) : g'.teamId? i = g.teamId? i := by
  rw [teamId?_eq, teamId?_eq, hs.teams]

/-- What is there keeps its id while the graph grows. -/
theorem Extends.assetId? (h : g.Extends g') {k : AssetKey} {id : String} (hk : g.assetId? k = some id) :
    g'.assetId? k = some id := by
  obtain ⟨a, ha, rfl⟩ := Option.map_eq_some_iff.1 hk
  obtain ⟨a', ha', hid⟩ := h.asset? ha
  exact Option.map_eq_some_iff.2 ⟨a', ha', hid⟩

theorem Extends.teamId? (h : g.Extends g') {i id : String} (hi : g.teamId? i = some id) :
    g'.teamId? i = some id := by
  obtain ⟨t, ht, rfl⟩ := Option.map_eq_some_iff.1 hi
  obtain ⟨t', ht', hid⟩ := h.team? ht
  exact Option.map_eq_some_iff.2 ⟨t', ht', hid⟩

/-- No two keys name the same asset. -/
theorem WellFormed.assetId?_eq_some_iff (h : g.WellFormed) {k k' : AssetKey} {id : String}
    (hk : g.assetId? k = some id) : g.assetId? k' = some id ↔ k' = k := by
  constructor
  · intro hk'
    obtain ⟨a, ha, rfl⟩ := Option.map_eq_some_iff.1 hk
    obtain ⟨a', ha', hid⟩ := Option.map_eq_some_iff.1 hk'
    obtain ⟨hm, rfl⟩ := h.asset?_eq_some_iff.1 ha
    obtain ⟨hm', rfl⟩ := h.asset?_eq_some_iff.1 ha'
    exact (h.id_eq_iff hm hm').1 hid
  · rintro rfl
    exact hk

theorem IsKeyed.teamId?_eq_some_iff (h : g.IsKeyed) {i i' : String} {id : String}
    (hi : g.teamId? i = some id) : g.teamId? i' = some id ↔ i' = i := by
  constructor
  · intro hi'
    obtain ⟨t, ht, rfl⟩ := Option.map_eq_some_iff.1 hi
    obtain ⟨t', ht', hid⟩ := Option.map_eq_some_iff.1 hi'
    obtain ⟨hm, rfl⟩ := h.team?_eq_some_iff.1 ht
    obtain ⟨hm', rfl⟩ := h.team?_eq_some_iff.1 ht'
    exact (h.id_eq_iff_identifier hm hm').1 hid
  · rintro rfl
    exact hi

theorem bind_change {β : Type} {a? b? : Option String} {a b : String} {edge edge' : String → String → Option β}
    {w : Option β → Option β}
    (he : ∀ a' b', edge' a' b' = if (a', b') = (a, b) then w (edge a' b') else edge a' b') :
    (a?.bind fun a => b?.bind fun b => edge' a b) =
      if a? = some a ∧ b? = some b then w (a?.bind fun a => b?.bind fun b => edge a b)
      else a?.bind fun a => b?.bind fun b => edge a b := by
  rcases a? with _ | a'
  · rfl
  · rcases b? with _ | b'
    · simp only [reduceCtorEq, and_false, if_false]
      rfl
    · refine (he a' b').trans ?_
      simp only [Prod.mk.injEq, Option.some.injEq]
      rfl

theorem times?_owner_eq_some_iff (h : g.WellFormed) {k : AssetKey} {i : String} {x : Times} :
    g.times? (.owner k i) = some x ↔
      ∃ o ∈ g.owns, g.assetId? k = some o.assetId ∧ g.teamId? i = some o.teamId ∧ o.times = x := by
  simp only [times?, Option.bind_eq_some_iff, Option.map_eq_some_iff]
  constructor
  · rintro ⟨a, ha, t, ht, o, ho, hx⟩
    obtain ⟨hm, hpair⟩ := h.owns?_eq_some_iff.1 ho
    obtain ⟨rfl, rfl⟩ := Prod.mk.inj hpair
    exact ⟨o, hm, ha, ht, hx⟩
  · rintro ⟨o, hm, ha, ht, hx⟩
    exact ⟨_, ha, _, ht, o, h.owns?_eq_some_iff.2 ⟨hm, rfl⟩, hx⟩

theorem times?_parent_eq_some_iff (h : g.WellFormed) {c p : AssetKey} {x : Times} :
    g.times? (.parent c p) = some x ↔ ∃ e ∈ g.parents,
      g.assetId? c = some e.childId ∧ g.assetId? p = some e.parentId ∧ e.times = x := by
  simp only [times?, Option.bind_eq_some_iff, Option.map_eq_some_iff]
  constructor
  · rintro ⟨a, ha, a', ha', e, he, hx⟩
    obtain ⟨hm, hpair⟩ := h.parentOf?_eq_some_iff.1 he
    obtain ⟨rfl, rfl⟩ := Prod.mk.inj hpair
    exact ⟨e, hm, ha, ha', hx⟩
  · rintro ⟨e, hm, ha, ha', hx⟩
    exact ⟨_, ha, _, ha', e, h.parentOf?_eq_some_iff.2 ⟨hm, rfl⟩, hx⟩

theorem holds?_owner_eq_some_iff (h : g.WellFormed) {k : AssetKey} {i : String} {b : Bool} :
    g.holds? (.owner k i) = some b ↔
      ∃ o ∈ g.owns, g.assetId? k = some o.assetId ∧ g.teamId? i = some o.teamId ∧ o.isActive = b := by
  simp only [holds?_eq, Option.map_eq_some_iff, times?_owner_eq_some_iff h]
  constructor
  · rintro ⟨x, ⟨o, hm, ha, ht, rfl⟩, hb⟩
    exact ⟨o, hm, ha, ht, hb⟩
  · rintro ⟨o, hm, ha, ht, hb⟩
    exact ⟨o.times, ⟨o, hm, ha, ht, rfl⟩, hb⟩

theorem holds?_parent_eq_some_iff (h : g.WellFormed) {c p : AssetKey} {b : Bool} :
    g.holds? (.parent c p) = some b ↔ ∃ e ∈ g.parents,
      g.assetId? c = some e.childId ∧ g.assetId? p = some e.parentId ∧ e.isUnexpired = b := by
  simp only [holds?_eq, Option.map_eq_some_iff, times?_parent_eq_some_iff h]
  constructor
  · rintro ⟨x, ⟨e, hm, ha, ha', rfl⟩, hb⟩
    exact ⟨e, hm, ha, ha', hb⟩
  · rintro ⟨e, hm, ha, ha', hb⟩
    exact ⟨e.times, ⟨e, hm, ha, ha', rfl⟩, hb⟩

theorem IsKeyed.exists_teamId? (h : g.IsKeyed) {o : Owns} (ho : o ∈ g.owns) :
    ∃ i, g.teamId? i = some o.teamId := by
  obtain ⟨t, ht, hid⟩ := List.mem_map.1 (h.owned o ho).2
  exact ⟨t.identifier, Option.map_eq_some_iff.2 ⟨t, h.team?_eq_some_iff.2 ⟨ht, rfl⟩, hid⟩⟩

/-- An id is as it was, or there was none and it is a new one. -/
def Renews (taken : List String) (before after : Option String) : Prop :=
  after = before ∨ (before = none ∧ ∀ id, after = some id → id ∉ taken)

/-- Where no edge has a new end, new ends have no edge. -/
theorem bind_of_renews {β : Type} {a a' b b' : Option String} {ids ids' : List String}
    {edge : String → String → Option β} (ha : Renews ids a a') (hb : Renews ids' b b')
    (he : ∀ x y, x ∉ ids ∨ y ∉ ids' → edge x y = none) :
    (a'.bind fun a => b'.bind fun b => edge a b) = a.bind fun a => b.bind fun b => edge a b := by
  rcases ha with rfl | ⟨rfl, hnew⟩
  · rcases hb with rfl | ⟨rfl, hnew⟩
    · rfl
    · rcases a' with _ | x
      · rfl
      · rcases b' with _ | y
        · rfl
        · exact he x y (.inr (hnew y rfl))
  · rcases a' with _ | x
    · rfl
    · rcases b' with _ | y
      · rfl
      · exact he x y (.inl (hnew x rfl))

theorem WellFormed.owner_of_renews (h : g.WellFormed) {k : AssetKey} {i : String} (ho : g'.owns = g.owns)
    (ha : Renews (g.assets.map (·.id)) (g.assetId? k) (g'.assetId? k))
    (ht : Renews (g.teams.map (·.id)) (g.teamId? i) (g'.teamId? i)) :
    g'.times? (.owner k i) = g.times? (.owner k i) := by
  simp only [times?, owns?, ho]
  refine bind_of_renews ha ht fun a t hat => ?_
  rw [find?_key_eq_none_iff.2 fun hm => ?_]
  · rfl
  · obtain ⟨o, hom, hp⟩ := List.mem_map.1 hm
    obtain ⟨rfl, rfl⟩ := Prod.mk.inj hp
    exact hat.elim (· (h.owned o hom).1) (· (h.owned o hom).2)

theorem WellFormed.parent_of_renews (h : g.WellFormed) {c p : AssetKey} (he : g'.parents = g.parents)
    (ha : ∀ k, Renews (g.assets.map (·.id)) (g.assetId? k) (g'.assetId? k)) :
    g'.times? (.parent c p) = g.times? (.parent c p) := by
  simp only [times?, parentOf?, he]
  refine bind_of_renews (ha c) (ha p) fun a b hab => ?_
  rw [find?_key_eq_none_iff.2 fun hm => ?_]
  · rfl
  · obtain ⟨e, hem, hpair⟩ := List.mem_map.1 hm
    obtain ⟨rfl, rfl⟩ := Prod.mk.inj hpair
    exact hab.elim (· (h.contained e hem).1) (· (h.contained e hem).2)

end Graph

end AssetGraph
