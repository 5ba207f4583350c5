import AssetGraph.Proofs.Graph.Sound
/-!
# Deeds

What events do to a graph, one write at a time.  A deed either *raises*, that is makes something exist,
live and active, or it *fells*, that is ends or expires something.  Doing a deed twice is doing it once,
and deeds of one direction do not undo one another, so a graph in which the first deeds of a list are
done already ends as it would have without them (`Deed.performAll_absorb`).
-/
namespace AssetGraph

/-- **One write to a graph.** -/
inductive Deed where
  | asset (key : AssetKey)
  | team (identifier name : String)
  | owner (key : AssetKey) (identifier : String)
  | parent (child parent : AssetKey)
  | endOwner (assetId teamId : String)
  | expireAsset (assetId : String)
  | expireEdge (childId parentId : String)
deriving DecidableEq, Repr

/-- The asset seen at a time, with an expiration. -/
def Asset.seen (now expiration : Instant) (a : Asset) : Asset := { a with lastSeen := now, expiration }

def ParentOf.seen (now expiration : Instant) (e : ParentOf) : ParentOf :=
  { e with lastSeen := now, expiration }

theorem ParentOf.seen_eq_self {e : ParentOf} {now expiration : Instant} (hl : e.lastSeen = now)
    (he : e.expiration = expiration) : e.seen now expiration = e := by
  subst hl he
  rfl

theorem Asset.seen_ne_self {a : Asset} {now : Instant} (h : now < a.expiration) : a.seen now now ≠ a := by
  intro he
  have hx : now = a.expiration := congrArg Asset.expiration he
  exact Instant.lt_irrefl now (hx.symm ▸ h)

theorem ParentOf.seen_ne_self {e : ParentOf} {now : Instant} (h : now < e.expiration) :
    e.seen now now ≠ e := by
  intro he
  have hx : now = e.expiration := congrArg ParentOf.expiration he
  exact Instant.lt_irrefl now (hx.symm ▸ h)

def Owns.until (endTime : Option Instant) (o : Owns) : Owns := { o with endTime }

def Team.named (name : String) (t : Team) : Team := { t with name }

namespace Graph

/-- The asset with a key, seen now and unexpired. -/
def withAsset (now : Instant) (k : AssetKey) (g : Graph) : Graph :=
  match g.asset? k with
  | some _ =>
    { g with assets := change (·.key = k) (Asset.seen now Instant.unexpired) g.assets }
  | none =>
    let a : Asset :=
      { id := idOf "asset" g.issued, key := k, firstSeen := now, lastSeen := now
        expiration := Instant.unexpired }
    { g with assets := g.assets ++ [a], issued := g.issued + 1 }

/-- The team with an identifier, under a name. -/
def withTeam (identifier name : String) (g : Graph) : Graph :=
  match g.team? identifier with
  | some _ => { g with teams := change (·.identifier = identifier) (Team.named name) g.teams }
  | none =>
    let t : Team := { id := idOf "team" g.issued, identifier, name }
    { g with teams := g.teams ++ [t], issued := g.issued + 1 }

/-- The active ownership of an asset by a team, by their ids. -/
def withOwns (now : Instant) (assetId teamId : String) (g : Graph) : Graph :=
  match g.owns? assetId teamId with
  | some _ =>
    { g with owns := change (·.pair = (assetId, teamId)) (Owns.until none) g.owns }
  | none =>
    let o : Owns := { id := idOf "owns" g.issued, teamId, assetId, startTime := now, endTime := none }
    { g with owns := g.owns ++ [o], issued := g.issued + 1 }

/-- The containment of a child in a parent, by their ids, seen now and unexpired. -/
def withParentOf (now : Instant) (childId parentId : String) (g : Graph) : Graph :=
  match g.parentOf? childId parentId with
  | some _ =>
    { g with
      parents := change (·.pair = (childId, parentId)) (ParentOf.seen now Instant.unexpired)
        g.parents }
  | none =>
    let e : ParentOf :=
      { id := idOf "parent-of" g.issued, parentId, childId, firstSeen := now, lastSeen := now
        expiration := Instant.unexpired }
    { g with parents := g.parents ++ [e], issued := g.issued + 1 }

end Graph

namespace Deed

open AssetGraph.Graph (change Extends SameShape mem_change)

/-- **What a deed leaves**, done at a time.  An edge between what does not exist is not made. -/
def perform (now : Instant) : Deed → Graph → Graph
  | asset k, g => g.withAsset now k
  | team i n, g => g.withTeam i n
  | owner k i, g =>
    match g.asset? k, g.team? i with
    | some a, some t => g.withOwns now a.id t.id
    | _, _ => g
  | parent c p, g =>
    match g.asset? c, g.asset? p with
    | some a, some b => g.withParentOf now a.id b.id
    | _, _ => g
  | endOwner a t, g =>
    { g with
      owns := change (fun o => o.pair = (a, t) ∧ o.endTime = none) (Owns.until (some now)) g.owns }
  | expireAsset id, g =>
    { g with
      assets := change (fun a => a.id = id ∧ now < a.expiration) (Asset.seen now now) g.assets }
  | expireEdge c p, g =>
    { g with
      parents := change (fun e => e.pair = (c, p) ∧ now < e.expiration) (ParentOf.seen now now)
        g.parents }

/-- A deed that ends or expires something. -/
def fells : Deed → Bool
  | endOwner .. | expireAsset .. | expireEdge .. => true
  | _ => false

/-- The ends of an edge that is to be made exist. -/
def IsReady (g : Graph) : Deed → Prop
  | owner k i => (g.asset? k).isSome ∧ (g.team? i).isSome
  | parent c p => (g.asset? c).isSome ∧ (g.asset? p).isSome
  | _ => True

/-- Nothing is left to do for the deed. -/
def IsDone (now : Instant) (g : Graph) : Deed → Prop
  | asset k => k ∈ g.assets.map (·.key) ∧
      ∀ a ∈ g.assets, a.key = k → a.lastSeen = now ∧ a.expiration = Instant.unexpired
  | team i n => i ∈ g.teams.map (·.identifier) ∧ ∀ t ∈ g.teams, t.identifier = i → t.name = n
  | owner k i => ∃ a t, g.asset? k = some a ∧ g.team? i = some t ∧
      (a.id, t.id) ∈ g.owns.map (·.pair) ∧ ∀ o ∈ g.owns, o.pair = (a.id, t.id) → o.endTime = none
  | parent c p => ∃ a b, g.asset? c = some a ∧ g.asset? p = some b ∧
      (a.id, b.id) ∈ g.parents.map (·.pair) ∧
      ∀ e ∈ g.parents, e.pair = (a.id, b.id) → e.lastSeen = now ∧ e.expiration = Instant.unexpired
  | endOwner a t => ∀ o ∈ g.owns, o.pair = (a, t) → o.endTime ≠ none
  | expireAsset id => ∀ a ∈ g.assets, a.id = id → ¬ now < a.expiration
  | expireEdge c p => ∀ e ∈ g.parents, e.pair = (c, p) → ¬ now < e.expiration

variable {now : Instant} {g : Graph}

/-! ## What a deed keeps -/

theorem assetId_mem {k : AssetKey} {a : Asset} (h : g.asset? k = some a) :
    a.id ∈ g.assets.map (·.id) :=
  List.mem_map_of_mem (List.mem_of_find?_eq_some h)

theorem teamId_mem {i : String} {t : Team} (h : g.team? i = some t) : t.id ∈ g.teams.map (·.id) :=
  List.mem_map_of_mem (List.mem_of_find?_eq_some h)

section Stable

variable {P : Graph → Prop} (hP : Graph.IsStable P)
include hP

theorem stable_withAsset (h : P g) (now : Instant) (k : AssetKey) : P (g.withAsset now k) := by
  unfold Graph.withAsset
  split
  · exact hP.sameShape h (g.sameShape_assets _ fun _ => rfl)
  · rename_i hk
    exact hP.addAsset h rfl hk

theorem stable_withTeam (h : P g) (i n : String) : P (g.withTeam i n) := by
  unfold Graph.withTeam
  split
  · exact hP.sameShape h (g.sameShape_teams _ fun _ => rfl)
  · rename_i hk
    exact hP.addTeam h rfl hk

theorem stable_withOwns (h : P g) (now : Instant) {assetId teamId : String}
    (ha : assetId ∈ g.assets.map (·.id)) (ht : teamId ∈ g.teams.map (·.id)) :
    P (g.withOwns now assetId teamId) := by
  unfold Graph.withOwns
  split
  · exact hP.sameShape h (g.sameShape_owns _ fun _ => rfl)
  · rename_i hk
    exact hP.addOwns h rfl hk ha ht

theorem stable_withParentOf (h : P g) (now : Instant) {childId parentId : String}
    (hc : childId ∈ g.assets.map (·.id)) (hp : parentId ∈ g.assets.map (·.id)) :
    P (g.withParentOf now childId parentId) := by
  unfold Graph.withParentOf
  split
  · exact hP.sameShape h (g.sameShape_parents _ fun _ => rfl)
  · rename_i hk
    exact hP.addParentOf h rfl hk hc hp

/-- **Deeds keep what is stable.** -/
theorem stable_perform (h : P g) (d : Deed) : P (d.perform now g) := by
  cases d with
  | asset k => exact stable_withAsset hP h now k
  | team i n => exact stable_withTeam hP h i n
  | owner k i =>
    rw [perform]
    split
    · rename_i ha ht
      exact stable_withOwns hP h now (assetId_mem ha) (teamId_mem ht)
    · exact h
  | parent c p =>
    rw [perform]
    split
    · rename_i ha hb
      exact stable_withParentOf hP h now (assetId_mem ha) (assetId_mem hb)
    · exact h
  | endOwner a t => exact hP.sameShape h (g.sameShape_owns _ fun _ => rfl)
  | expireAsset id => exact hP.sameShape h (g.sameShape_assets _ fun _ => rfl)
  | expireEdge c p => exact hP.sameShape h (g.sameShape_parents _ fun _ => rfl)

end Stable

theorem sound_perform (h : g.Sound) (d : Deed) : (d.perform now g).Sound :=
  stable_perform Graph.isStable_sound h d

theorem growable_perform (h : g.Growable) (d : Deed) : (d.perform now g).Growable :=
  stable_perform Graph.isStable_growable h d

theorem extends_perform (d : Deed) (now : Instant) (g : Graph) : g.Extends (d.perform now g) := by
  cases d with
  | asset k =>
    rw [perform, Graph.withAsset]
    split
    · refine SameShape.extends ?_
      exact g.sameShape_assets _ fun _ => rfl
    · exact { Extends.refl g with assets := Graph.prefix_map_concat _ _ _ }
  | team i n =>
    rw [perform, Graph.withTeam]
    split
    · refine SameShape.extends ?_
      exact g.sameShape_teams _ fun _ => rfl
    · exact { Extends.refl g with teams := Graph.prefix_map_concat _ _ _ }
  | owner k i =>
    rw [perform]
    split
    · rw [Graph.withOwns]
      split
      · refine SameShape.extends ?_
        exact g.sameShape_owns _ fun _ => rfl
      · exact { Extends.refl g with owns := Graph.prefix_map_concat _ _ _ }
    · exact .refl g
  | parent c p =>
    rw [perform]
    split
    · rw [Graph.withParentOf]
      split
      · refine SameShape.extends ?_
        exact g.sameShape_parents _ fun _ => rfl
      · exact { Extends.refl g with parents := Graph.prefix_map_concat _ _ _ }
    · exact .refl g
  | endOwner a t =>
    refine SameShape.extends ?_
    exact g.sameShape_owns _ fun _ => rfl
  | expireAsset id =>
    refine SameShape.extends ?_
    exact g.sameShape_assets _ fun _ => rfl
  | expireEdge c p =>
    refine SameShape.extends ?_
    exact g.sameShape_parents _ fun _ => rfl

/-! ## What a deed leaves -/

/-- The expiration that a deed gives what it touches. -/
def expiration (now : Instant) (d : Deed) : Instant := if d.fells then now else Instant.unexpired

/-- The end that a deed gives an ownership. -/
def endTime (now : Instant) (d : Deed) : Option Instant := if d.fells then some now else none

theorem expiration_of_fells {d : Deed} (h : d.fells = true) : d.expiration now = now := if_pos h

theorem expiration_of_not_fells {d : Deed} (h : d.fells = false) :
    d.expiration now = Instant.unexpired :=
  if_neg (by rw [h]; exact Bool.false_ne_true)

theorem endTime_of_fells {d : Deed} (h : d.fells = true) : d.endTime now = some now := if_pos h

theorem endTime_of_not_fells {d : Deed} (h : d.fells = false) : d.endTime now = none :=
  if_neg (by rw [h]; exact Bool.false_ne_true)

/-- **What a deed touches carries its mark**; all else is as it was. -/
structure Marks (now : Instant) (d : Deed) (g g' : Graph) : Prop where
  assets : ∀ a ∈ g'.assets, a ∈ g.assets ∨ (a.lastSeen = now ∧ a.expiration = d.expiration now)
  teams : ∀ t ∈ g'.teams, t ∈ g.teams ∨ d = team t.identifier t.name
  owns : ∀ o ∈ g'.owns, o ∈ g.owns ∨ o.endTime = d.endTime now
  parents : ∀ e ∈ g'.parents, e ∈ g.parents ∨ (e.lastSeen = now ∧ e.expiration = d.expiration now)

theorem Marks.refl (now : Instant) (d : Deed) (g : Graph) : Marks now d g g :=
  ⟨fun _ h => .inl h, fun _ h => .inl h, fun _ h => .inl h, fun _ h => .inl h⟩

theorem mem_or_of_mem_change {α : Type} {p : α → Prop} [DecidablePred p] {f : α → α} {xs : List α}
    {q : α → Prop} (h : ∀ x, p x → q (f x)) : ∀ y ∈ change p f xs, y ∈ xs ∨ q y := by
  intro y hy
  obtain ⟨x, hx, rfl⟩ := mem_change.1 hy
  by_cases hp : p x
  · rw [if_pos hp]
    exact .inr (h x hp)
  · rw [if_neg hp]
    exact .inl hx

theorem mem_or_of_mem_concat {α : Type} {xs : List α} {x : α} {q : α → Prop} (h : q x) :
    ∀ y ∈ xs ++ [x], y ∈ xs ∨ q y := by
  intro y hy
  rcases List.mem_append.1 hy with hy | hy
  · exact .inl hy
  · exact .inr (List.mem_singleton.1 hy ▸ h)

theorem marks_perform (d : Deed) (now : Instant) (g : Graph) : Marks now d g (d.perform now g) := by
  cases d with
  | asset k =>
    rw [perform, Graph.withAsset]
    split
    · exact { Marks.refl now _ g with assets := mem_or_of_mem_change fun _ _ => ⟨rfl, rfl⟩ }
    · exact { Marks.refl now _ g with assets := mem_or_of_mem_concat ⟨rfl, rfl⟩ }
  | team i n =>
    rw [perform, Graph.withTeam]
    split
    · refine { Marks.refl now _ g with teams := mem_or_of_mem_change fun t ht => ?_ }
      rw [Team.named, ht]
    · exact { Marks.refl now _ g with teams := mem_or_of_mem_concat rfl }
  | owner k i =>
    rw [perform]
    split
    · rw [Graph.withOwns]
      split
      · exact { Marks.refl now _ g with owns := mem_or_of_mem_change fun _ _ => rfl }
      · exact { Marks.refl now _ g with owns := mem_or_of_mem_concat rfl }
    · exact .refl now _ g
  | parent c p =>
    rw [perform]
    split
    · rw [Graph.withParentOf]
      split
      · exact { Marks.refl now _ g with parents := mem_or_of_mem_change fun _ _ => ⟨rfl, rfl⟩ }
      · exact { Marks.refl now _ g with parents := mem_or_of_mem_concat ⟨rfl, rfl⟩ }
    · exact .refl now _ g
  | endOwner a t =>
    exact { Marks.refl now _ g with owns := mem_or_of_mem_change fun _ _ => rfl }
  | expireAsset id =>
    exact { Marks.refl now _ g with assets := mem_or_of_mem_change fun _ _ => ⟨rfl, rfl⟩ }
  | expireEdge c p =>
    exact { Marks.refl now _ g with parents := mem_or_of_mem_change fun _ _ => ⟨rfl, rfl⟩ }

/-! ## Doing it again -/

theorem IsDone.perform_eq {d : Deed} (h : d.IsDone now g) : d.perform now g = g := by
  cases d with
  | asset k =>
    obtain ⟨hk, hall⟩ := h
    rw [perform, Graph.withAsset]
    split
    · rw [Graph.change_eq_self]
      intro a ha he
      obtain ⟨hl, hx⟩ := hall a ha he
      rw [Asset.seen, ← hl, ← hx]
    · rename_i hn
      exact absurd hk (Graph.find?_key_eq_none_iff.1 hn)
  | team i n =>
    obtain ⟨hi, hall⟩ := h
    rw [perform, Graph.withTeam]
    split
    · rw [Graph.change_eq_self]
      intro t ht he
      rw [Team.named, ← hall t ht he]
    · rename_i hn
      exact absurd hi (Graph.find?_key_eq_none_iff.1 hn)
  | owner k i =>
    obtain ⟨a, t, ha, ht, hk, hall⟩ := h
    simp only [perform, ha, ht, Graph.withOwns]
    split
    · rw [Graph.change_eq_self]
      intro o ho he
      rw [Owns.until, ← hall o ho he]
    · rename_i hn
      exact absurd hk (Graph.find?_key_eq_none_iff.1 hn)
  | parent c p =>
    obtain ⟨a, b, ha, hb, hk, hall⟩ := h
    simp only [perform, ha, hb, Graph.withParentOf]
    split
    · rw [Graph.change_eq_self]
      intro e he hp
      obtain ⟨hl, hx⟩ := hall e he hp
      exact ParentOf.seen_eq_self hl hx
    · rename_i hn
      exact absurd hk (Graph.find?_key_eq_none_iff.1 hn)
  | endOwner a t =>
    rw [perform, Graph.change_eq_self]
    exact fun o ho hp => absurd hp.2 (h o ho hp.1)
  | expireAsset id =>
    rw [perform, Graph.change_eq_self]
    exact fun a ha hp => absurd hp.2 (h a ha hp.1)
  | expireEdge c p =>
    rw [perform, Graph.change_eq_self]
    exact fun e he hp => absurd hp.2 (h e he hp.1)

section Touched

variable {α κ : Type} {key : α → κ} {f : α → α} {xs : List α} {k : κ}

theorem mem_map_concat_self {x : α} (hx : key x = k) : k ∈ (xs ++ [x]).map key :=
  hx ▸ List.mem_map_of_mem (List.mem_append_right _ List.mem_cons_self)

variable [DecidableEq κ]

theorem touched_change (hf : ∀ x, key (f x) = key x) {x : α} (hx : xs.find? (key · = k) = some x) :
    k ∈ (change (key · = k) f xs).map key ∧ ∀ y ∈ change (key · = k) f xs, key y = k → ∃ x, f x = y := by
  have hk : key x = k := by simpa using List.find?_some hx
  refine ⟨?_, fun y hy hyk => ?_⟩
  · rw [Graph.map_change hf]
    exact hk ▸ List.mem_map_of_mem (List.mem_of_find?_eq_some hx)
  · obtain ⟨x, -, rfl⟩ := mem_change.1 hy
    by_cases hx : key x = k
    · exact ⟨x, (if_pos hx).symm⟩
    · rw [if_neg hx] at hyk
      exact absurd hyk hx

theorem eq_of_mem_concat (hn : xs.find? (key · = k) = none) {x y : α} (hy : y ∈ xs ++ [x])
    (hk : key y = k) : y = x := by
  rcases List.mem_append.1 hy with hy | hy
  · exact absurd (hk ▸ List.mem_map_of_mem hy) (Graph.find?_key_eq_none_iff.1 hn)
  · exact List.mem_singleton.1 hy

end Touched

/-- **A deed is done once it has been performed.** -/
theorem isDone_perform {d : Deed} (h : d.IsReady g) : d.IsDone now (d.perform now g) := by
  have hext := extends_perform d now g
  cases d with
  | asset k =>
    rw [perform, Graph.withAsset]
    split
    · rename_i hk
      obtain ⟨hm, hall⟩ := touched_change (f := Asset.seen now Instant.unexpired) (fun _ => rfl) hk
      refine ⟨hm, fun a ha he => ?_⟩
      obtain ⟨x, rfl⟩ := hall a ha he
      exact ⟨rfl, rfl⟩
    · rename_i hn
      refine ⟨mem_map_concat_self rfl, fun a ha he => ?_⟩
      rw [eq_of_mem_concat hn ha he]
      exact ⟨rfl, rfl⟩
  | team i n =>
    rw [perform, Graph.withTeam]
    split
    · rename_i hk
      obtain ⟨hm, hall⟩ := touched_change (f := Team.named n) (fun _ => rfl) hk
      refine ⟨hm, fun t ht he => ?_⟩
      obtain ⟨x, rfl⟩ := hall t ht he
      rfl
    · rename_i hn
      refine ⟨mem_map_concat_self rfl, fun t ht he => ?_⟩
      rw [eq_of_mem_concat hn ht he]
  | owner k i =>
    obtain ⟨a, ha⟩ := Option.isSome_iff_exists.1 h.1
    obtain ⟨t, ht⟩ := Option.isSome_iff_exists.1 h.2
    obtain ⟨a', ha', hid⟩ := hext.asset? ha
    obtain ⟨t', ht', hid'⟩ := hext.team? ht
    refine ⟨a', t', ha', ht', ?_⟩
    rw [hid, hid']
    simp only [perform, ha, ht, Graph.withOwns]
    split
    · rename_i hk
      obtain ⟨hm, hall⟩ := touched_change (f := Owns.until none) (fun _ => rfl) hk
      refine ⟨hm, fun o ho he => ?_⟩
      obtain ⟨x, rfl⟩ := hall o ho he
      rfl
    · rename_i hn
      refine ⟨mem_map_concat_self rfl, fun o ho he => ?_⟩
      rw [eq_of_mem_concat hn ho he]
  | parent c p =>
    obtain ⟨a, ha⟩ := Option.isSome_iff_exists.1 h.1
    obtain ⟨b, hb⟩ := Option.isSome_iff_exists.1 h.2
    obtain ⟨a', ha', hid⟩ := hext.asset? ha
    obtain ⟨b', hb', hid'⟩ := hext.asset? hb
    refine ⟨a', b', ha', hb', ?_⟩
    rw [hid, hid']
    simp only [perform, ha, hb, Graph.withParentOf]
    split
    · rename_i hk
      obtain ⟨hm, hall⟩ := touched_change (f := ParentOf.seen now Instant.unexpired) (fun _ => rfl) hk
      refine ⟨hm, fun e he hp => ?_⟩
      obtain ⟨x, rfl⟩ := hall e he hp
      exact ⟨rfl, rfl⟩
    · rename_i hn
      refine ⟨mem_map_concat_self rfl, fun e he hp => ?_⟩
      rw [eq_of_mem_concat hn he hp]
      exact ⟨rfl, rfl⟩
  | endOwner a t =>
    intro o ho hp hend
    obtain ⟨x, -, rfl⟩ := mem_change.1 ho
    by_cases hx : x.pair = (a, t) ∧ x.endTime = none
    · rw [if_pos hx] at hend
      cases hend
    · rw [if_neg hx] at hp hend
      exact hx ⟨hp, hend⟩
  | expireAsset id =>
    intro a ha hid hlt
    obtain ⟨x, -, rfl⟩ := mem_change.1 ha
    by_cases hx : x.id = id ∧ now < x.expiration
    · rw [if_pos hx] at hlt
      exact Instant.lt_irrefl now hlt
    · rw [if_neg hx] at hid hlt
      exact hx ⟨hid, hlt⟩
  | expireEdge c p =>
    intro e he hp hlt
    obtain ⟨x, -, rfl⟩ := mem_change.1 he
    by_cases hx : x.pair = (c, p) ∧ now < x.expiration
    · rw [if_pos hx] at hlt
      exact Instant.lt_irrefl now hlt
    · rw [if_neg hx] at hp hlt
      exact hx ⟨hp, hlt⟩

/-- **Deeds that do not contradict each other**: of one direction, with one name for each team. -/
def Agrees (d d' : Deed) : Prop :=
  d.fells = d'.fells ∧ ∀ i n n', d = team i n → d' = team i n' → n = n'

/-- **What is done stays done** when a deed that agrees follows. -/
theorem IsDone.perform {d d' : Deed} (h : d.IsDone now g) (ha : d.Agrees d') :
    d.IsDone now (d'.perform now g) := by
  have hext := extends_perform d' now g
  have hmarks := marks_perform d' now g
  obtain ⟨hf, hteam⟩ := ha
  cases d with
  | asset k =>
    refine ⟨Graph.mem_of_prefix_map hext.assets h.1, fun a ha hk => ?_⟩
    rcases hmarks.assets a ha with hold | ⟨hl, hx⟩
    · exact h.2 a hold hk
    · exact ⟨hl, hx.trans (expiration_of_not_fells hf.symm)⟩
  | team i n =>
    refine ⟨Graph.mem_of_prefix_map hext.teams h.1, fun t ht hk => ?_⟩
    rcases hmarks.teams t ht with hold | hd
    · exact h.2 t hold hk
    · exact (hteam i n t.name rfl (hk ▸ hd)).symm
  | owner k i =>
    obtain ⟨a, t, ha, ht, hk, hall⟩ := h
    obtain ⟨a', ha', hid⟩ := hext.asset? ha
    obtain ⟨t', ht', hid'⟩ := hext.team? ht
    refine ⟨a', t', ha', ht', ?_⟩
    rw [hid, hid']
    refine ⟨Graph.mem_of_prefix_map hext.owns hk, fun o ho hp => ?_⟩
    rcases hmarks.owns o ho with hold | he
    · exact hall o hold hp
    · exact he.trans (endTime_of_not_fells hf.symm)
  | parent c p =>
    obtain ⟨a, b, ha, hb, hk, hall⟩ := h
    obtain ⟨a', ha', hid⟩ := hext.asset? ha
    obtain ⟨b', hb', hid'⟩ := hext.asset? hb
    refine ⟨a', b', ha', hb', ?_⟩
    rw [hid, hid']
    refine ⟨Graph.mem_of_prefix_map hext.parents hk, fun e he hp => ?_⟩
    rcases hmarks.parents e he with hold | ⟨hl, hx⟩
    · exact hall e hold hp
    · exact ⟨hl, hx.trans (expiration_of_not_fells hf.symm)⟩
  | endOwner a t =>
    intro o ho hp
    rcases hmarks.owns o ho with hold | he
    · exact h o hold hp
    · rw [he, endTime_of_fells hf.symm]
      exact Option.some_ne_none now
  | expireAsset id =>
    intro a ha hid
    rcases hmarks.assets a ha with hold | ⟨-, hx⟩
    · exact h a hold hid
    · rw [hx, expiration_of_fells hf.symm]
      exact Instant.lt_irrefl now
  | expireEdge c p =>
    intro e he hp
    rcases hmarks.parents e he with hold | ⟨-, hx⟩
    · exact h e hold hp
    · rw [hx, expiration_of_fells hf.symm]
      exact Instant.lt_irrefl now

/-! ## Lists of deeds -/

def performAll (now : Instant) (ds : List Deed) (g : Graph) : Graph :=
  ds.foldl (fun g d => d.perform now g) g

/-- Each deed is ready when its turn comes. -/
def AreReady (now : Instant) : List Deed → Graph → Prop
  | [], _ => True
  | d :: ds, g => d.IsReady g ∧ AreReady now ds (d.perform now g)

def Agree (ds : List Deed) : Prop := ∀ d ∈ ds, ∀ d' ∈ ds, d.Agrees d'

@[simp] theorem performAll_nil (now : Instant) (g : Graph) : performAll now [] g = g := rfl

@[simp] theorem performAll_cons (now : Instant) (d : Deed) (ds : List Deed) (g : Graph) :
    performAll now (d :: ds) g = performAll now ds (d.perform now g) := rfl

theorem performAll_append (now : Instant) (ds ds' : List Deed) (g : Graph) :
    performAll now (ds ++ ds') g = performAll now ds' (performAll now ds g) :=
  List.foldl_append

theorem stable_performAll {P : Graph → Prop} (hP : Graph.IsStable P) (h : P g) (ds : List Deed) :
    P (performAll now ds g) := by
  induction ds generalizing g with
  | nil => exact h
  | cons d ds ih => exact ih (stable_perform hP h d)

theorem sound_performAll (h : g.Sound) (ds : List Deed) : (performAll now ds g).Sound :=
  stable_performAll Graph.isStable_sound h ds

theorem growable_performAll (h : g.Growable) (ds : List Deed) : (performAll now ds g).Growable :=
  stable_performAll Graph.isStable_growable h ds

theorem extends_performAll (ds : List Deed) (now : Instant) (g : Graph) :
    g.Extends (performAll now ds g) := by
  induction ds generalizing g with
  | nil => exact .refl g
  | cons d ds ih => exact (extends_perform d now g).trans (ih _)

theorem areReady_append {ds ds' : List Deed} : AreReady now (ds ++ ds') g ↔
    AreReady now ds g ∧ AreReady now ds' (performAll now ds g) := by
  induction ds generalizing g with
  | nil => rw [List.nil_append, AreReady, true_and, performAll_nil]
  | cons d ds ih => rw [List.cons_append, AreReady, AreReady, ih, performAll_cons, and_assoc]

theorem IsDone.performAll {d : Deed} {ds : List Deed} (h : d.IsDone now g)
    (ha : ∀ d' ∈ ds, d.Agrees d') : d.IsDone now (performAll now ds g) := by
  induction ds generalizing g with
  | nil => exact h
  | cons d' ds ih =>
    exact ih (h.perform (ha d' List.mem_cons_self)) fun x hx => ha x (List.mem_cons_of_mem _ hx)

theorem performAll_eq_self {ds : List Deed} (h : ∀ d ∈ ds, d.IsDone now g) :
    performAll now ds g = g := by
  induction ds with
  | nil => rfl
  | cons d ds ih =>
    rw [performAll_cons, (h d List.mem_cons_self).perform_eq]
    exact ih fun x hx => h x (List.mem_cons_of_mem _ hx)

theorem isDone_performAll {ds : List Deed} (hr : AreReady now ds g) (ha : Agree ds) :
    ∀ d ∈ ds, d.IsDone now (performAll now ds g) := by
  induction ds generalizing g with
  | nil => exact fun _ h => absurd h List.not_mem_nil
  | cons d ds ih =>
    intro x hx
    have hrest : ∀ y ∈ ds, y ∈ d :: ds := fun y hy => List.mem_cons_of_mem d hy
    rcases List.mem_cons.1 hx with rfl | hx
    · exact (isDone_perform hr.1).performAll fun y hy => ha x List.mem_cons_self y (hrest y hy)
    · exact ih hr.2 (fun y hy z hz => ha y (hrest y hy) z (hrest z hz)) x hx

/-- **The first deeds, and then all of them, come to the same as all of them.** -/
theorem performAll_absorb {pre ds : List Deed} (hp : pre <+: ds) (hr : AreReady now ds g)
    (ha : Agree ds) : performAll now ds (performAll now pre g) = performAll now ds g := by
  obtain ⟨post, rfl⟩ := hp
  have hpre : Agree pre := fun d hd d' hd' =>
    ha d (List.mem_append_left _ hd) d' (List.mem_append_left _ hd')
  rw [performAll_append, performAll_append,
    performAll_eq_self (isDone_performAll (areReady_append.1 hr).1 hpre)]

end Deed

end AssetGraph
