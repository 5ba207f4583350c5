import AssetGraph.Proofs.Reconcile.DeedWord
/-!
# The words of events

An event has a word on every statement: it raises it, ends it, or leaves it alone.  The graph behind the
event tells the times that it told before, revised by that word (`Event.times?_effect`), and so what holds
(`Event.holds?_effect`).  On ownerships the word is
the event's own, whatever the graph (`Event.holds?_owner_effect`); on assets and edges a retirement's word
is silent while others own the asset.
-/
namespace AssetGraph

/-- **What an upsert raises**: the asset, the ownership, and the accounts with what they contain. -/
def Payload.raises (accountKey : String) (p : Payload) : List Statement :=
  .asset p.assetKey :: .owner p.assetKey p.team.id ::
    (Account.named (p.valuesOf accountKey)).1.flatMap fun arn =>
      [.asset (Account.key arn), .parent p.assetKey (Account.key arn)]

/-- **What a retirement ends**: the ownership, and if nobody else owns the asset, the asset and what is
at it.  A retirement of what is not known ends nothing. -/
def Retirement.ends (g : Graph) (r : Retirement) (s : Statement) : Bool :=
  match g.assetId? r.asset, g.teamId? r.teamId with
  | some a, some t =>
    s = .owner r.asset r.teamId || (!g.isOwnedByOthers a t && s.isAt r.asset)
  | _, _ => false

/-- **The word of an event on a statement**, loaded into a graph. -/
def Event.word (accountKey : String) (g : Graph) : Event → Statement → Option Bool
  | .upsert p, s => if s ∈ p.raises accountKey then some true else none
  | .retire r, s => if r.ends g s then some false else none

theorem Payload.mem_raises_owner {accountKey : String} {p : Payload} {k : AssetKey} {i : String} :
    .owner k i ∈ p.raises accountKey ↔ p.assetKey = k ∧ p.team.id = i := by
  simp [Payload.raises, eq_comm]

/-- Only an asset that is an account is raised by the name. -/
theorem Payload.mem_raises_asset {accountKey : String} {p : Payload} {k : AssetKey}
    (hk : k.type ≠ Account.assetType) : .asset k ∈ p.raises accountKey ↔ p.assetKey = k := by
  simp only [raises, List.mem_cons, Statement.asset.injEq, reduceCtorEq, List.mem_flatMap, List.not_mem_nil,
    or_false, false_or]
  constructor
  · rintro (rfl | ⟨arn, -, rfl⟩)
    · rfl
    · exact absurd rfl hk
  · exact fun h => .inl h.symm

namespace Event

open Statement (amend)

variable {now : Instant} {g : Graph} {accountKey : String}

theorem word_eq_some_true_iff {e : Event} {s : Statement} :
    e.word accountKey g s = some true ↔ ∃ p, .upsert p = e ∧ s ∈ p.raises accountKey := by
  cases e with
  | upsert p => simp [word]
  | retire r => simp [word]

theorem raises_deeds (accountKey : String) (g : Graph) (p : Payload) :
    ((upsert p).deeds accountKey g).filterMap Deed.raises? = p.raises accountKey := by
  have haccounts : ∀ arns : List String, (Deed.containing p.assetKey arns).filterMap Deed.raises? =
      arns.flatMap fun arn => [.asset (Account.key arn), .parent p.assetKey (Account.key arn)] := by
    intro arns
    rw [Deed.containing, List.filterMap_flatMap]
    rfl
  rw [Payload.raises, ← haccounts]
  rfl

theorem fells_upsert (accountKey : String) (g : Graph) (p : Payload) :
    ∀ d ∈ (upsert p).deeds accountKey g, d.fells = false := by
  intro d hd
  simp only [deeds, Deed.containing, List.mem_cons, List.mem_flatMap, List.not_mem_nil, or_false] at hd
  rcases hd with rfl | rfl | rfl | ⟨arn, -, rfl | rfl⟩ <;> rfl

theorem fells_retire {r : Retirement} : ∀ d ∈ (retire r).deeds accountKey g, d.fells = true := by
  intro d hd
  obtain ⟨a, t, -, -, rfl | ⟨id, rfl⟩ | ⟨c, p, rfl⟩⟩ := mem_deeds_retire hd <;> rfl

theorem findSome?_ite {α β : Type} (p : α → Prop) [DecidablePred p] (b : β) (xs : List α) :
    xs.findSome? (fun x => if p x then some b else none) = if ∃ x ∈ xs, p x then some b else none := by
  by_cases h : ∃ x ∈ xs, p x
  · obtain ⟨x, hx, hp⟩ := h
    rw [if_pos ⟨x, hx, hp⟩]
    cases hfind : xs.findSome? fun x => if p x then some b else none with
    | none =>
      have hnone := List.findSome?_eq_none_iff.1 hfind x hx
      rw [if_pos hp] at hnone
      cases hnone
    | some c =>
      obtain ⟨y, -, hy⟩ := List.exists_of_findSome?_eq_some hfind
      split at hy
      · exact hy.symm
      · cases hy
  · rw [if_neg h, List.findSome?_eq_none_iff]
    exact fun x hx => if_neg fun hp => h ⟨x, hx, hp⟩

/-- Deeds that raise have one word for all that one of them raises. -/
theorem word_raised {ds : List Deed} (hf : ∀ d ∈ ds, d.fells = false) (g : Graph) (s : Statement) :
    ds.findSome? (·.word g s) = if s ∈ ds.filterMap Deed.raises? then some true else none := by
  rw [← List.head?_filterMap, List.filterMap_congr fun d hd => Deed.word_of_not_fells (hf d hd) g s,
    List.head?_filterMap, findSome?_ite (fun d : Deed => d.raises? = some s)]
  simp only [List.mem_filterMap]

theorem word_felled {ds : List Deed} (hf : ∀ d ∈ ds, d.fells = true) (g : Graph) (s : Statement) :
    ds.findSome? (·.word g s) = if ∃ d ∈ ds, d.ends g s = true then some false else none := by
  rw [← List.head?_filterMap, List.filterMap_congr fun d hd => Deed.word_of_fells (hf d hd) g s,
    List.head?_filterMap, findSome?_ite]

/-- **What deeds that raise leave**: all that one of them raises holds, and the rest is as it was. -/
theorem holds?_raised (h : g.Sound) (hn : now < Instant.unexpired) {ds : List Deed}
    (hf : ∀ d ∈ ds, d.fells = false) (hr : Deed.AreReady now ds g) (s : Statement) :
    (Deed.performAll now ds g).holds? s =
      if s ∈ ds.filterMap Deed.raises? then some true else g.holds? s := by
  rw [Deed.holds?_performAll h hn hf hr, word_raised hf]
  split <;> rfl

/-- **What deeds that fell leave**: what one of them ends does not hold any more, and the rest is as it
was. -/
theorem holds?_felled (h : g.Sound) (hn : now < Instant.unexpired) {ds : List Deed}
    (hf : ∀ d ∈ ds, d.fells = true) (hr : Deed.AreReady now ds g) (s : Statement) :
    (Deed.performAll now ds g).holds? s =
      if ∃ d ∈ ds, d.ends g s = true then (g.holds? s).map fun _ => false else g.holds? s := by
  rw [Deed.holds?_performAll h hn hf hr, word_felled hf]
  split <;> rfl

theorem times?_upsert (h : g.Sound) (accountKey : String) (now : Instant) (p : Payload) (s : Statement) :
    ((upsert p).effect accountKey now g).times? s =
      s.revise now ((upsert p).word accountKey g s) (g.times? s) := by
  have hf := fells_upsert accountKey g p
  rw [effect, Deed.times?_performAll h hf (plan_does h accountKey now (upsert p)).ready, word_raised hf,
    raises_deeds, word]

/-- An edge that is there ends with the assets at it. -/
theorem ends_edgesAt (h : g.WellFormed) {k c p : AssetKey} {id : String} (hk : g.assetId? k = some id)
    (hs : (g.holds? (.parent c p)).isSome = true) :
    (∃ d ∈ (g.edgesAt id).map fun e => Deed.expireEdge e.childId e.parentId,
      d.ends g (.parent c p) = true) ↔ (Statement.parent c p).isAt k = true := by
  have hat : (Statement.parent c p).isAt k = true ↔ g.assetId? c = some id ∨ g.assetId? p = some id := by
    rw [h.assetId?_eq_some_iff hk, h.assetId?_eq_some_iff hk]
    simp only [Statement.isAt, Bool.or_eq_true, decide_eq_true_eq]
  rw [hat]
  constructor
  · rintro ⟨d, hd, hends⟩
    obtain ⟨e, he, rfl⟩ := List.mem_map.1 hd
    obtain ⟨hc, hp⟩ := of_decide_eq_true hends
    exact (Graph.mem_edgesAt.1 he).2.imp (fun hid => hc.trans (congrArg some hid))
      fun hid => hp.trans (congrArg some hid)
  · intro hid
    obtain ⟨b, hb⟩ := Option.isSome_iff_exists.1 hs
    obtain ⟨e, hm, ha, ha', -⟩ := (Graph.holds?_parent_eq_some_iff h).1 hb
    have hat := hid.imp (fun hid => Option.some.inj (ha.symm.trans hid)) fun hid =>
      Option.some.inj (ha'.symm.trans hid)
    exact ⟨.expireEdge e.childId e.parentId, List.mem_map.2 ⟨e, Graph.mem_edgesAt.2 ⟨hm, hat⟩, rfl⟩,
      decide_eq_true ⟨ha, ha'⟩⟩

theorem ends_expireAsset (h : g.WellFormed) {k : AssetKey} {id : String} (hk : g.assetId? k = some id)
    {s : Statement} (hs : (g.holds? s).isSome = true) :
    (∃ d ∈ .expireAsset id :: (g.edgesAt id).map fun e => Deed.expireEdge e.childId e.parentId,
      d.ends g s = true) ↔ s.isAt k = true := by
  rw [List.exists_mem_cons_iff]
  cases s with
  | asset k' =>
    have hedges : ¬ ∃ d ∈ (g.edgesAt id).map fun e => Deed.expireEdge e.childId e.parentId,
        d.ends g (.asset k') = true := by
      rintro ⟨d, hd, he⟩
      obtain ⟨e, -, rfl⟩ := List.mem_map.1 hd
      cases he
    rw [or_iff_left hedges]
    simp only [Deed.ends, Statement.isAt, decide_eq_true_eq, h.assetId?_eq_some_iff hk]
  | owner k' i =>
    simp only [Statement.isAt, Bool.false_eq_true, iff_false]
    rintro (he | ⟨d, hd, he⟩)
    · cases he
    · obtain ⟨e, -, rfl⟩ := List.mem_map.1 hd
      cases he
  | parent c p =>
    rw [ends_edgesAt h hk hs]
    simp only [Deed.ends, Bool.false_eq_true, false_or]

theorem times?_retire (h : g.Sound) (accountKey : String) (now : Instant) (r : Retirement) (s : Statement) :
    ((retire r).effect accountKey now g).times? s =
      s.revise now ((retire r).word accountKey g s) (g.times? s) := by
  rw [effect, Deed.times?_performAll h fells_retire (plan_does h accountKey now (retire r)).ready,
    word_felled fells_retire, word]
  -- of what never held, nothing ends in either way
  cases hs : g.times? s with
  | none => split <;> split <;> rfl
  | some x =>
    refine congrArg (s.revise now · (some x)) (if_congr ?_ rfl rfl)
    rw [deeds, Retirement.ends]
    cases ha : g.asset? r.asset with
    | none => simp [Graph.assetId?, ha]
    | some a =>
      cases ht : g.team? r.teamId with
      | none => simp [Graph.assetId?, Graph.teamId?, ha, ht]
      | some t =>
        have hka : g.assetId? r.asset = some a.id := congrArg _ ha
        have hit : g.teamId? r.teamId = some t.id := congrArg _ ht
        have howner : (Deed.endOwner a.id t.id).ends g s = true ↔ s = .owner r.asset r.teamId := by
          cases s with
          | owner k i =>
            simp only [Deed.ends, decide_eq_true_eq, h.assetId?_eq_some_iff hka,
              h.teamId?_eq_some_iff hit, Statement.owner.injEq]
          | _ => simp only [Deed.ends, Bool.false_eq_true, reduceCtorEq]
        have hthere : (g.holds? s).isSome = true := by rw [Graph.holds?_eq, hs, Option.map_some, Option.isSome_some]
        have hrest := ends_expireAsset h.toWellFormed hka hthere
        simp only [hka, hit, List.exists_mem_cons_iff, howner, Bool.or_eq_true, decide_eq_true_eq,
          Bool.and_eq_true, Bool.not_eq_true']
        cases g.isOwnedByOthers a.id t.id with
        | true => simp
        | false =>
          rw [if_neg Bool.false_ne_true, hrest]
          simp only [true_and]

/-- **The times after an event**: those before, revised by the event's word. -/
theorem times?_effect (h : g.Sound) (accountKey : String) (now : Instant) (e : Event) (s : Statement) :
    (e.effect accountKey now g).times? s = s.revise now (e.word accountKey g s) (g.times? s) := by
  cases e with
  | upsert p => exact times?_upsert h accountKey now p s
  | retire r => exact times?_retire h accountKey now r s

/-- **What a graph tells after an event**: what it told before, but for the event's word. -/
theorem holds?_effect (h : g.Sound) (accountKey : String) (hn : now < Instant.unexpired) (e : Event)
    (s : Statement) :
    (e.effect accountKey now g).holds? s = amend (e.word accountKey g s) (g.holds? s) := by
  rw [Graph.holds?_eq, Graph.holds?_eq, times?_effect h accountKey, Statement.map_isLive_revise hn]

/-- **What an event has raised is there from then on.** -/
theorem isSome_holds?_effect (h : g.Sound) (accountKey : String) (hn : now < Instant.unexpired) (e : Event)
    (s : Statement) : ((e.effect accountKey now g).holds? s).isSome = true ↔
      (∃ p, .upsert p = e ∧ s ∈ p.raises accountKey) ∨ (g.holds? s).isSome = true := by
  rw [holds?_effect h accountKey hn, Statement.isSome_amend, Bool.or_eq_true, decide_eq_true_eq,
    word_eq_some_true_iff]

/-! ## Teams and owners -/

/-- The name that an event gives a team. -/
def names? : Event → String → Option String
  | upsert p, i => if i = p.team.id then some p.team.name else none
  | retire _, _ => none

theorem isSome_names?_iff {e : Event} {i : String} :
    (e.names? i).isSome = true ↔ ∃ p, .upsert p = e ∧ p.team.id = i := by
  cases e with
  | upsert p =>
    simp only [names?, upsert.injEq, exists_eq_left]
    by_cases hi : i = p.team.id
    · rw [if_pos hi]
      exact iff_of_true rfl hi.symm
    · rw [if_neg hi]
      exact iff_of_false (by rintro ⟨⟩) (Ne.symm hi)
  | retire r => simp [names?]

theorem teams_perform {d : Deed} (hd : ∀ i n, d ≠ .team i n) (now : Instant) (g : Graph) :
    (d.perform now g).teams = g.teams := by
  cases d with
  | asset k =>
    rw [Deed.perform, Graph.withAsset]
    split <;> rfl
  | team i n => exact absurd rfl (hd i n)
  | owner k i =>
    rw [Deed.perform]
    split
    · rw [Graph.withOwns]
      split <;> rfl
    · rfl
  | parent c p =>
    rw [Deed.perform]
    split
    · rw [Graph.withParentOf]
      split <;> rfl
    · rfl
  | _ => rfl

theorem teams_performAll {ds : List Deed} (hd : ∀ d ∈ ds, ∀ i n, d ≠ .team i n) (now : Instant) (g : Graph) :
    (Deed.performAll now ds g).teams = g.teams := by
  induction ds generalizing g with
  | nil => rfl
  | cons d ds ih =>
    rw [Deed.performAll_cons, ih fun d' hd' => hd d' (List.mem_cons_of_mem d hd'),
      teams_perform (hd d List.mem_cons_self)]

/-- **Teams have the name that they were given last.** -/
theorem teamName?_effect (accountKey : String) (now : Instant) (e : Event) (g : Graph) (i : String) :
    (e.effect accountKey now g).teamName? i = (e.names? i).or (g.teamName? i) := by
  have hsame : ∀ {g g' : Graph}, g'.teams = g.teams → g'.teamName? i = g.teamName? i := fun hg => by
    rw [Graph.teamName?, Graph.team?, hg]
    rfl
  cases e with
  | upsert p =>
    have hrest : ∀ d ∈ Deed.owner p.assetKey p.team.id ::
        Deed.containing p.assetKey (Account.named (p.valuesOf accountKey)).1, ∀ i n, d ≠ .team i n := by
      intro d hd
      simp only [Deed.containing, List.mem_cons, List.mem_flatMap, List.not_mem_nil, or_false] at hd
      rcases hd with rfl | ⟨arn, -, rfl | rfl⟩ <;> rintro _ _ ⟨⟩
    have hasset : (g.withAsset now p.assetKey).teams = g.teams :=
      teams_perform (d := .asset p.assetKey) (by rintro _ _ ⟨⟩) now g
    have hteam : ((Deed.team p.team.id p.team.name).perform now (g.withAsset now p.assetKey)).teamName? i =
        if i = p.team.id then some p.team.name else g.teamName? i := by
      rw [← hsame hasset]
      exact Deed.teamName?_withTeam _ _ _ _
    refine (hsame (teams_performAll hrest now _)).trans (hteam.trans ?_)
    rw [names?]
    split <;> rfl
  | retire r =>
    refine hsame (teams_performAll (fun d hd i n he => ?_) now g)
    have hf := fells_retire d hd
    rw [he] at hf
    cases hf

/-- Whether an event gives an asset to a team, or takes it away. -/
def gives? : Event → AssetKey → String → Option Bool
  | upsert p, k, i => if p.assetKey = k ∧ p.team.id = i then some true else none
  | retire r, k, i => if r.asset = k ∧ r.teamId = i then some false else none

theorem word_owner {e : Event} {k : AssetKey} {i : String} (hs : (g.times? (.owner k i)).isSome = true) :
    e.word accountKey g (.owner k i) = e.gives? k i := by
  cases e with
  | upsert p => simp only [word, gives?, Payload.mem_raises_owner]
  | retire r =>
    obtain ⟨x, hx⟩ := Option.isSome_iff_exists.1 hs
    obtain ⟨a, ha, hb⟩ := Option.bind_eq_some_iff.1 hx
    obtain ⟨t, ht, -⟩ := Option.bind_eq_some_iff.1 hb
    have hends : r.ends g (.owner k i) = true ↔ r.asset = k ∧ r.teamId = i := by
      constructor
      · intro he
        rw [Retirement.ends] at he
        split at he
        · simp only [Statement.isAt, Bool.and_false, Bool.or_false, decide_eq_true_eq,
            Statement.owner.injEq] at he
          exact ⟨he.1.symm, he.2.symm⟩
        · cases he
      · rintro ⟨rfl, rfl⟩
        simp [Retirement.ends, ha, ht]
    simp only [word, gives?, hends]

/-- **Ownerships are as they were given or taken last**, whatever else a graph tells. -/
theorem holds?_owner_effect (h : g.Sound) (accountKey : String) (now : Instant) (e : Event) (k : AssetKey)
    (i : String) :
    (e.effect accountKey now g).holds? (.owner k i) = amend (e.gives? k i) (g.holds? (.owner k i)) := by
  rw [Graph.holds?_eq, Graph.holds?_eq, times?_effect h accountKey]
  cases hx : g.times? (.owner k i) with
  | none =>
    -- what never was cannot be taken, and is given by the event alone
    cases e with
    | upsert p =>
      simp only [word, gives?, Payload.mem_raises_owner]
      split <;> rfl
    | retire r =>
      rw [word, gives?]
      split <;> split <;> rfl
  | some x =>
    obtain ⟨a, -, hb⟩ := Option.bind_eq_some_iff.1 hx
    obtain ⟨t, -, ho⟩ := Option.bind_eq_some_iff.1 hb
    obtain ⟨o, -, rfl⟩ := Option.map_eq_some_iff.1 ho
    rw [word_owner (by rw [hx]; rfl)]
    rcases e.gives? k i with _ | _ | _
    · rfl
    · exact congrArg some (Times.isLive_felled_held now o.startTime o.endTime)
    · exact congrArg some (Times.isLive_raised now o.times)

/-- **Whether others own an asset still**, said by keys. -/
theorem isOwnedByOthers_iff (h : g.IsKeyed) {k : AssetKey} {i a t : String} (hk : g.assetId? k = some a)
    (hi : g.teamId? i = some t) :
    g.isOwnedByOthers a t = true ↔ ∃ i', i' ≠ i ∧ g.holds? (.owner k i') = some true := by
  simp only [Graph.isOwnedByOthers, List.any_eq_true, Bool.and_eq_true, beq_iff_eq, bne_iff_ne]
  constructor
  · rintro ⟨o, ho, rfl, hne, hactive⟩
    obtain ⟨i', hi'⟩ := h.exists_teamId? ho
    refine ⟨i', ?_, (Graph.holds?_owner_eq_some_iff h.toWellFormed).2 ⟨o, ho, hk, hi', hactive⟩⟩
    rintro rfl
    exact hne (Option.some.inj (hi'.symm.trans hi))
  · rintro ⟨i', hne, hholds⟩
    obtain ⟨o, hm, ha', ht', hactive⟩ := (Graph.holds?_owner_eq_some_iff h.toWellFormed).1 hholds
    refine ⟨o, hm, ?_, ?_, hactive⟩
    · exact Option.some.inj (ha'.symm.trans hk)
    · intro he
      rw [he] at ht'
      exact hne ((h.teamId?_eq_some_iff hi).1 ht')

end Event

/-- **What a retirement ends, by keys**: it needs the asset and the team to be there, and nobody else to own the
asset. -/
theorem Retirement.ends_iff {g : Graph} (h : g.IsKeyed) {r : Retirement} {s : Statement} : r.ends g s = true ↔
    (g.times? (.asset r.asset)).isSome = true ∧ (g.teamName? r.teamId).isSome = true ∧
      (s = .owner r.asset r.teamId ∨
        (∀ i, i ≠ r.teamId → g.holds? (.owner r.asset i) ≠ some true) ∧ s.isAt r.asset = true) := by
  rw [ends]
  cases ha : g.asset? r.asset with
  | none => simp [Graph.assetId?, Graph.times?, ha]
  | some a =>
    cases ht : g.team? r.teamId with
    | none => simp [Graph.assetId?, Graph.teamId?, Graph.teamName?, ha, ht]
    | some t =>
      have hka : g.assetId? r.asset = some a.id := congrArg _ ha
      have hit : g.teamId? r.teamId = some t.id := congrArg _ ht
      have hothers : g.isOwnedByOthers a.id t.id = false ↔
          ∀ i, i ≠ r.teamId → g.holds? (.owner r.asset i) ≠ some true := by
        rw [← Bool.not_eq_true, Event.isOwnedByOthers_iff h hka hit]
        simp only [not_exists, not_and, ne_eq]
      simp only [hka, hit, Graph.times?, Graph.teamName?, ha, ht, Option.map_some, Option.isSome_some, true_and,
        Bool.or_eq_true, decide_eq_true_eq, Bool.and_eq_true, Bool.not_eq_true', hothers]

end AssetGraph
