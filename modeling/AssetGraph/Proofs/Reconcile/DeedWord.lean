import AssetGraph.Proofs.Reconcile.Statement
/-!
# The words of deeds

A deed raises a statement, or ends those that are about what it fells, and has no word on the others.  The
graph behind it tells the times that it told before, revised by its word (`Deed.times?_perform`).  Deeds of
one direction do not change each other's words, so a list of them has one word between them
(`Deed.times?_performAll`).
-/
namespace AssetGraph

namespace Deed

open AssetGraph.Graph (change Renews)
open Statement (amend)

/-- The statement that a deed makes true. -/
def raises? : Deed → Option Statement
  | asset k => some (.asset k)
  | owner k i => some (.owner k i)
  | parent c p => some (.parent c p)
  | _ => none

/-- Whether a deed ends what a statement is about. -/
def ends (g : Graph) : Deed → Statement → Bool
  | endOwner a t, .owner k i => g.assetId? k = some a ∧ g.teamId? i = some t
  | expireAsset a, .asset k => g.assetId? k = some a
  | expireEdge a b, .parent c p => g.assetId? c = some a ∧ g.assetId? p = some b
  | _, _ => false

/-- **The word of a deed on a statement.** -/
def word (g : Graph) (d : Deed) (s : Statement) : Option Bool :=
  if d.raises? = some s then some true else if d.ends g s then some false else none

variable {now : Instant} {g : Graph}

/-! ## Raising -/

theorem renews_withAsset (h : g.Sound) (now : Instant) (k k' : AssetKey) :
    Renews (g.assets.map (·.id)) (g.assetId? k') ((g.withAsset now k).assetId? k') := by
  unfold Graph.withAsset
  split
  · have hs : g.SameShape { g with
        assets := change (·.key = k) (Asset.seen now Instant.unexpired) g.assets } :=
      g.sameShape_assets _ fun _ => rfl
    exact .inl (hs.assetId? k')
  · rename_i hk
    unfold Graph.assetId? Graph.asset?
    rw [Graph.lookup_concat _ hk rfl]
    by_cases hkk : k' = k
    · rw [if_pos hkk, hkk, show g.assets.find? (·.key = k) = none from hk]
      refine .inr ⟨rfl, fun id hid hm => h.fresh "asset" _ (Nat.le_refl _) ?_⟩
      rw [show Graph.idOf "asset" g.issued = id from Option.some.inj hid]
      exact List.mem_append_left _ (List.mem_append_left _ (List.mem_append_left _ hm))
    · rw [if_neg hkk]
      exact .inl rfl

theorem renews_withTeam (h : g.Sound) (i n i' : String) :
    Renews (g.teams.map (·.id)) (g.teamId? i') ((g.withTeam i n).teamId? i') := by
  unfold Graph.withTeam
  split
  · have hs : g.SameShape { g with teams := change (·.identifier = i) (Team.named n) g.teams } :=
      g.sameShape_teams _ fun _ => rfl
    exact .inl (hs.teamId? i')
  · rename_i hk
    unfold Graph.teamId? Graph.team?
    rw [Graph.lookup_concat _ hk rfl]
    by_cases hii : i' = i
    · rw [if_pos hii, hii, show g.teams.find? (·.identifier = i) = none from hk]
      refine .inr ⟨rfl, fun id hid hm => h.fresh "team" _ (Nat.le_refl _) ?_⟩
      rw [show Graph.idOf "team" g.issued = id from Option.some.inj hid]
      exact List.mem_append_left _ (List.mem_append_left _ (List.mem_append_right _ hm))
    · rw [if_neg hii]
      exact .inl rfl

theorem teamName?_withTeam (g : Graph) (i n i' : String) :
    (g.withTeam i n).teamName? i' = if i' = i then some n else g.teamName? i' := by
  simp only [Graph.teamName?]
  unfold Graph.withTeam
  split
  · rename_i hk
    exact Graph.lookup_change_getD (f := Team.named n) Team.name (fun _ => n) n (fun _ => rfl) (fun _ => rfl) hk i'
  · rename_i hk
    exact Graph.lookup_concat _ hk rfl i'

theorem asset?_withAsset (g : Graph) (now : Instant) (k k' : AssetKey) :
    ((g.withAsset now k).asset? k').map Asset.times =
      if k' = k then some ((((g.asset? k').map Asset.times).getD (.seen now now Instant.unexpired)).raised now)
      else (g.asset? k').map Asset.times := by
  unfold Graph.withAsset
  split
  · rename_i hk
    exact Graph.lookup_change_getD (f := Asset.seen now Instant.unexpired) Asset.times (Times.raised now) _
      (fun _ => rfl) (fun _ => rfl) hk k'
  · rename_i hk
    exact Graph.lookup_concat_getD Asset.times (Times.raised now) _ hk rfl rfl k'

theorem owns?_withOwns (g : Graph) (now : Instant) (a t a' t' : String) :
    ((g.withOwns now a t).owns? a' t').map Owns.times =
      if (a', t') = (a, t) then some ((((g.owns? a' t').map Owns.times).getD (.held now none)).raised now)
      else (g.owns? a' t').map Owns.times := by
  unfold Graph.withOwns
  split
  · rename_i hk
    exact Graph.lookup_change_getD (f := Owns.until none) Owns.times (Times.raised now) _ (fun _ => rfl)
      (fun _ => rfl) hk (a', t')
  · rename_i hk
    exact Graph.lookup_concat_getD Owns.times (Times.raised now) _ hk rfl rfl (a', t')

theorem parentOf?_withParentOf (g : Graph) (now : Instant) (a b a' b' : String) :
    ((g.withParentOf now a b).parentOf? a' b').map ParentOf.times =
      if (a', b') = (a, b) then
        some ((((g.parentOf? a' b').map ParentOf.times).getD (.seen now now Instant.unexpired)).raised now)
      else (g.parentOf? a' b').map ParentOf.times := by
  unfold Graph.withParentOf
  split
  · rename_i hk
    exact Graph.lookup_change_getD (f := ParentOf.seen now Instant.unexpired) ParentOf.times (Times.raised now) _
      (fun _ => rfl) (fun _ => rfl) hk (a', b')
  · rename_i hk
    exact Graph.lookup_concat_getD ParentOf.times (Times.raised now) _ hk rfl rfl (a', b')

theorem times?_withAsset (h : g.Sound) (now : Instant) (k : AssetKey) (s : Statement) :
    (g.withAsset now k).times? s = s.revise now (if s = .asset k then some true else none) (g.times? s) := by
  have hrest : (g.withAsset now k).owns = g.owns ∧ (g.withAsset now k).parents = g.parents ∧
      (g.withAsset now k).teams = g.teams := by
    unfold Graph.withAsset
    split <;> exact ⟨rfl, rfl, rfl⟩
  obtain ⟨howns, hparents, hteams⟩ := hrest
  cases s with
  | asset k' =>
    simp only [Statement.asset.injEq, Statement.revise_ite]
    exact asset?_withAsset g now k k'
  | owner k' i =>
    rw [if_neg (by rintro ⟨⟩)]
    refine h.owner_of_renews howns (renews_withAsset h now k k') (.inl ?_)
    rw [Graph.teamId?, Graph.team?, hteams]
    rfl
  | parent c p =>
    rw [if_neg (by rintro ⟨⟩)]
    exact h.parent_of_renews hparents (renews_withAsset h now k)

theorem times?_withTeam (h : g.Sound) (i n : String) (s : Statement) :
    (g.withTeam i n).times? s = g.times? s := by
  have hrest : (g.withTeam i n).owns = g.owns ∧ (g.withTeam i n).parents = g.parents := by
    unfold Graph.withTeam
    split <;> exact ⟨rfl, rfl⟩
  have hid : ∀ k, (g.withTeam i n).assetId? k = g.assetId? k := fun k => by
    rw [Graph.assetId?, Graph.assetId?, Graph.asset?_withTeam]
  cases s with
  | asset k => rw [Graph.times?, Graph.times?, Graph.asset?_withTeam]
  | owner k i' => exact h.owner_of_renews hrest.1 (.inl (hid k)) (renews_withTeam h i n i')
  | parent c p => exact h.parent_of_renews hrest.2 fun k => .inl (hid k)

theorem times?_withOwns (h : g.Sound) (now : Instant) {k : AssetKey} {i a t : String}
    (hk : g.assetId? k = some a) (hi : g.teamId? i = some t) (s : Statement) :
    (g.withOwns now a t).times? s =
      s.revise now (if s = .owner k i then some true else none) (g.times? s) := by
  have hrest : (g.withOwns now a t).assets = g.assets ∧ (g.withOwns now a t).teams = g.teams ∧
      (g.withOwns now a t).parents = g.parents := by
    unfold Graph.withOwns
    split <;> exact ⟨rfl, rfl, rfl⟩
  obtain ⟨hassets, hteams, hparents⟩ := hrest
  have hasset : ∀ k', (g.withOwns now a t).assetId? k' = g.assetId? k' := fun k' => by
    rw [Graph.assetId?, Graph.asset?, hassets]
    rfl
  have hteam : ∀ i', (g.withOwns now a t).teamId? i' = g.teamId? i' := fun i' => by
    rw [Graph.teamId?, Graph.team?, hteams]
    rfl
  cases s with
  | asset k' =>
    rw [if_neg (by rintro ⟨⟩), Graph.times?, Graph.asset?, hassets]
    rfl
  | owner k' i' =>
    rw [Statement.revise_ite, Graph.times?, hasset, hteam, Graph.bind_change (owns?_withOwns g now a t)
      (w := fun before => some ((before.getD (.held now none)).raised now))]
    simp only [h.assetId?_eq_some_iff hk, h.teamId?_eq_some_iff hi, Statement.owner.injEq, Graph.times?,
      Statement.begun]
  | parent c p =>
    rw [if_neg (by rintro ⟨⟩), Graph.times?, hasset, hasset]
    simp only [Graph.parentOf?, hparents]
    rfl

theorem times?_withParentOf (h : g.Sound) (now : Instant) {c p : AssetKey} {a b : String}
    (hc : g.assetId? c = some a) (hp : g.assetId? p = some b) (s : Statement) :
    (g.withParentOf now a b).times? s =
      s.revise now (if s = .parent c p then some true else none) (g.times? s) := by
  have hrest : (g.withParentOf now a b).assets = g.assets ∧ (g.withParentOf now a b).teams = g.teams ∧
      (g.withParentOf now a b).owns = g.owns := by
    unfold Graph.withParentOf
    split <;> exact ⟨rfl, rfl, rfl⟩
  obtain ⟨hassets, hteams, howns⟩ := hrest
  have hasset : ∀ k', (g.withParentOf now a b).assetId? k' = g.assetId? k' := fun k' => by
    rw [Graph.assetId?, Graph.asset?, hassets]
    rfl
  cases s with
  | asset k' =>
    rw [if_neg (by rintro ⟨⟩), Graph.times?, Graph.asset?, hassets]
    rfl
  | owner k' i' =>
    rw [if_neg (by rintro ⟨⟩), Graph.times?, hasset, Graph.teamId?, Graph.team?, hteams]
    simp only [Graph.owns?, howns]
    rfl
  | parent c' p' =>
    rw [Statement.revise_ite, Graph.times?, hasset, hasset, Graph.bind_change (parentOf?_withParentOf g now a b)
      (w := fun before => some ((before.getD (.seen now now Instant.unexpired)).raised now))]
    simp only [h.assetId?_eq_some_iff hc, h.assetId?_eq_some_iff hp, Statement.parent.injEq, Graph.times?,
      Statement.begun]

/-! ## Ending -/

theorem owns?_endOwner (g : Graph) (now : Instant) (a t a' t' : String) :
    (((endOwner a t).perform now g).owns? a' t').map Owns.times =
      if (a', t') = (a, t) then ((g.owns? a' t').map Owns.times).map (Times.felled now)
      else (g.owns? a' t').map Owns.times := by
  refine Graph.lookup_change (f := Owns.until (some now)) (fun _ => rfl) (fun _ ho => ho.1)
    (fun o ho => ?_) (a', t')
  by_cases hend : o.endTime = none
  · rw [if_pos ⟨ho, hend⟩, Owns.times, Owns.times, hend]
    rfl
  · obtain ⟨x, hx⟩ := Option.ne_none_iff_exists'.1 hend
    rw [if_neg fun hp => hend hp.2, Owns.times, hx]
    rfl

theorem parentOf?_expireEdge (g : Graph) (now : Instant) (a b a' b' : String) :
    (((expireEdge a b).perform now g).parentOf? a' b').map ParentOf.times =
      if (a', b') = (a, b) then ((g.parentOf? a' b').map ParentOf.times).map (Times.felled now)
      else (g.parentOf? a' b').map ParentOf.times := by
  refine Graph.lookup_change (f := ParentOf.seen now now) (fun _ => rfl) (fun _ he => he.1)
    (fun e he => ?_) (a', b')
  show ParentOf.times _ = Times.felled now (.seen e.firstSeen e.lastSeen e.expiration)
  rw [Times.felled]
  by_cases hlt : now < e.expiration
  · rw [if_pos ⟨he, hlt⟩, if_pos hlt]
    rfl
  · rw [if_neg fun hp => hlt hp.2, if_neg hlt]
    rfl

theorem times?_asset_expireAsset (g : Graph) (now : Instant) (id : String) (k : AssetKey) :
    ((expireAsset id).perform now g).times? (.asset k) =
      if g.assetId? k = some id then (g.times? (.asset k)).map (Times.felled now)
      else g.times? (.asset k) := by
  have hfind : ((expireAsset id).perform now g).asset? k =
      (g.asset? k).map fun a => if a.id = id ∧ now < a.expiration then a.seen now now else a :=
    Graph.find?_change (f := Asset.seen now now) (fun _ => rfl) g.assets
  rw [Graph.times?, Graph.times?, hfind, Graph.assetId?]
  cases g.asset? k with
  | none => rfl
  | some a =>
    simp only [Option.map_some, Option.some.injEq]
    by_cases hid : a.id = id
    · rw [if_pos hid]
      show some (Asset.times _) = some (Times.felled now (.seen a.firstSeen a.lastSeen a.expiration))
      rw [Times.felled]
      by_cases hlt : now < a.expiration
      · rw [if_pos ⟨hid, hlt⟩, if_pos hlt]
        rfl
      · rw [if_neg fun h => hlt h.2, if_neg hlt]
        rfl
    · rw [if_neg hid, if_neg fun h => hid h.1]

theorem sameShape_of_fells {d : Deed} (hf : d.fells = true) (now : Instant) (g : Graph) :
    g.SameShape (d.perform now g) := by
  cases d with
  | endOwner a t => exact g.sameShape_owns _ fun _ => rfl
  | expireAsset id => exact g.sameShape_assets _ fun _ => rfl
  | expireEdge a b => exact g.sameShape_parents _ fun _ => rfl
  | _ => cases hf

/-- **An end revises the times of what it is about**, if that ever was, and leaves all others alone. -/
theorem times?_end (g : Graph) (now : Instant) {d : Deed} (hf : d.fells = true) (s : Statement) :
    (d.perform now g).times? s = s.revise now (if d.ends g s then some false else none) (g.times? s) := by
  have hs := sameShape_of_fells hf now g
  have hrevise : s.revise now (if d.ends g s then some false else none) (g.times? s) =
      if d.ends g s then (g.times? s).map (Times.felled now) else g.times? s := by
    split <;> rfl
  rw [hrevise]
  cases d with
  | endOwner a t =>
    cases s with
    | owner k i =>
      rw [Graph.times?, hs.assetId?, hs.teamId?, Graph.bind_change (owns?_endOwner g now a t)
        (w := Option.map (Times.felled now))]
      simp only [ends, decide_eq_true_eq, Graph.times?]
    | _ => rfl
  | expireAsset id =>
    cases s with
    | asset k =>
      rw [times?_asset_expireAsset]
      simp only [ends, decide_eq_true_eq]
    | owner k i =>
      rw [Graph.times?, hs.assetId?]
      rfl
    | parent c p =>
      rw [Graph.times?, hs.assetId?, hs.assetId?]
      rfl
  | expireEdge a b =>
    cases s with
    | parent c p =>
      rw [Graph.times?, hs.assetId?, hs.assetId?, Graph.bind_change (parentOf?_expireEdge g now a b)
        (w := Option.map (Times.felled now))]
      simp only [ends, decide_eq_true_eq, Graph.times?]
    | _ => rfl
  | _ => cases hf

/-! ## Both -/

theorem raises?_of_fells {d : Deed} (hf : d.fells = true) : d.raises? = none := by
  cases d with
  | endOwner _ _ => rfl
  | expireAsset _ => rfl
  | expireEdge _ _ => rfl
  | _ => cases hf

theorem ends_of_not_fells {d : Deed} (hf : d.fells = false) (g : Graph) (s : Statement) :
    d.ends g s = false := by
  cases d with
  | endOwner _ _ => cases hf
  | expireAsset _ => cases hf
  | expireEdge _ _ => cases hf
  | _ => rfl

theorem word_of_fells {d : Deed} (hf : d.fells = true) (g : Graph) (s : Statement) :
    d.word g s = if d.ends g s then some false else none := by
  rw [word, raises?_of_fells hf, if_neg (by rintro ⟨⟩)]

theorem word_of_not_fells {d : Deed} (hf : d.fells = false) (g : Graph) (s : Statement) :
    d.word g s = if d.raises? = some s then some true else none := by
  rw [word, ends_of_not_fells hf, if_neg Bool.false_ne_true]

/-- **The times after a deed**: those before, revised by the deed's word. -/
theorem times?_perform (h : g.Sound) (now : Instant) {d : Deed} (hr : d.IsReady g) (s : Statement) :
    (d.perform now g).times? s = s.revise now (d.word g s) (g.times? s) := by
  cases hf : d.fells with
  | true => rw [times?_end g now hf, word_of_fells hf]
  | false =>
    rw [word_of_not_fells hf]
    cases d with
    | asset k =>
      rw [perform, times?_withAsset h]
      simp only [raises?, Option.some.injEq, eq_comm]
    | team i n => exact times?_withTeam h i n s
    | owner k i =>
      obtain ⟨a, ha⟩ := Option.isSome_iff_exists.1 hr.1
      obtain ⟨t, ht⟩ := Option.isSome_iff_exists.1 hr.2
      simp only [perform, ha, ht]
      rw [times?_withOwns h now (congrArg _ ha) (congrArg _ ht)]
      simp only [raises?, Option.some.injEq, eq_comm]
    | parent c p =>
      obtain ⟨a, ha⟩ := Option.isSome_iff_exists.1 hr.1
      obtain ⟨b, hb⟩ := Option.isSome_iff_exists.1 hr.2
      simp only [perform, ha, hb]
      rw [times?_withParentOf h now (congrArg _ ha) (congrArg _ hb)]
      simp only [raises?, Option.some.injEq, eq_comm]
    | _ => cases hf

/-- Deeds of one direction do not change each other's words. -/
theorem word_perform {d d' : Deed} (hf : d'.fells = d.fells) (s : Statement) :
    d'.word (d.perform now g) s = d'.word g s := by
  cases hd : d.fells with
  | true =>
    have hs := sameShape_of_fells hd now g
    have hends : d'.ends (d.perform now g) s = d'.ends g s := by
      unfold ends
      split <;> simp only [hs.assetId?, hs.teamId?]
    rw [word_of_fells (hf.trans hd), word_of_fells (hf.trans hd), hends]
  | false => rw [word_of_not_fells (hf.trans hd), word_of_not_fells (hf.trans hd)]

/-- **The times after deeds of one direction**: they have one word between them. -/
theorem times?_performAll (h : g.Sound) {now : Instant} {fells : Bool} {ds : List Deed}
    (hf : ∀ d ∈ ds, d.fells = fells) (hr : AreReady now ds g) (s : Statement) :
    (performAll now ds g).times? s = s.revise now (ds.findSome? (·.word g s)) (g.times? s) := by
  induction ds generalizing g with
  | nil => rfl
  | cons d ds ih =>
    have hd := hf d List.mem_cons_self
    have hrest : ∀ d' ∈ ds, d'.fells = fells := fun d' hd' => hf d' (List.mem_cons_of_mem d hd')
    have hword : ds.findSome? (·.word (d.perform now g) s) = ds.findSome? (·.word g s) := by
      rw [← List.head?_filterMap, ← List.head?_filterMap]
      refine congrArg _ (List.filterMap_congr fun d' hd' => ?_)
      exact word_perform ((hrest d' hd').trans hd.symm) s
    have hall : ∀ d' ∈ d :: ds, d'.word g s = none ∨ d'.word g s = some !fells := by
      intro d' hd'
      have hf' := hf d' hd'
      cases fells with
      | true =>
        rw [word_of_fells hf']
        split
        · exact .inr rfl
        · exact .inl rfl
      | false =>
        rw [word_of_not_fells hf']
        split
        · exact .inr rfl
        · exact .inl rfl
    rw [performAll_cons, ih (sound_perform h d) hrest hr.2, hword, times?_perform h now hr.1,
      List.findSome?_cons]
    rcases hall d List.mem_cons_self with hw | hw
    · rw [hw]
      rfl
    · rw [hw]
      refine Statement.revise_revise ?_ now s _
      cases hfind : ds.findSome? (·.word g s) with
      | none => exact .inl rfl
      | some b =>
        obtain ⟨d', hd', hb⟩ := List.exists_of_findSome?_eq_some hfind
        rw [← hb]
        exact (hall d' (List.mem_cons_of_mem d hd'))

/-- **What a graph tells after deeds of one direction.** -/
theorem holds?_performAll (h : g.Sound) (hn : now < Instant.unexpired) {fells : Bool} {ds : List Deed}
    (hf : ∀ d ∈ ds, d.fells = fells) (hr : AreReady now ds g) (s : Statement) :
    (performAll now ds g).holds? s = amend (ds.findSome? (·.word g s)) (g.holds? s) := by
  rw [Graph.holds?_eq, Graph.holds?_eq, times?_performAll h hf hr, Statement.map_isLive_revise hn]

end Deed

end AssetGraph
