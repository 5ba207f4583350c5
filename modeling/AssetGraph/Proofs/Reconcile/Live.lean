import AssetGraph.Proofs.Reconcile.History
import AssetGraph.Proofs.Reconcile.Reach
/-!
# What is live

Two invariants of a graph that tell what carries the sentinel.  Whatever somebody owns does
(`Graph.IsHeld`); every deed of an event is done in an order that keeps this, so it holds behind each
call, whatever fails (`Graph.Reached.owned_is_unexpired`).  And an edge that does has both its ends
doing so (`Graph.IsJoined`); an event that is cut short may break this, and one that is loaded to its end
keeps it (`Graph.loadAll_joins_the_unexpired`).
-/
namespace AssetGraph

namespace Graph

open Statement (amend)

variable {accountKey : String} {now : Instant} {g : Graph}

theorem WellFormed.asset?_of_mem (h : g.WellFormed) {a : Asset} (ha : a ∈ g.assets) :
    g.asset? a.key = some a :=
  h.asset?_eq_some_iff.2 ⟨ha, rfl⟩

theorem WellFormed.assetId?_of_mem (h : g.WellFormed) {a : Asset} (ha : a ∈ g.assets) :
    g.assetId? a.key = some a.id :=
  congrArg _ (h.asset?_of_mem ha)

theorem WellFormed.holds?_asset_of_mem (h : g.WellFormed) {a : Asset} (ha : a ∈ g.assets) :
    g.holds? (.asset a.key) = some a.isUnexpired := by
  rw [holds?, h.asset?_of_mem ha, Option.map_some]

/-! ## Owned assets -/

/-- **Whatever somebody owns carries the sentinel.** -/
def IsHeld (g : Graph) : Prop :=
  ∀ k i, g.holds? (.owner k i) = some true → g.holds? (.asset k) = some true

theorem isHeld_empty : IsHeld empty := fun _ _ ho => by cases ho

/-- The first deed of an upsert raises the asset, before any makes a team its owner. -/
theorem IsHeld.upsert (hh : g.IsHeld) (h : g.Sound) (hn : now < Instant.unexpired) {p : Payload}
    {pre : List Deed} (hp : pre <+: (Event.upsert p).deeds accountKey g) :
    (Deed.performAll now pre g).IsHeld := by
  have hafter := Event.holds?_raised h hn (fun d hd => Event.fells_upsert accountKey g p d (hp.subset hd))
    (Event.areReady_of_prefix h now hp)
  have hfirst : ∀ s ∈ pre.filterMap Deed.raises?, .asset p.assetKey ∈ pre.filterMap Deed.raises? := by
    intro s hs
    rcases List.prefix_cons_iff.1 hp with rfl | ⟨post, rfl, -⟩
    · cases hs
    · exact List.mem_cons_self
  intro k i ho
  rw [hafter] at ho ⊢
  by_cases hraised : .owner k i ∈ pre.filterMap Deed.raises?
  · have hall : .owner k i ∈ p.raises accountKey := by
      rw [← Event.raises_deeds accountKey g p]
      exact (hp.sublist.filterMap _).subset hraised
    obtain ⟨rfl, -⟩ := Payload.mem_raises_owner.1 hall
    exact if_pos (hfirst _ hraised)
  · rw [if_neg hraised] at ho
    rw [hh k i ho, ite_self]

/-- A retirement ends the team's ownership first, and then the asset only where nobody else owns it. -/
theorem IsHeld.retire (hh : g.IsHeld) (h : g.Sound) (hn : now < Instant.unexpired) {r : Retirement}
    {pre : List Deed} (hp : pre <+: (Event.retire r).deeds accountKey g) :
    (Deed.performAll now pre g).IsHeld := by
  have hafter := Event.holds?_felled h hn (fun d hd => Event.fells_retire d (hp.subset hd))
    (Event.areReady_of_prefix h now hp)
  intro k i ho
  rw [hafter] at ho ⊢
  by_cases howner : ∃ d ∈ pre, d.ends g (.owner k i) = true
  · rw [if_pos howner, Option.map_eq_some_iff] at ho
    obtain ⟨_, -, hf⟩ := ho
    cases hf
  rw [if_neg howner] at ho
  rw [hh k i ho, if_neg]
  rintro ⟨d, hd, hends⟩
  rcases Event.prefix_deeds_retire hp with rfl | ⟨a, t, post, ha, ht, rfl, hpost⟩
  · cases hd
  have hka : g.assetId? r.asset = some a.id := congrArg _ ha
  have hit : g.teamId? r.teamId = some t.id := congrArg _ ht
  rcases List.mem_cons.1 hd with rfl | hd
  · cases hends
  rcases hpost with rfl | ⟨hothers, hall⟩
  · cases hd
  rcases hall d hd with rfl | ⟨c, p, rfl⟩
  · -- the asset is the one given up, and the ownership that is left is another team's
    obtain rfl := (h.assetId?_eq_some_iff hka).1 (of_decide_eq_true hends)
    have hi : i ≠ r.teamId := by
      rintro rfl
      exact howner ⟨_, List.mem_cons_self, decide_eq_true ⟨hka, hit⟩⟩
    rw [(Event.isOwnedByOthers_iff h.toIsKeyed hka hit).2 ⟨i, hi, ho⟩] at hothers
    cases hothers
  · cases hends

theorem Reached.isHeld {xs : List (Instant × Event)} (h : Reached accountKey xs g)
    (hn : ∀ x ∈ xs, x.1 < Instant.unexpired) : g.IsHeld := by
  induction h with
  | empty => exact isHeld_empty
  | @load xs g x h now t e hp ih =>
    have hbefore := ih fun y hy => hn y (List.mem_append_left _ hy)
    have hnow : now < Instant.unexpired := hn (now, e) (List.mem_append_right _ List.mem_cons_self)
    obtain ⟨pre, hpre, rfl⟩ := Event.deeds_of_passes h.sound hp
    cases e with
    | upsert p => exact hbefore.upsert h.sound hnow hpre
    | retire r => exact hbefore.retire h.sound hnow hpre

/-- **An asset that somebody owns is never expired.**  Take any graph that a history of loads reaches, at
times before the sentinel and in whatever order: behind any call of a load, or at its end, whichever
calls have failed.  An asset with an ownership that has no end carries the sentinel. -/
theorem Reached.owned_is_unexpired {xs : List (Instant × Event)} (h : Reached accountKey xs g)
    (hn : ∀ x ∈ xs, x.1 < Instant.unexpired) :
    ∀ a ∈ g.assets, ∀ o ∈ g.owns, o.assetId = a.id → o.endTime = none →
      a.expiration = Instant.unexpired := by
  intro a ha o ho hid hend
  have hs := h.sound
  obtain ⟨i, hi⟩ := hs.exists_teamId? ho
  have howner : g.holds? (.owner a.key i) = some true :=
    (holds?_owner_eq_some_iff hs.toWellFormed).2
      ⟨o, ho, hid ▸ hs.assetId?_of_mem ha, hi, Owns.isActive_iff.2 hend⟩
  have hasset := h.isHeld hn a.key i howner
  rw [hs.holds?_asset_of_mem ha, Option.some.injEq] at hasset
  exact Asset.isUnexpired_iff.1 hasset

/-- A second owner's upsert breaks off, the first gives the asset up until the asset is not found, and
the second's upsert is loaded again. -/
theorem Reached.owned_is_unexpired_after_two_failures :
    let k : AssetKey := { type := "Hostname", identifier := "h" }
    let p (i : String) : Event :=
      .upsert { id := "h", team := { id := i, name := i }, assetType := k.type, identifier := k.identifier }
    let r : Event := .retire { asset := k, teamId := "t", assetId := "h" }
    let load (g : Graph) (now : Instant) (e : Event) (faults : List Fault) : Graph :=
      (Scene.load "account" e { graph := g, now, faults }).2.graph
    let t (second : Int) : Instant := { second }
    let g₁ := load Graph.empty (t 1) (p "t") []
    let g₂ := load g₁ (t 2) (p "u") [{ method := .owners, error := .transport "down" }]
    let g₃ := load g₂ (t 3) r [{ method := .updateAsset, error := .notFound "h" }]
    let g₄ := load g₃ (t 4) (p "u") []
    let xs := [(t 1, p "t"), (t 2, p "u"), (t 3, r), (t 4, p "u")]
    Reached "account" xs g₄ ∧ (∀ x ∈ xs, x.1 < Instant.unexpired) ∧
      ∃ a ∈ g₄.assets, ∃ o ∈ g₄.owns, o.assetId = a.id ∧ o.endTime = none ∧
        a.expiration = Instant.unexpired := by
  intro k p r load t g₁ g₂ g₃ g₄ xs
  have hload {xs : List (Instant × Event)} {g : Graph} (h : Reached "account" xs g) (now : Instant)
      (e : Event) (faults : List Fault) : Reached "account" (xs ++ [(now, e)]) (load g now e faults) :=
    Reached.scene (s := { graph := g, now, faults }) h e
  have h₁ : Reached "account" [(t 1, p "t")] g₁ := hload .empty (t 1) (p "t") _
  have h₂ : Reached "account" [(t 1, p "t"), (t 2, p "u")] g₂ := hload h₁ (t 2) (p "u") _
  have h₃ : Reached "account" [(t 1, p "t"), (t 2, p "u"), (t 3, r)] g₃ := hload h₂ (t 3) r _
  have h : Reached "account" xs g₄ := hload h₃ (t 4) (p "u") _
  have hn : ∀ x ∈ xs, x.1 < Instant.unexpired := by decide +kernel
  obtain ⟨a, ha, o, ho, hid, hend⟩ :
      ∃ a ∈ g₄.assets, ∃ o ∈ g₄.owns, o.assetId = a.id ∧ o.endTime = none := by
    decide +kernel
  exact ⟨h, hn, a, ha, o, ho, hid, hend, h.owned_is_unexpired hn a ha o ho hid hend⟩

/-! ## Edges between assets -/

/-- **An edge that carries the sentinel joins assets that do.** -/
def IsJoined (g : Graph) : Prop :=
  ∀ c p k, g.holds? (.parent c p) = some true → k = c ∨ k = p → g.holds? (.asset k) = some true

theorem isJoined_empty : IsJoined empty := fun _ _ _ he => by cases he

/-- An upsert raises both ends of the edges that it raises. -/
theorem IsJoined.upsert (hj : g.IsJoined) (h : g.Sound) (accountKey : String) (hn : now < Instant.unexpired)
    (p : Payload) : ((Event.upsert p).effect accountKey now g).IsJoined := by
  intro c q k he hk
  rw [Event.holds?_effect h accountKey hn, Event.word] at he ⊢
  by_cases hraised : .parent c q ∈ p.raises accountKey
  · have hend : .asset k ∈ p.raises accountKey := by
      simp only [Payload.raises, List.mem_cons, reduceCtorEq, List.mem_flatMap, Statement.parent.injEq,
        List.not_mem_nil, or_false, false_or] at hraised
      obtain ⟨arn, harn, rfl, rfl⟩ := hraised
      rcases hk with rfl | rfl
      · exact List.mem_cons_self
      · refine List.mem_cons_of_mem _ (List.mem_cons_of_mem _ (List.mem_flatMap.2 ⟨arn, harn, ?_⟩))
        exact List.mem_cons_self
    rw [if_pos hend]
    rfl
  · rw [if_neg hraised] at he
    rw [hj c q k he hk]
    split <;> rfl

/-- A retirement ends the edges at whatever it ends. -/
theorem IsJoined.retire (hj : g.IsJoined) (h : g.Sound) (accountKey : String) (hn : now < Instant.unexpired)
    (r : Retirement) : ((Event.retire r).effect accountKey now g).IsJoined := by
  intro c q k he hk
  rw [Event.holds?_effect h accountKey hn, Event.word] at he ⊢
  cases hedge : r.ends g (.parent c q) with
  | true =>
    rw [hedge, if_pos rfl, Statement.amend_false, Option.map_eq_some_iff] at he
    obtain ⟨_, -, hf⟩ := he
    cases hf
  | false =>
    rw [hedge, if_neg Bool.false_ne_true] at he
    have hasset : r.ends g (.asset k) = false := by
      refine Bool.eq_false_iff.2 fun hends => Bool.eq_false_iff.1 hedge ?_
      rw [Retirement.ends] at hends ⊢
      split at hends
      · simp only [Statement.isAt, reduceCtorEq, decide_false, Bool.false_or, Bool.and_eq_true,
          decide_eq_true_eq] at hends ⊢
        obtain ⟨hothers, rfl⟩ := hends
        refine ⟨hothers, ?_⟩
        rw [Bool.or_eq_true, decide_eq_true_eq, decide_eq_true_eq]
        exact hk.imp Eq.symm Eq.symm
      · cases hends
    rw [hasset, if_neg Bool.false_ne_true, Statement.amend_none]
    exact hj c q k he hk

theorem Loaded.isJoined {es : List Event} (h : Loaded accountKey es g) : g.IsJoined := by
  induction h with
  | empty => exact isJoined_empty
  | @load es g h now e hn _ ih =>
    cases e with
    | upsert p => exact ih.upsert h.sound accountKey hn p
    | retire r => exact ih.retire h.sound accountKey hn r

/-- **Live containment joins live assets.**  Say that all of a history has been loaded into an empty graph,
at times before the sentinel.  Then each edge that carries the sentinel has one child and one parent, and
both carry it, whether they are accounts or not, and whether they are two or one. -/
theorem loadAll_joins_the_unexpired (accountKey : String) {xs : List (Instant × Event)} {g : Graph}
    (hg : loadAll accountKey xs empty = some g) (hn : ∀ x ∈ xs, x.1 < Instant.unexpired) :
    ∀ e ∈ g.parents, e.expiration = Instant.unexpired →
      ∃ c p, g.assets.filter (·.id = e.childId) = [c] ∧ g.assets.filter (·.id = e.parentId) = [p] ∧
        c.expiration = Instant.unexpired ∧ p.expiration = Instant.unexpired := by
  intro e he hlive
  have h : Loaded accountKey (xs.map Prod.snd) g := Loaded.empty.loadAll hn hg
  have hs := h.sound
  have hone : ∀ {a : Asset} {id : String}, a ∈ g.assets → a.id = id → g.assets.filter (·.id = id) = [a] := by
    intro a id ha hid
    rw [filter_key_eq hs.assetIds, (find?_key_eq_some_iff hs.assetIds).2 ⟨ha, hid⟩]
    rfl
  obtain ⟨hchild, hparent⟩ := hs.contained e he
  obtain ⟨c, hc, hcid⟩ := List.mem_map.1 hchild
  obtain ⟨p, hp, hpid⟩ := List.mem_map.1 hparent
  have hedge : g.holds? (.parent c.key p.key) = some true :=
    (holds?_parent_eq_some_iff hs.toWellFormed).2 ⟨e, he, hcid ▸ hs.assetId?_of_mem hc,
      hpid ▸ hs.assetId?_of_mem hp, ParentOf.isUnexpired_iff.2 hlive⟩
  have hend : ∀ {a : Asset}, a ∈ g.assets → a.key = c.key ∨ a.key = p.key →
      a.expiration = Instant.unexpired := by
    intro a ha hk
    have hasset := h.isJoined _ _ _ hedge hk
    rw [hs.holds?_asset_of_mem ha, Option.some.injEq] at hasset
    exact Asset.isUnexpired_iff.1 hasset
  exact ⟨c, p, hone hc hcid, hone hp hpid, hend hc (.inl rfl), hend hp (.inr rfl)⟩

/-- An account that is in itself, and a host in it and in another account, which is given up. -/
theorem loadAll_joins_the_unexpired_of_an_account_in_itself :
    let a (arn : String) : AssetKey := { type := Account.assetType, identifier := arn }
    let first := "arn:aws:iam::123456789012:root"
    let second := "arn:aws:iam::210987654321:root"
    let p (k : AssetKey) (i : String) (values : List String) : Event :=
      .upsert { team := { id := i, name := i }, assetType := k.type, identifier := k.identifier
                annotations := values.map fun value => { key := "account", value } }
    let xs : List (Instant × Event) :=
      [({ second := 1 }, p (a first) "ops" [first]),
        ({ second := 2 }, p { type := "Hostname", identifier := "h" } "t" [first, second]),
        ({ second := 3 }, .retire { asset := a second, teamId := "t", assetId := second })]
    (∀ x ∈ xs, x.1 < Instant.unexpired) ∧ ∃ g, loadAll "account" xs empty = some g ∧
      g.parents.map (·.isUnexpired) = [true, true, false] ∧
      ∃ e ∈ g.parents, e.childId = e.parentId ∧ e.expiration = Instant.unexpired ∧
        ∃ c p, g.assets.filter (·.id = e.childId) = [c] ∧ g.assets.filter (·.id = e.parentId) = [p] ∧
          c.expiration = Instant.unexpired ∧ p.expiration = Instant.unexpired := by
  intro a first second p xs
  have hn : ∀ x ∈ xs, x.1 < Instant.unexpired := by decide
  obtain ⟨g, hg⟩ : ∃ g, loadAll "account" xs empty = some g :=
    Option.isSome_iff_exists.1 (by decide +kernel)
  have hget : g = (loadAll "account" xs empty).get (by decide +kernel) := by simp only [hg, Option.get_some]
  have hlive : g.parents.map (·.isUnexpired) = [true, true, false] := by
    rw [hget]
    decide +kernel
  obtain ⟨e, he, hself, hx⟩ : ∃ e ∈ g.parents, e.childId = e.parentId ∧ e.expiration = Instant.unexpired := by
    rw [hget]
    decide +kernel
  exact ⟨hn, g, hg, hlive, e, he, hself, hx, loadAll_joins_the_unexpired "account" hg hn e he hx⟩

end Graph

end AssetGraph
