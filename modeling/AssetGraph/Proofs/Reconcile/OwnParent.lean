import AssetGraph.Proofs.Reconcile.Account
import AssetGraph.Proofs.Reconcile.Cascade
import AssetGraph.Proofs.Reconcile.Live
import AssetGraph.Proofs.Reconcile.Retirement
import Mathlib.Data.Multiset.Filter
/-!
# An asset that is its own parent

The cascade of a retirement lists the edges from an asset to its parents and those from its children, and asks
once for each entry to expire.  An edge is in both lists just if it is the asset's edge to itself, which then is
asked for and counted twice (`Graph.Reached.cascade_expires_edges`).  All that a reached graph tells goes back to
an upsert (`Graph.Reached.mem_raises`), and so does such an edge: to one of an account that names the account
itself.
-/
namespace AssetGraph

namespace Plan

variable {α β σ : Type} {serve : Server σ} {s s' : σ}

theorem calls_bind (serve : Server σ) (p : Plan α) (f : α → Plan β) (s : σ) :
    (p >>= f).calls serve s = p.calls serve s ++
      match p.run serve s with
      | (.ok a, s') => (f a).calls serve s'
      | (.error _, _) => [] := by
  rw [bind_eq]
  induction p generalizing s with
  | done a => rfl
  | fail e => rfl
  | call c next ih => exact congrArg _ (ih _ _)

theorem calls_ask_bind {c : Call} {a : c.Answer} (h : serve c s = (.ok a, s')) (f : c.Answer → Plan β) :
    (ask c >>= f).calls serve s = c :: (f a).calls serve s' := by
  rw [calls_bind, run_ask, ask, calls, h]
  rfl

/-- Answering with something else asks for nothing else. -/
theorem calls_bind_done (serve : Server σ) (p : Plan α) (f : α → β) (s : σ) :
    (p >>= fun a => .done (f a)).calls serve s = p.calls serve s := by
  rw [calls_bind]
  rcases p.run serve s with ⟨_ | _, s'⟩ <;> exact List.append_nil _

end Plan

/-! ## Where edges come from -/

theorem Payload.mem_raises_parent {accountKey : String} {p : Payload} {child parent : AssetKey} :
    .parent child parent ∈ p.raises accountKey ↔ p.assetKey = child ∧ ∃ a : Account, a.asset = parent ∧
      ∃ x ∈ (p.valuesOf accountKey).takeWhile fun x => (Account.normalize? x).isSome, a.IsWrittenAs x := by
  simp only [raises, List.mem_cons, reduceCtorEq, List.mem_flatMap, Statement.parent.injEq, List.not_mem_nil,
    or_false, false_or, Account.named_eq, List.mem_filterMap, Account.normalize?_eq_some_iff]
  constructor
  · rintro ⟨arn, ⟨x, hx, a, ha, rfl⟩, rfl, rfl⟩
    exact ⟨rfl, a, rfl, x, hx, ha⟩
  · rintro ⟨rfl, a, rfl, x, hx, ha⟩
    exact ⟨a.rootName, ⟨x, hx, a, ha, rfl⟩, rfl, rfl⟩

namespace Graph

variable {accountKey : String} {xs : List (Instant × Event)} {g : Graph} {id : String} {now : Instant}

/-- **A reached graph tells nothing but what upserts have raised**, whatever has failed. -/
theorem Reached.mem_raises (h : Reached accountKey xs g) {s : Statement} (hs : (g.times? s).isSome = true) :
    ∃ t p, (t, .upsert p) ∈ xs ∧ s ∈ p.raises accountKey := by
  induction h with
  | empty => cases s <;> cases hs
  | @load xs g x h now _ e hp ih =>
    have hbefore (hs : (g.times? s).isSome = true) :
        ∃ t p, (t, .upsert p) ∈ xs ++ [(now, e)] ∧ s ∈ p.raises accountKey := by
      obtain ⟨t, p, hm, hr⟩ := ih hs
      exact ⟨t, p, List.mem_append_left _ hm, hr⟩
    obtain ⟨pre, hpre, rfl⟩ := Event.deeds_of_passes h.sound hp
    have hready := Event.areReady_of_prefix h.sound now hpre
    cases e with
    | upsert p =>
      have hf : ∀ d ∈ pre, d.fells = false := fun d hd => Event.fells_upsert accountKey g p d (hpre.subset hd)
      rw [Deed.times?_performAll h.sound hf hready, Event.word_raised hf] at hs
      by_cases hraised : s ∈ pre.filterMap Deed.raises?
      · have hall : s ∈ p.raises accountKey := by
          rw [← Event.raises_deeds accountKey g p]
          exact (hpre.sublist.filterMap _).subset hraised
        exact ⟨now, p, List.mem_append_right _ List.mem_cons_self, hall⟩
      · rw [if_neg hraised] at hs
        exact hbefore hs
    | retire r =>
      have hf : ∀ d ∈ pre, d.fells = true := fun d hd => Event.fells_retire d (hpre.subset hd)
      rw [Deed.times?_performAll h.sound hf hready, Event.word_felled hf] at hs
      refine hbefore ?_
      -- an end revises what has been raised before
      split at hs
      · rwa [Statement.revise, Option.isSome_map] at hs
      · exact hs

/-- **An asset that has a live edge to itself.** -/
def IsOwnParent (g : Graph) (id : String) (now : Instant) : Prop :=
  ∃ e ∈ g.parents, e.childId = id ∧ e.parentId = id ∧ now < e.expiration

instance (g : Graph) (id : String) (now : Instant) : Decidable (g.IsOwnParent id now) :=
  inferInstanceAs (Decidable (∃ e ∈ g.parents, e.childId = id ∧ e.parentId = id ∧ now < e.expiration))

/-- **Only an account is its own parent**, and one that an upsert of it has named. -/
theorem Reached.account_of_isOwnParent (h : Reached accountKey xs g) {a : Asset} (ha : a ∈ g.assets)
    (hown : g.IsOwnParent a.id now) : ∃ t p, (t, .upsert p) ∈ xs ∧ p.assetKey = a.key ∧
      ∃ c : Account, c.asset = a.key ∧ ∃ x ∈ p.valuesOf accountKey, c.IsWrittenAs x := by
  obtain ⟨e, he, hchild, hparent, -⟩ := hown
  have hid := h.sound.assetId?_of_mem ha
  have htells : g.times? (.parent a.key a.key) = some e.times :=
    (times?_parent_eq_some_iff h.sound.toWellFormed).2 ⟨e, he, hchild ▸ hid, hparent ▸ hid, rfl⟩
  obtain ⟨t, p, hm, hr⟩ := h.mem_raises (Option.isSome_iff_exists.2 ⟨_, htells⟩)
  obtain ⟨hkey, c, hc, x, hx, hw⟩ := Payload.mem_raises_parent.1 hr
  exact ⟨t, p, hm, hkey, c, hc, x, (List.takeWhile_sublist _).subset hx, hw⟩

end Graph

/-! ## What the cascade does -/

/-- **An edge at an asset that is live.** -/
def ParentOf.IsDue (id : String) (now : Instant) (e : ParentOf) : Prop :=
  (e.childId = id ∨ e.parentId = id) ∧ now < e.expiration

instance (id : String) (now : Instant) (e : ParentOf) : Decidable (e.IsDue id now) :=
  inferInstanceAs (Decidable ((e.childId = id ∨ e.parentId = id) ∧ now < e.expiration))

namespace Load

open Plan (ask)

variable {σ : Type} {serve : Server σ} {s : σ} {g : Graph} {id : String} {now : Instant} {n : Nat}

/-- A cascade that is done has asked for every edge, one after another. -/
theorem calls_expireEdges {es : List ParentOf} (h : ((expireEdges now es).run serve s).1 = .ok n) :
    (expireEdges now es).calls serve s = es.map (expiry now) := by
  induction es generalizing s n with
  | nil => rfl
  | cons e es ih =>
    rcases hserve : serve (expiry now e) s with ⟨err | left, s'⟩
    · obtain ⟨hrun, -⟩ := Plan.ask_bind_of_error hserve fun _ => expireEdges now es >>= fun n => pure (n + 1)
      have hfail : ((expireEdges now (e :: es)).run serve s).1 = .error (.graph err) := congrArg Prod.fst hrun
      cases hfail.symm.trans h
    · obtain ⟨hrun, -⟩ := Plan.ask_bind_of_ok hserve fun _ => expireEdges now es >>= fun n => pure (n + 1)
      obtain ⟨hmap, -⟩ := Plan.bind_done serve (expireEdges now es) (· + 1) s'
      have hrest : ((expireEdges now es).run serve s').1.map (· + 1) = .ok n :=
        (congrArg Prod.fst (hrun.trans hmap)).symm.trans h
      have hcalls : (expireEdges now (e :: es)).calls serve s = _ :=
        Plan.calls_ask_bind hserve fun _ => expireEdges now es >>= fun n => pure (n + 1)
      cases hdone : ((expireEdges now es).run serve s').1 with
      | error err =>
        rw [hdone] at hrest
        cases hrest
      | ok m =>
        rw [hcalls, List.map_cons, ← ih hdone]
        exact congrArg _ (Plan.calls_bind_done serve (expireEdges now es) (· + 1) s')

/-- **What the cascade leaves**, and what it answers. -/
theorem run_expireContainment (h : g.Unambiguous) (ha : g.hasAsset id = true) (now t : Instant) :
    (expireContainment id now).run (Graph.server t) g =
      (.ok ((g.edgesAt id).filter (·.isLiveAt now)).length,
        { g with parents := Graph.change (ParentOf.IsDue id now) (ParentOf.seen now now) g.parents }) := by
  rw [(expireContainment_does h ha now).run_server t, Deed.performAll_edgesAt]
  rfl

/-- **What the cascade asks for.** -/
theorem calls_expireContainment (h : g.Unambiguous) (ha : g.hasAsset id = true) (now t : Instant) :
    (expireContainment id now).calls (Graph.server t) g =
      .parents id .all :: .children id .all ::
        ((g.edgesAt id).filter (·.isLiveAt now)).map (expiry now) := by
  have hparents : Graph.server t (.parents id .all) g = (.ok (g.parents.filter (·.childId == id)), g) :=
    Graph.serve_of_ok (Graph.apply_parents ha t)
  have hchildren : Graph.server t (.children id .all) g = (.ok (g.parents.filter (·.parentId == id)), g) :=
    Graph.serve_of_ok (Graph.apply_children ha t)
  obtain ⟨hrun, -⟩ := Plan.ask_bind_of_ok hparents fun parents => ask (.children id .all) >>= fun children =>
    expireEdges now ((parents ++ children).filter (·.isLiveAt now))
  obtain ⟨hrun', -⟩ := Plan.ask_bind_of_ok hchildren fun children =>
    expireEdges now ((g.parents.filter (·.childId == id) ++ children).filter (·.isLiveAt now))
  have hall : (expireContainment id now).run (Graph.server t) g = _ := hrun.trans hrun'
  have hdone : ((expireEdges now ((g.edgesAt id).filter (·.isLiveAt now))).run (Graph.server t) g).1 = .ok _ :=
    (congrArg Prod.fst hall).symm.trans (congrArg Prod.fst (run_expireContainment h ha now t))
  rw [← calls_expireEdges hdone]
  exact (Plan.calls_ask_bind hparents _).trans (congrArg _ (Plan.calls_ask_bind hchildren _))

end Load

namespace Graph

variable {g : Graph} {id : String} {now : Instant}

/-- An asset's edges to its parents that are live, and those from its children. -/
theorem live_edgesAt (g : Graph) (id : String) (now : Instant) : (g.edgesAt id).filter (·.isLiveAt now) =
    g.parents.filter (fun e => e.childId = id ∧ now < e.expiration) ++
      g.parents.filter (fun e => e.parentId = id ∧ now < e.expiration) := by
  have hside (q : ParentOf → Prop) [DecidablePred q] : (g.parents.filter (q ·)).filter (·.isLiveAt now) =
      g.parents.filter fun e => q e ∧ now < e.expiration := by
    rw [List.filter_filter]
    refine List.filter_congr fun e _ => ?_
    rw [Bool.decide_and, Bool.and_comm]
    rfl
  rw [edgesAt, List.filter_append]
  exact congrArg₂ (· ++ ·) (hside (·.childId = id)) (hside (·.parentId = id))

/-- **How often an edge is asked to expire**: once, and twice if it is from an asset to itself. -/
theorem count_expiry (hn : (g.parents.map (·.pair)).Nodup) {e : ParentOf} (he : e ∈ g.parents)
    (hdue : e.IsDue id now) :
    (((g.edgesAt id).filter (·.isLiveAt now)).map (Load.expiry now)).count (Load.expiry now e) =
      if e.childId = e.parentId then 2 else 1 := by
  have hpair : (((g.edgesAt id).filter (·.isLiveAt now)).map (Load.expiry now)).count (Load.expiry now e) =
      (((g.edgesAt id).filter (·.isLiveAt now)).map (·.pair)).count e.pair := by
    rw [List.count_eq_countP, List.countP_map, List.count_eq_countP, List.countP_map]
    refine List.countP_congr fun x _ => ?_
    simp only [Function.comp_apply, beq_iff_eq, Load.expiry_eq_iff]
  rw [hpair, live_edgesAt, List.map_append, List.count_append,
    count_map_filter hn he fun e => e.childId = id ∧ now < e.expiration,
    count_map_filter hn he fun e => e.parentId = id ∧ now < e.expiration]
  obtain ⟨hend, hlive⟩ := hdue
  simp only [hlive, and_true]
  by_cases hself : e.childId = e.parentId
  · rw [hself] at hend ⊢
    rw [if_pos rfl, if_pos (or_self_iff.1 hend)]
  · rw [if_neg hself]
    rcases hend with hchild | hparent
    · rw [if_pos hchild, if_neg fun h => hself (hchild.trans h.symm)]
    · rw [if_pos hparent, if_neg fun h => hself (h.trans hparent.symm)]

/-- The edges that have another expiration in a later graph. -/
def redated (g later : Graph) : List ParentOf :=
  g.parents.filter fun e => ∃ x ∈ later.parents, x.pair = e.pair ∧ x.expiration ≠ e.expiration

theorem redated_change (hn : (g.parents.map (·.pair)).Nodup) {later : Graph}
    (hlater : later.parents = change (ParentOf.IsDue id now) (ParentOf.seen now now) g.parents) :
    g.redated later = g.parents.filter (ParentOf.IsDue id now ·) := by
  refine List.filter_congr fun e he => decide_eq_decide.2 ?_
  rw [hlater]
  constructor
  · rintro ⟨y, hy, hpair, hne⟩
    obtain ⟨x, hx, rfl⟩ := mem_change.1 hy
    by_cases hdue : x.IsDue id now
    · rw [if_pos hdue] at hpair
      exact eq_of_key_eq hn hx he hpair ▸ hdue
    · rw [if_neg hdue] at hpair hne
      exact absurd (congrArg ParentOf.expiration (eq_of_key_eq hn hx he hpair)) hne
  · intro hdue
    refine ⟨e.seen now now, mem_change.2 ⟨e, he, if_pos hdue⟩, rfl, fun hx => ?_⟩
    have hnow : now = e.expiration := hx
    exact Instant.lt_irrefl now (hnow ▸ hdue.2)

/-- An asset has one edge to itself at most. -/
theorem length_ownEdges (hn : (g.parents.map (·.pair)).Nodup) (id : String) (now : Instant) :
    (g.parents.filter fun e => (e.childId = id ∧ now < e.expiration) ∧ e.parentId = id ∧ now < e.expiration).length =
      if g.IsOwnParent id now then 1 else 0 := by
  by_cases hown : g.IsOwnParent id now
  · rw [if_pos hown]
    obtain ⟨e, he, hchild, hparent, hlive⟩ := hown
    have hone := count_map_filter hn he fun e =>
      (e.childId = id ∧ now < e.expiration) ∧ e.parentId = id ∧ now < e.expiration
    rw [if_pos ⟨⟨hchild, hlive⟩, hparent, hlive⟩] at hone
    rw [← hone, ← List.length_map (·.pair), eq_comm, List.count_eq_length]
    intro k hk
    obtain ⟨x, hx, rfl⟩ := List.mem_map.1 hk
    obtain ⟨⟨hxc, -⟩, hxp, -⟩ := of_decide_eq_true (List.mem_filter.1 hx).2
    rw [ParentOf.pair, ParentOf.pair, hchild, hparent, hxc, hxp]
  · rw [if_neg hown, List.length_eq_zero_iff, List.filter_eq_nil_iff]
    intro e he hself
    obtain ⟨⟨hchild, hlive⟩, hparent, -⟩ := of_decide_eq_true hself
    exact hown ⟨e, he, hchild, hparent, hlive⟩

/-- **How many edges the cascade counts**: those that are due, and the asset's edge to itself once more. -/
theorem length_live_edgesAt (hn : (g.parents.map (·.pair)).Nodup) (id : String) (now : Instant) :
    ((g.edgesAt id).filter (·.isLiveAt now)).length =
      (g.parents.filter (ParentOf.IsDue id now ·)).length + if g.IsOwnParent id now then 1 else 0 := by
  have hboth := congrArg Multiset.card (Multiset.filter_add_filter
    (fun e : ParentOf => e.childId = id ∧ now < e.expiration) (fun e => e.parentId = id ∧ now < e.expiration)
    g.parents)
  simp only [Multiset.filter_coe, Multiset.coe_add, Multiset.coe_card] at hboth
  have hdue : g.parents.filter (fun e => (e.childId = id ∧ now < e.expiration) ∨
      (e.parentId = id ∧ now < e.expiration)) = g.parents.filter (ParentOf.IsDue id now ·) :=
    List.filter_congr fun e _ => decide_eq_decide.2 or_and_right.symm
  rw [live_edgesAt, hboth, List.length_append, hdue, length_ownEdges hn]

variable {accountKey : String} {xs : List (Instant × Event)}

/-- **The cascade expires what is due, and asks once for each edge but one.**  Take any graph that a history of
loads has reached, whatever has failed on the way, one of its assets, and any time.  The edges at the asset that
are live are asked to expire, and no others; all of them do, and nothing else changes.  Each is asked once, except
that the asset's edge to itself, if there is one that is live, is asked twice and counted twice.  There is none
unless the asset is an account that an upsert of the history has named as the account of itself. -/
theorem Reached.cascade_expires_edges (h : Reached accountKey xs g) {a : Asset} (ha : a ∈ g.assets)
    (now t : Instant) :
    let calls := (Load.expireContainment a.id now).calls (Graph.server t) g
    let ended := (Load.expireContainment a.id now).run (Graph.server t) g
    (∀ c ∈ calls, c.method = .upsertParent → ∃ e ∈ g.parents, e.IsDue a.id now ∧ c = Load.expiry now e) ∧
    (∀ e ∈ g.parents, e.IsDue a.id now →
      calls.count (Load.expiry now e) = if e.childId = e.parentId then 2 else 1) ∧
    ended.2 = { g with parents := change (ParentOf.IsDue a.id now) (ParentOf.seen now now) g.parents } ∧
    ended.1 = .ok ((g.redated ended.2).length + if g.IsOwnParent a.id now then 1 else 0) ∧
    ((∀ e ∈ g.parents, e.IsDue a.id now → calls.count (Load.expiry now e) = 1) ↔ ¬ g.IsOwnParent a.id now) ∧
    (g.IsOwnParent a.id now → ∃ t p, (t, .upsert p) ∈ xs ∧ p.assetKey = a.key ∧
      ∃ c : Account, c.asset = a.key ∧ ∃ x ∈ p.valuesOf accountKey, c.IsWrittenAs x) := by
  intro calls ended
  have hasset : g.hasAsset a.id = true := hasAsset_iff.2 (List.mem_map_of_mem ha)
  have hedges := h.sound.edges
  have hcalls : calls = _ := Load.calls_expireContainment h.sound.unambiguous hasset now t
  have hended : ended = _ := Load.run_expireContainment h.sound.unambiguous hasset now t
  have hcount (e : ParentOf) (he : e ∈ g.parents) (hdue : e.IsDue a.id now) :
      calls.count (Load.expiry now e) = if e.childId = e.parentId then 2 else 1 := by
    rw [hcalls, List.count_cons_of_ne, List.count_cons_of_ne, count_expiry hedges he hdue]
    · rintro ⟨⟩
    · rintro ⟨⟩
  refine ⟨fun c hc hm => ?_, hcount, by rw [hended], ?_, ⟨fun hall hown => ?_, fun hown e he hdue => ?_⟩,
    h.account_of_isOwnParent ha⟩
  · rw [hcalls] at hc
    rcases List.mem_cons.1 hc with rfl | hc
    · cases hm
    rcases List.mem_cons.1 hc with rfl | hc
    · cases hm
    obtain ⟨e, he, rfl⟩ := List.mem_map.1 hc
    obtain ⟨hat, hlive⟩ := List.mem_filter.1 he
    obtain ⟨hmem, hend⟩ := mem_edgesAt.1 hat
    exact ⟨e, hmem, ⟨hend, ParentOf.isLiveAt_iff.1 hlive⟩, rfl⟩
  · rw [hended, length_live_edgesAt hedges, redated_change hedges rfl]
  · obtain ⟨e, he, hchild, hparent, hlive⟩ := hown
    have hone := hall e he ⟨.inl hchild, hlive⟩
    rw [hcount e he ⟨.inl hchild, hlive⟩, if_pos (hchild.trans hparent.symm)] at hone
    cases hone
  · rw [hcount e he hdue, if_neg]
    intro hself
    obtain ⟨hend, hlive⟩ := hdue
    rw [hself, or_self_iff] at hend
    exact hown ⟨e, he, hself.trans hend, hend, hlive⟩

/-- An account that its own annotation names, and a host in it. -/
theorem Reached.cascade_expires_edges_of_an_account :
    let t (second : Int) : Instant := { second }
    let k : AssetKey := { type := "AWSAccount", identifier := "arn:aws:iam::123456789012:root" }
    let k' : AssetKey := { type := "Hostname", identifier := "h" }
    let up (k : AssetKey) : Event :=
      .upsert { assetType := k.type, identifier := k.identifier, team := { id := "t", name := "Team" }
                annotations := [{ key := "account", value := "123456789012" }] }
    let load (g : Graph) (x : Instant × Event) : Graph :=
      (Scene.load "account" x.2 { graph := g, now := x.1 }).2.graph
    let g := load (load Graph.empty (t 1, up k)) (t 2, up k')
    let account : Asset :=
      { id := "asset-1", key := k, firstSeen := t 1, lastSeen := t 2, expiration := Instant.unexpired }
    let host : Asset :=
      { id := "asset-5", key := k', firstSeen := t 2, lastSeen := t 2, expiration := Instant.unexpired }
    let above := (Load.expireContainment account.id (t 3)).run (Graph.server (t 3)) g
    let below := (Load.expireContainment host.id (t 3)).run (Graph.server (t 3)) g
    let calls := (Load.expireContainment host.id (t 3)).calls (Graph.server (t 3)) g
    Reached "account" [(t 1, up k), (t 2, up k')] g ∧ account ∈ g.assets ∧ host ∈ g.assets ∧
      above.1 = .ok ((g.redated above.2).length + 1) ∧ (∃ c : Account, c.asset = k) ∧
      (∀ e ∈ g.parents, e.IsDue host.id (t 3) → calls.count (Load.expiry (t 3) e) = 1) ∧
      below.1 = .ok (g.redated below.2).length := by
  intro t k k' up load g account host above below calls
  have hload {ys : List (Instant × Event)} {x : Graph} (h : Reached "account" ys x) (y : Instant × Event) :
      Reached "account" (ys ++ [y]) (load x y) := Reached.scene (s := { graph := x, now := y.1 }) h y.2
  have h : Reached "account" [(t 1, up k), (t 2, up k')] g := hload (hload .empty _) _
  have haccount : account ∈ g.assets := by decide +kernel
  have hhost : host ∈ g.assets := by decide +kernel
  have hown : g.IsOwnParent account.id (t 3) := by decide +kernel
  have hnot : ¬ g.IsOwnParent host.id (t 3) := by decide +kernel
  obtain ⟨-, -, -, htwice, -, hnamed⟩ := h.cascade_expires_edges haccount (t 3) (t 3)
  obtain ⟨-, -, -, hanswer, honce, -⟩ := h.cascade_expires_edges hhost (t 3) (t 3)
  rw [if_pos hown] at htwice
  rw [if_neg hnot, Nat.add_zero] at hanswer
  obtain ⟨-, -, -, -, c, hc, -⟩ := hnamed hown
  -- the runs match as they stand, and would be computed otherwise
  unfold above below calls
  exact ⟨h, haccount, hhost, htwice, ⟨c, hc⟩, honce.2 hnot, hanswer⟩

/-- **The cascade asks twice for one edge, and counts two**: that of an account to itself. -/
theorem Reached.cascade_counts_an_edge_twice :
    let t (second : Int) : Instant := { second }
    let p : Payload :=
      { assetType := "AWSAccount", identifier := "arn:aws:iam::123456789012:root"
        team := { id := "t", name := "Team" }, annotations := [{ key := "account", value := "123456789012" }] }
    let g := (Scene.load "account" (.upsert p) { now := t 1 }).2.graph
    let calls := (Load.expireContainment "asset-1" (t 2)).calls (Graph.server (t 2)) g
    let ended := (Load.expireContainment "asset-1" (t 2)).run (Graph.server (t 2)) g
    Reached "account" [(t 1, .upsert p)] g ∧ t 2 < Instant.unexpired ∧ g.assets.map (·.id) = ["asset-1"] ∧
      g.parents.map (·.pair) = [("asset-1", "asset-1")] ∧
      (∀ e ∈ g.parents, e.IsDue "asset-1" (t 2) ∧ calls.count (Load.expiry (t 2) e) = 2) ∧
      ended.1 = .ok 2 ∧ (g.redated ended.2).length = 1 := by
  intro t p g calls ended
  have h : Reached "account" [(t 1, .upsert p)] g := Reached.scene (s := { now := t 1 }) .empty (.upsert p)
  refine ⟨h, ?_⟩
  decide +kernel

end Graph

end AssetGraph
