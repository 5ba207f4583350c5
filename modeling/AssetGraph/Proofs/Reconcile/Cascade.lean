import AssetGraph.Proofs.Reconcile.Effect
import AssetGraph.Scenario.Scene
/-!
# A cascade that misses an edge

A retirement takes what is not found for something that needs no end.  It does so for the retirement as a
whole, whereas its cascade gives up at the first edge that is not found (`Load.expireEdges_stops`): the
edges in front of that one end, and those behind it do not.  Still the retirement ends well
(`Scene.retire_ends_edges_up_to_a_missing_one`), so its message is done with.
-/
namespace AssetGraph

/-- The call that expires an edge. -/
def Load.expiry (now : Instant) (e : ParentOf) : Call :=
  .upsertParent e.childId e.parentId { timestamp := some now, expiration := now }

theorem Load.expiry_eq_iff {now : Instant} {e e' : ParentOf} :
    expiry now e = expiry now e' ↔ e.pair = e'.pair := by
  simp only [expiry, Call.upsertParent.injEq, and_true, ParentOf.pair, Prod.mk.injEq]

namespace Plan

variable {α β σ : Type} {serve : Server σ} {s s' : σ}

/-- **The calls of a plan that are answered with an error.** -/
def refused (serve : Server σ) : Plan α → σ → List Call
  | done _, _ => []
  | fail _, _ => []
  | call c next, s =>
    match serve c s with
    | (.ok a, s') => (next (.ok a)).refused serve s'
    | (.error e, s') => c :: (next (.error e)).refused serve s'

theorem refused_bind (serve : Server σ) (p : Plan α) (f : α → Plan β) (s : σ) :
    (p >>= f).refused serve s = p.refused serve s ++
      match p.run serve s with
      | (.ok a, s') => (f a).refused serve s'
      | (.error _, _) => [] := by
  rw [bind_eq]
  induction p generalizing s with
  | done a => rfl
  | fail e => rfl
  | call c next ih =>
    rw [Plan.bind, refused, refused, run_call]
    rcases serve c s with ⟨_ | _, s'⟩
    · exact congrArg _ (ih _ s')
    · exact ih _ s'

theorem refused_rescue (serve : Server σ) (p : Plan α) (f : IngestError → Plan α) (s : σ) :
    (p.rescue f).refused serve s = p.refused serve s ++
      match p.run serve s with
      | (.ok _, _) => []
      | (.error e, s') => (f e).refused serve s' := by
  induction p generalizing s with
  | done a => rfl
  | fail e => rfl
  | call c next ih =>
    rw [rescue, refused, refused, run_call]
    rcases serve c s with ⟨_ | _, s'⟩
    · exact congrArg _ (ih _ s')
    · exact ih _ s'

theorem ask_bind_of_error {c : Call} {e : GraphError} (h : serve c s = (.error e, s')) (f : c.Answer → Plan β) :
    (ask c >>= f).run serve s = (.error (.graph e), s') ∧ (ask c >>= f).refused serve s = [c] := by
  rw [run_bind, run_ask, refused_bind, run_ask, ask, refused]
  simp only [h]
  exact ⟨trivial, rfl⟩

theorem ask_bind_of_ok {c : Call} {a : c.Answer} (h : serve c s = (.ok a, s')) (f : c.Answer → Plan β) :
    (ask c >>= f).run serve s = (f a).run serve s' ∧
      (ask c >>= f).refused serve s = (f a).refused serve s' := by
  rw [run_bind, run_ask, refused_bind, run_ask, ask, refused]
  simp only [h]
  exact ⟨trivial, rfl⟩

/-- Answering with something else changes nothing else. -/
theorem bind_done (serve : Server σ) (p : Plan α) (f : α → β) (s : σ) :
    (p >>= fun a => .done (f a)).run serve s = ((p.run serve s).1.map f, (p.run serve s).2) ∧
      (p >>= fun a => .done (f a)).refused serve s = p.refused serve s := by
  rw [run_bind, refused_bind]
  rcases p.run serve s with ⟨_ | _, s'⟩ <;> exact ⟨rfl, List.append_nil _⟩

end Plan

/-! ## Up to the cascade -/

/-- A graph with the same assets, teams and edges, whatever has become of the assets. -/
structure Graph.Spares (g g' : Graph) : Prop where
  assetIds : g'.assets.map (·.id) = g.assets.map (·.id)
  teams : g'.teams = g.teams
  parents : g'.parents = g.parents

theorem Graph.Spares.refl (g : Graph) : g.Spares g := ⟨rfl, rfl, rfl⟩

theorem Graph.Spares.trans {g g' g'' : Graph} (h : g.Spares g') (h' : g'.Spares g'') : g.Spares g'' :=
  ⟨h'.assetIds.trans h.assetIds, h'.teams.trans h.teams, h'.parents.trans h.parents⟩

theorem Graph.Spares.hasAsset {g g' : Graph} (h : g.Spares g') (id : String) :
    g'.hasAsset id = g.hasAsset id := by
  rw [Bool.eq_iff_iff, Graph.hasAsset_iff, Graph.hasAsset_iff, h.assetIds]

theorem Graph.Spares.hasTeam {g g' : Graph} (h : g.Spares g') (id : String) : g'.hasTeam id = g.hasTeam id := by
  rw [Graph.hasTeam, Graph.hasTeam, h.teams]

/-- All that waits in a scene is that edges are not found. -/
def Scene.MissesEdges (s : Scene) : Prop :=
  ∀ f ∈ s.faults, f.method = .upsertParent ∧ f.error.isNotFound = true

namespace Plan

variable {α β : Type} {s s' s'' : Scene}

/-- **Where a plan before a scene is after calls that have not failed**: another plan, before another
scene. -/
structure LeadsTo (p : Plan α) (s : Scene) (q : Plan α) (s' : Scene) : Prop where
  run : p.run Scene.serve s = q.run Scene.serve s'
  refused : p.refused Scene.serve s = q.refused Scene.serve s'
  faults : s'.faults = s.faults
  spares : s.graph.Spares s'.graph

namespace LeadsTo

theorem refl (p : Plan α) (s : Scene) : p.LeadsTo s p s := ⟨rfl, rfl, rfl, .refl _⟩

theorem trans {p q r : Plan α} (h : p.LeadsTo s q s') (h' : q.LeadsTo s' r s'') : p.LeadsTo s r s'' :=
  ⟨h.run.trans h'.run, h.refused.trans h'.refused, h'.faults.trans h.faults, h.spares.trans h'.spares⟩

theorem bind {p q : Plan α} (h : p.LeadsTo s q s') (f : α → Plan β) : (p >>= f).LeadsTo s (q >>= f) s' where
  run := by rw [run_bind, run_bind, h.run]
  refused := by rw [refused_bind, refused_bind, h.run, h.refused]
  faults := h.faults
  spares := h.spares

theorem missesEdges {p q : Plan α} (h : p.LeadsTo s q s') (hs : s.MissesEdges) : s'.MissesEdges :=
  fun f hf => hs f (h.faults ▸ hf)

/-- A call that touches no edge is answered as the graph does. -/
theorem ask (hs : s.MissesEdges) {c : Call} {a : c.Answer} {g : Graph} (hc : c.method ≠ .upsertParent)
    (h : s.graph.apply s.now c = .ok (a, g)) (hg : s.graph.Spares g) :
    (ask c).LeadsTo s (.done a) { s with calls := s.calls ++ [c], graph := g } := by
  have hmeet : Fault.meet c.method s.faults = (none, s.faults) :=
    Fault.meet_of_forall_ne fun f hf he => hc (he ▸ (hs f hf).1)
  have hserve : Scene.serve c s = (.ok a, { s with calls := s.calls ++ [c], graph := g }) := by
    rw [Scene.serve_of_none hmeet, Graph.serve_of_ok h]
  refine ⟨?_, ?_, rfl, hg⟩
  · rw [run_ask, hserve, run_done]
  · simp only [Plan.ask, Plan.refused, hserve]

theorem list (hs : s.MissesEdges) {g : Graph} (hg : s.graph = g) {c : Call} {a : c.Answer}
    {f : c.Answer → Plan β} {q : Plan β} (hc : c.method ≠ .upsertParent)
    (h : ∀ t, g.apply t c = .ok (a, g))
    (hrest : ∀ s' : Scene, s'.MissesEdges → s'.graph = g → ∃ s'', (f a).LeadsTo s' q s'') :
    ∃ s', (Plan.ask c >>= f).LeadsTo s q s' := by
  subst hg
  have hask := ask hs hc (h s.now) (.refl _)
  obtain ⟨s', hrest⟩ := hrest { s with calls := s.calls ++ [c] } hs rfl
  exact ⟨s', (hask.bind f).trans hrest⟩

theorem found {a : α} {f : α → Plan β} {q : Plan β} (h : ∃ s', (f a).LeadsTo s q s') :
    ∃ s', (Plan.done a >>= f).LeadsTo s q s' := h

/-- A plan whose first part does not fail goes on from where that part ends. -/
theorem next {p : Plan α} {a : α} {f : α → Plan β} {q : Plan β} (hs : s.MissesEdges)
    (h : ∃ s', p.LeadsTo s (.done a) s')
    (hrest : ∀ s' : Scene, s'.MissesEdges → s.graph.Spares s'.graph → ∃ s'', (f a).LeadsTo s' q s'') :
    ∃ s', (p >>= f).LeadsTo s q s' := by
  obtain ⟨s', h⟩ := h
  obtain ⟨s'', hrest⟩ := hrest s' (h.missesEdges hs) h.spares
  exact ⟨s'', (h.bind f).trans hrest⟩

end LeadsTo

end Plan

namespace Load

open Plan (ask LeadsTo)
open AssetGraph.Graph (change change_change change_congr_of_iff)

variable {s : Scene} {a : Asset} {t : Team} {now : Instant}

theorem upsertOwner_leadsTo (hs : s.MissesEdges) (ha : s.graph.hasAsset a.id = true)
    (ht : s.graph.hasTeam t.id = true) (r : OwnsRequest) :
    ∃ left s', (ask (.upsertOwner a.id t.id r)).LeadsTo s (.done left) s' := by
  obtain ⟨left, g, happly, hg⟩ : ∃ left g, s.graph.apply s.now (.upsertOwner a.id t.id r) = .ok (left, g) ∧
      s.graph.Spares g := by
    rw [Graph.apply, Graph.upsertOwner, ha, ht]
    cases s.graph.owns.find? (Graph.joins a.id t.id) <;> exact ⟨_, _, rfl, rfl, rfl, rfl⟩
  exact ⟨left, _, .ask hs (by rintro ⟨⟩) happly hg⟩

theorem endOwnership_leadsTo (hs : s.MissesEdges) (ha : s.graph.hasAsset a.id = true)
    (ht : s.graph.hasTeam t.id = true) (now : Instant) (owners : List Owns) :
    ∃ s', (endOwnership a t now owners).LeadsTo s (.done ()) s' := by
  induction owners generalizing s with
  | nil => exact ⟨s, .refl _ s⟩
  | cons o owners ih =>
    rw [endOwnership]
    split
    · obtain ⟨left, hask⟩ := upsertOwner_leadsTo hs ha ht { startTime := o.startTime, endTime := some now }
      refine LeadsTo.next hs hask fun s' hs' hspares => ?_
      exact ih hs' ((hspares.hasAsset _).trans ha) ((hspares.hasTeam _).trans ht)
    · exact ih hs ha ht

theorem updateAsset_leadsTo (hs : s.MissesEdges) (ha : s.graph.hasAsset a.id = true) (r : AssetRequest) :
    ∃ left s', (ask (.updateAsset a.id r)).LeadsTo s (.done left) s' := by
  obtain ⟨left, g, happly, hg⟩ : ∃ left g, s.graph.apply s.now (.updateAsset a.id r) = .ok (left, g) ∧
      s.graph.Spares g := by
    obtain ⟨x, hx, hxa⟩ := List.mem_map.1 (Graph.hasAsset_iff.1 ha)
    obtain ⟨y, hy⟩ : ∃ y, s.graph.assets.find? (·.id == a.id) = some y :=
      Option.isSome_iff_exists.1 (List.find?_isSome.2 ⟨x, hx, beq_iff_eq.2 hxa⟩)
    have hid : ∀ x : Asset, (r.revise x).id = x.id := fun _ => rfl
    rw [Graph.apply, Graph.updateAsset, hy]
    exact ⟨_, _, rfl, Graph.map_updateFirst hid _, rfl, rfl⟩
  exact ⟨left, _, .ask hs (by rintro ⟨⟩) happly hg⟩

theorem expireContainment_leadsTo (hs : s.MissesEdges) (ha : s.graph.hasAsset a.id = true) (now : Instant) :
    ∃ s', (expireContainment a.id now).LeadsTo s
      (expireEdges now ((s.graph.edgesAt a.id).filter (·.isLiveAt now))) s' := by
  refine LeadsTo.list hs rfl (by rintro ⟨⟩) (Graph.apply_parents ha) fun s₁ hs₁ hg₁ => ?_
  exact LeadsTo.list hs₁ hg₁ (by rintro ⟨⟩) (Graph.apply_children ha) fun s₂ _ _ => ⟨s₂, .refl _ s₂⟩

theorem expireAsset_leadsTo (hs : s.MissesEdges) (ha : s.graph.hasAsset a.id = true) (now : Instant) :
    ∃ s', (expireAsset a now).LeadsTo s
      (expireEdges now ((s.graph.edgesAt a.id).filter (·.isLiveAt now)) >>= fun _ => pure ()) s' := by
  have hedges : ∀ s' : Scene, s'.MissesEdges → s.graph.Spares s'.graph →
      ∃ s'', (expireContainment a.id now >>= fun _ => pure ()).LeadsTo s'
        (expireEdges now ((s.graph.edgesAt a.id).filter (·.isLiveAt now)) >>= fun _ => pure ()) s'' := by
    intro s' hs' hspares
    obtain ⟨s'', hrest⟩ := expireContainment_leadsTo hs' ((hspares.hasAsset _).trans ha) now
    rw [Graph.edgesAt, hspares.parents] at hrest
    exact ⟨s'', hrest.bind _⟩
  rw [expireAsset]
  split
  · obtain ⟨left, hask⟩ := updateAsset_leadsTo hs ha { key := a.key, timestamp := some now, expiration := now }
    exact LeadsTo.next hs hask hedges
  · exact hedges s hs (.refl _)

/-- **A retirement comes to its cascade** where the asset and the team are each one and no other team
owns the asset. -/
theorem withdraw_leadsTo (hs : s.MissesEdges) {r : Retirement}
    (ha : s.graph.listAssets (.byKey r.asset) .all = [a])
    (ht : s.graph.listTeams (some r.teamId) .all = [t])
    (hothers : s.graph.isOwnedByOthers a.id t.id = false) (now : Instant) :
    ∃ s', (withdraw r now).LeadsTo s
      (expireEdges now ((s.graph.edgesAt a.id).filter (·.isLiveAt now)) >>= fun _ => pure ()) s' := by
  have hasset : s.graph.hasAsset a.id = true := by
    have hmem : a ∈ s.graph.listAssets (.byKey r.asset) .all := ha ▸ List.mem_cons_self
    rw [Graph.listAssets, Pagination.apply_all] at hmem
    exact Graph.hasAsset_iff.2 (List.mem_map_of_mem (List.mem_filter.1 hmem).1)
  have hteam : s.graph.hasTeam t.id = true := by
    have hmem : t ∈ s.graph.listTeams (some r.teamId) .all := ht ▸ List.mem_cons_self
    rw [Graph.listTeams, Pagination.apply_all] at hmem
    exact Graph.hasTeam_iff.2 (List.mem_map_of_mem (List.mem_filter.1 hmem).1)
  have hassets : ∀ now, s.graph.apply now (.assets (.byKey r.asset) .all) = .ok ([a], s.graph) :=
    fun _ => by rw [Graph.apply, ha]
  have hteams : ∀ now, s.graph.apply now (.teams (some r.teamId) .all) = .ok ([t], s.graph) :=
    fun _ => by rw [Graph.apply, ht]
  refine LeadsTo.list hs rfl (by rintro ⟨⟩) hassets fun s₁ hs₁ hg₁ => LeadsTo.found ?_
  refine LeadsTo.list hs₁ hg₁ (by rintro ⟨⟩) hteams fun s₂ hs₂ hg₂ => LeadsTo.found ?_
  refine LeadsTo.list hs₂ hg₂ (by rintro ⟨⟩) (Graph.apply_owners hasset) fun s₃ hs₃ hg₃ => ?_
  rw [← hg₃] at hasset hteam
  refine LeadsTo.next hs₃ (endOwnership_leadsTo hs₃ hasset hteam now _) fun s₄ hs₄ hspares => ?_
  obtain ⟨s₅, hrest⟩ := expireAsset_leadsTo hs₄ ((hspares.hasAsset _).trans hasset) now
  rw [Graph.edgesAt, hspares.parents, hg₃] at hrest
  rw [isOwnedByOthers_filter, hothers]
  exact ⟨s₅, hrest⟩

/-! ## The cascade -/

/-- An edge that is asked to expire does, or is not found. -/
theorem serve_expiry (hs : s.MissesEdges) (hn : (s.graph.parents.map (·.pair)).Nodup) {e : ParentOf}
    (he : e.pair ∈ s.graph.parents.map (·.pair)) (now : Instant) :
    (∃ left s', Scene.serve (expiry now e) s = (.ok left, s') ∧ s'.MissesEdges ∧
      s'.graph.parents = change (·.pair = e.pair) (ParentOf.seen now now) s.graph.parents) ∨
    ∃ err s', Scene.serve (expiry now e) s = (.error err, s') ∧ err.isNotFound = true ∧
      s'.graph = s.graph := by
  obtain ⟨hmet, hwait⟩ := Fault.meet_keeps (P := fun m err => m = .upsertParent ∧ err.isNotFound = true) hs
    .upsertParent
  rcases hmeet : Fault.meet .upsertParent s.faults with ⟨_ | err, faults⟩ <;> rw [hmeet] at hmet hwait
  · rw [Scene.serve_of_none (c := expiry now e) hmeet]
    obtain ⟨x, hx, hpair⟩ := List.mem_map.1 he
    have hfound : s.graph.parentOf? e.childId e.parentId = some x :=
      (Graph.find?_key_eq_some_iff hn).2 ⟨hx, hpair⟩
    by_cases hc : s.graph.hasAsset e.childId = true
    · by_cases hp : s.graph.hasAsset e.parentId = true
      · have happly := Graph.upsertParent_of_some hn s.now hc hp hfound
          { timestamp := some now, expiration := now }
        rw [Graph.serve_of_ok (c := expiry now e) happly]
        exact .inl ⟨_, _, rfl, hwait, rfl⟩
      · have happly : s.graph.apply s.now (expiry now e) = .error (Graph.missingAsset e.parentId) := by
          rw [expiry, Graph.apply, Graph.upsertParent, hc, Bool.eq_false_iff.2 hp]
          rfl
        rw [Graph.serve_of_error happly]
        exact .inr ⟨_, _, rfl, rfl, rfl⟩
    · have happly : s.graph.apply s.now (expiry now e) = .error (Graph.missingAsset e.childId) := by
        rw [expiry, Graph.apply, Graph.upsertParent, Bool.eq_false_iff.2 hc]
        rfl
      rw [Graph.serve_of_error happly]
      exact .inr ⟨_, _, rfl, rfl, rfl⟩
  · rw [Scene.serve_of_some (c := expiry now e) hmeet]
    exact .inr ⟨err, _, rfl, (hmet err rfl).2, rfl⟩

theorem change_change_seen (now : Instant) (k : String × String) (ks : List (String × String))
    (edges : List ParentOf) :
    change (·.pair ∈ ks) (ParentOf.seen now now) (change (·.pair = k) (ParentOf.seen now now) edges) =
      change (·.pair ∈ k :: ks) (ParentOf.seen now now) edges := by
  have hself (e : ParentOf) : (e.seen now now).seen now now = e.seen now now := rfl
  rw [change_change hself]
  exact change_congr_of_iff (fun _ _ => List.mem_cons.symm) fun _ _ _ => rfl

/-- **Of the edges that are to expire, those in front of the first that is not found do.** -/
theorem expireEdges_stops (hs : s.MissesEdges) (hn : (s.graph.parents.map (·.pair)).Nodup) (now : Instant)
    {es : List ParentOf} (hes : ∀ e ∈ es, e.pair ∈ s.graph.parents.map (·.pair)) :
    ∃ done rest, es = done ++ rest ∧
      (expireEdges now es).refused Scene.serve s = (rest.take 1).map (expiry now) ∧
      ((expireEdges now es).run Scene.serve s).2.graph.parents =
        change (·.pair ∈ done.map (·.pair)) (ParentOf.seen now now) s.graph.parents ∧
      ∀ err, ((expireEdges now es).run Scene.serve s).1 = .error err → err.isNotFound = true := by
  induction es generalizing s with
  | nil =>
    refine ⟨[], [], rfl, rfl, ?_, by rintro _ ⟨⟩⟩
    exact (Graph.change_eq_self fun _ _ h => absurd h List.not_mem_nil).symm
  | cons e es ih =>
    obtain ⟨he, hes⟩ := List.forall_mem_cons.1 hes
    rcases serve_expiry hs hn he now with ⟨left, s', hserve, hs', hparents⟩ | ⟨err, s', hserve, herr, hg⟩
    · -- the edge is expired, and the others are still where they were
      have hpairs : s'.graph.parents.map (·.pair) = s.graph.parents.map (·.pair) := by
        rw [hparents, Graph.map_change (f := ParentOf.seen now now) fun _ => rfl]
      obtain ⟨done, rest, rfl, hrefused, hgraph, hfail⟩ := ih hs' (hpairs ▸ hn) (hpairs ▸ hes)
      obtain ⟨hrun, hrefused'⟩ := Plan.ask_bind_of_ok hserve fun _ =>
        expireEdges now (done ++ rest) >>= fun n => pure (n + 1)
      obtain ⟨hmap, hmap'⟩ := Plan.bind_done Scene.serve (expireEdges now (done ++ rest)) (· + 1) s'
      have hall : (expireEdges now (e :: (done ++ rest))).run Scene.serve s = _ := hrun.trans hmap
      refine ⟨e :: done, rest, rfl, (hrefused'.trans hmap').trans hrefused, ?_, ?_⟩
      · rw [hall, hgraph, hparents]
        exact change_change_seen now e.pair (done.map (·.pair)) s.graph.parents
      · intro err herr
        rw [hall] at herr
        cases hrest : ((expireEdges now (done ++ rest)).run Scene.serve s').1 with
        | ok n =>
          rw [hrest] at herr
          cases herr
        | error err' =>
          rw [hrest] at herr
          cases herr
          exact hfail err hrest
    · -- the edge is not found, and no other is asked for
      obtain ⟨hrun, hrefused⟩ := Plan.ask_bind_of_error hserve fun _ =>
        expireEdges now es >>= fun n => pure (n + 1)
      have hall : (expireEdges now (e :: es)).run Scene.serve s = _ := hrun
      refine ⟨[], e :: es, rfl, hrefused, ?_, ?_⟩
      · rw [hall, hg]
        exact (Graph.change_eq_self fun _ _ h => absurd h List.not_mem_nil).symm
      · rw [hall]
        rintro _ ⟨⟩
        exact herr

/-- Whatever edge the cascade has not found, the retirement ends well. -/
theorem retire_of_leadsTo {r : Retirement} {s' : Scene} {edges : List ParentOf}
    (h : (withdraw r now).LeadsTo s (expireEdges now edges >>= fun _ => pure ()) s')
    (hfail : ∀ err, ((expireEdges now edges).run Scene.serve s').1 = .error err → err.isNotFound = true) :
    ((retire r now).run Scene.serve s).1 = .ok () ∧
      ((retire r now).run Scene.serve s).2 = ((expireEdges now edges).run Scene.serve s').2 ∧
      (retire r now).refused Scene.serve s = (expireEdges now edges).refused Scene.serve s' := by
  obtain ⟨hrun, hrefused⟩ := Plan.bind_done Scene.serve (expireEdges now edges) (fun _ => ()) s'
  have hrun' := h.run.trans hrun
  have hrefused' := h.refused.trans hrefused
  rw [retire, Plan.run_rescue, Plan.refused_rescue, hrun', hrefused']
  cases hcascade : ((expireEdges now edges).run Scene.serve s').1 with
  | ok n => exact ⟨rfl, rfl, List.append_nil _⟩
  | error err =>
    simp only [Except.map, hfail err hcascade, if_true]
    exact ⟨rfl, rfl, List.append_nil _⟩

end Load

namespace Graph

variable {g g' : Graph} {id : String} {now : Instant} {done rest : List ParentOf}

/-- The edges at an asset that are live still are those that have not been expired. -/
theorem live_edgesAt_iff (hn : (g.parents.map (·.pair)).Nodup)
    (hlive : (g.edgesAt id).filter (·.isLiveAt now) = done ++ rest)
    (hg : g'.parents = change (·.pair ∈ done.map (·.pair)) (ParentOf.seen now now) g.parents)
    (e : ParentOf) : e ∈ g'.edgesAt id ∧ now < e.expiration ↔ e ∈ rest ∧ e ∉ done := by
  have hmem : ∀ e, e ∈ done ++ rest ↔ e ∈ g.edgesAt id ∧ now < e.expiration := by
    intro e
    rw [← hlive, List.mem_filter, ParentOf.isLiveAt_iff]
  rw [mem_edgesAt, hg]
  constructor
  · rintro ⟨⟨he, hends⟩, hlt⟩
    obtain ⟨x, hx, rfl⟩ := mem_change.1 he
    by_cases hp : x.pair ∈ done.map (·.pair)
    · rw [if_pos hp] at hlt
      exact absurd hlt (Instant.lt_irrefl now)
    · -- the entry is as it was, so it was live then and has been listed
      rw [if_neg hp] at hends hlt ⊢
      have hnot : x ∉ done := fun hd => hp (List.mem_map_of_mem hd)
      have hall := (hmem x).2 ⟨mem_edgesAt.2 ⟨hx, hends⟩, hlt⟩
      exact ⟨(List.mem_append.1 hall).resolve_left hnot, hnot⟩
  · rintro ⟨he, hnot⟩
    obtain ⟨hat, hlt⟩ := (hmem e).1 (List.mem_append_right _ he)
    obtain ⟨heg, hends⟩ := mem_edgesAt.1 hat
    have hp : e.pair ∉ done.map (·.pair) := by
      intro hp
      obtain ⟨x, hx, hpair⟩ := List.mem_map.1 hp
      have hxg := (mem_edgesAt.1 ((hmem x).1 (List.mem_append_left _ hx)).1).1
      exact hnot (eq_of_key_eq hn hxg heg hpair ▸ hx)
    exact ⟨⟨mem_change.2 ⟨e, heg, if_neg hp⟩, hends⟩, hlt⟩

/-- All edges at an asset are over but for the one that is not found, exactly if none is left behind it. -/
theorem edgesAt_are_over_iff (hn : (g.parents.map (·.pair)).Nodup)
    (hlive : (g.edgesAt id).filter (·.isLiveAt now) = done ++ rest)
    (hg : g'.parents = change (·.pair ∈ done.map (·.pair)) (ParentOf.seen now now) g.parents) :
    (∀ e ∈ g'.edgesAt id, Load.expiry now e ∉ (rest.take 1).map (Load.expiry now) → e.expiration ≤ now) ↔
      ∀ e ∈ rest.drop 1, e ∈ done ++ rest.take 1 := by
  have hleft := live_edgesAt_iff hn hlive hg
  have hrest : ∀ e ∈ rest, e ∈ g.parents := by
    intro e he
    have hall : e ∈ done ++ rest := List.mem_append_right _ he
    rw [← hlive] at hall
    exact (mem_edgesAt.1 (List.mem_filter.1 hall).1).1
  constructor
  · intro hover e he
    have her := List.mem_of_mem_drop he
    rw [List.mem_append]
    refine or_iff_not_imp_left.2 fun hnot => ?_
    obtain ⟨hat, hlt⟩ := (hleft e).2 ⟨her, hnot⟩
    have hcall : Load.expiry now e ∈ (rest.take 1).map (Load.expiry now) := by
      by_contra hc
      exact Instant.not_le.2 hlt (hover e hat hc)
    obtain ⟨x, hx, hpair⟩ := List.mem_map.1 hcall
    have hxe := eq_of_key_eq hn (hrest x (List.mem_of_mem_take hx)) (hrest e her) (Load.expiry_eq_iff.1 hpair)
    exact hxe ▸ hx
  · intro hbehind e he hc
    refine Instant.not_lt.1 fun hlt => ?_
    obtain ⟨her, hnot⟩ := (hleft e).1 ⟨he, hlt⟩
    have hfirst : e ∉ rest.take 1 := fun hf => hc (List.mem_map_of_mem hf)
    rw [← List.take_append_drop 1 rest] at her
    have hdrop := (List.mem_append.1 her).resolve_left hfirst
    rcases List.mem_append.1 (hbehind e hdrop) with hd | hf
    · exact hnot hd
    · exact hfirst hf

end Graph

namespace Scene

/-- **A retirement ends the edges up to one that is not found, and ends well.**  Say that the asset and
the team are each one, that no other team owns the asset, and that there is one edge at most between two
assets; the calls that expire an edge may not find it, each as it likes.  Then the retirement ends well
whatever happens.  The live edges at the asset are expired in their order, and the first that is not found
is the last that is asked for.  So all edges at the asset but that one are over exactly if none is left
behind it. -/
theorem retire_ends_edges_up_to_a_missing_one (accountKey : String) {s : Scene} {r : Retirement} {a : Asset}
    {t : Team} (ha : s.graph.listAssets (.byKey r.asset) .all = [a])
    (ht : s.graph.listTeams (some r.teamId) .all = [t])
    (hothers : s.graph.isOwnedByOthers a.id t.id = false) (hn : (s.graph.parents.map (·.pair)).Nodup)
    (hs : ∀ f ∈ s.faults, f.method = .upsertParent ∧ f.error.isNotFound = true) :
    let refused := ((Event.retire r).plan accountKey s.now).refused serve s
    let ended := s.load accountKey (.retire r)
    ended.1 = .ok () ∧ ∃ done rest, (s.graph.edgesAt a.id).filter (·.isLiveAt s.now) = done ++ rest ∧
      refused = (rest.take 1).map (Load.expiry s.now) ∧
      ended.2.graph.parents =
        Graph.change (·.pair ∈ done.map (·.pair)) (ParentOf.seen s.now s.now) s.graph.parents ∧
      ((∀ e ∈ ended.2.graph.edgesAt a.id, Load.expiry s.now e ∉ refused → e.expiration ≤ s.now) ↔
        ∀ e ∈ rest.drop 1, e ∈ done ++ rest.take 1) := by
  intro refused ended
  obtain ⟨s', hcascade⟩ := Load.withdraw_leadsTo hs ha ht hothers s.now
  have hs' : s'.MissesEdges := hcascade.missesEdges hs
  have hparents := hcascade.spares.parents
  have hlive : ∀ e ∈ (s.graph.edgesAt a.id).filter (·.isLiveAt s.now),
      e.pair ∈ s'.graph.parents.map (·.pair) := by
    intro e he
    rw [hparents]
    exact List.mem_map_of_mem (Graph.mem_edgesAt.1 (List.mem_filter.1 he).1).1
  obtain ⟨done, rest, hsplit, hstop, hgraph, hfail⟩ :=
    Load.expireEdges_stops hs' (hparents ▸ hn) s.now hlive
  obtain ⟨hok, hleft, hrefused⟩ := Load.retire_of_leadsTo hcascade hfail
  rw [hparents] at hgraph
  have hedges : ended.2.graph.parents =
      Graph.change (·.pair ∈ done.map (·.pair)) (ParentOf.seen s.now s.now) s.graph.parents := by
    rw [← hgraph, ← hleft]
    rfl
  have hall : refused = (rest.take 1).map (Load.expiry s.now) := hrefused.trans hstop
  refine ⟨hok, done, rest, hsplit, hall, hedges, ?_⟩
  rw [hall]
  exact Graph.edgesAt_are_over_iff hn hsplit hedges

/-- A host that has been in two accounts since a time.  Of the calls that expire an edge, so many pass
before one does not find it. -/
def hostInTwoAccounts (since now : Instant) (skip : Nat) : Scene :=
  let host : Payload :=
    { id := "h", team := { id := "t", name := "Team" }, assetType := "Hostname", identifier := "h"
      annotations :=
        [{ key := "account", value := "123456789012" }, { key := "account", value := "210987654321" }] }
  { graph := (load "account" (.upsert host) { now := since }).2.graph, now
    faults := [{ method := .upsertParent, skip, error := .notFound "edge" }] }

/-- The second edge is not found, and none is behind it. -/
theorem retire_ends_edges_up_to_the_last :
    let s := hostInTwoAccounts { second := 1 } { second := 2 } 1
    let k : AssetKey := { type := "Hostname", identifier := "h" }
    let a : Asset :=
      { id := "asset-1", key := k, firstSeen := { second := 1 }, lastSeen := { second := 1 }
        expiration := Instant.unexpired }
    let t : Team := { id := "team-2", identifier := "t", name := "Team" }
    let r : Retirement := { asset := k, teamId := "t", assetId := "h" }
    let refused := ((Event.retire r).plan "account" s.now).refused serve s
    let ended := s.load "account" (.retire r)
    s.graph.listAssets (.byKey r.asset) .all = [a] ∧ s.graph.listTeams (some r.teamId) .all = [t] ∧
      s.graph.isOwnedByOthers a.id t.id = false ∧ (s.graph.parents.map (·.pair)).Nodup ∧
      (∀ f ∈ s.faults, f.method = .upsertParent ∧ f.error.isNotFound = true) ∧
      ended.1 = .ok () ∧ refused.length = 1 ∧
      (∀ e ∈ ended.2.graph.edgesAt a.id, Load.expiry s.now e ∉ refused → e.expiration ≤ s.now) ∧
      ∃ done rest, (s.graph.edgesAt a.id).filter (·.isLiveAt s.now) = done ++ rest ∧
        refused = (rest.take 1).map (Load.expiry s.now) ∧ ∀ e ∈ rest.drop 1, e ∈ done ++ rest.take 1 := by
  intro s k a t r refused ended
  have ha : s.graph.listAssets (.byKey r.asset) .all = [a] := by decide +kernel
  have ht : s.graph.listTeams (some r.teamId) .all = [t] := by decide +kernel
  have hothers : s.graph.isOwnedByOthers a.id t.id = false := by decide +kernel
  have hn : (s.graph.parents.map (·.pair)).Nodup := by decide +kernel
  have hs : ∀ f ∈ s.faults, f.method = .upsertParent ∧ f.error.isNotFound = true := by decide +kernel
  have hone : refused.length = 1 := by decide +kernel
  have hall : ∀ e ∈ ended.2.graph.edgesAt a.id, Load.expiry s.now e ∉ refused → e.expiration ≤ s.now := by
    decide +kernel
  obtain ⟨hok, done, rest, hlive, hrefused, -, hover⟩ :=
    retire_ends_edges_up_to_a_missing_one "account" ha ht hothers hn hs
  exact ⟨ha, ht, hothers, hn, hs, hok, hone, hall, done, rest, hlive, hrefused, hover.1 hall⟩

/-- **A retirement leaves an edge**: the first is not found, and the second keeps the sentinel. -/
theorem retire_leaves_an_edge :
    let s := hostInTwoAccounts { second := 1 } { second := 2 } 0
    let k : AssetKey := { type := "Hostname", identifier := "h" }
    let r : Retirement := { asset := k, teamId := "t", assetId := "h" }
    let refused := ((Event.retire r).plan "account" s.now).refused serve s
    let ended := s.load "account" (.retire r)
    (s.graph.listAssets (.byKey r.asset) .all).map (·.id) = ["asset-1"] ∧
      (s.graph.listTeams (some r.teamId) .all).map (·.id) = ["team-2"] ∧
      s.graph.isOwnedByOthers "asset-1" "team-2" = false ∧
      (∀ f ∈ s.faults, f.method = .upsertParent ∧ f.error.isNotFound = true) ∧
      ended.1 = .ok () ∧
      ∃ e ∈ ended.2.graph.parents, e.childId = "asset-1" ∧ Load.expiry s.now e ∉ refused ∧
        e.expiration = Instant.unexpired := by
  decide +kernel

end Scene

end AssetGraph
