import AssetGraph.Proofs.Graph.Sound
/-!
# Graphs that calls make

Whatever a graph is asked, with whatever arguments and in whatever order, its ids and keys stay unique, its
edges keep their ends, and each id that has been handed out is the id of an entity: an operation looks for
what it needs before it writes anything (`Graph.serveAll_is_intact`).  Only the identifiers of teams are
not looked after; `updateTeam` gives a team any.
-/
namespace AssetGraph

namespace Graph

/-- **A graph without a gap**: it is well formed, and there are as many entities as ids handed out, which
are all lower than those to come. -/
structure Intact (g : Graph) : Prop extends Numbered g where
  count : g.ids.length = g.issued

theorem intact_empty : Intact empty := ⟨sound_empty.numbered, rfl⟩

section Intact

variable {g g' : Graph} {now : Instant}

theorem Intact.of_sameShape (h : g.Intact) (hs : SameShape g g') : g'.Intact :=
  ⟨h.toNumbered.of_sameShape hs, by rw [hs.ids, hs.issued, h.count]⟩

theorem length_ids (g : Graph) :
    g.ids.length = g.assets.length + g.teams.length + g.owns.length + g.parents.length := by
  simp only [ids, List.length_append, List.length_map]

/-! ## Teams -/

theorem Intact.createTeam (h : g.Intact) {r : TeamRequest} {t : Team} (hc : g.createTeam r = .ok (t, g')) :
    g'.Intact := by
  rw [Graph.createTeam] at hc
  split at hc
  · cases hc
  · cases hc
    have hcount := h.count
    refine ⟨h.toNumbered.addTeam rfl, ?_⟩
    simp only [length_ids, List.length_append, List.length_singleton] at hcount ⊢
    omega

/-- A team's id stays, though its identifier may be another's. -/
theorem Intact.updateTeam (h : g.Intact) {id : String} {r : TeamRequest} {t : Team}
    (hc : g.updateTeam id r = .ok (t, g')) : g'.Intact := by
  rw [Graph.updateTeam] at hc
  split at hc
  · cases hc
  · cases hc
    have hrevise : ∀ t, (r.revise t).id = t.id := fun _ => rfl
    have hteams : (updateFirst (·.id == id) r.revise g.teams).map (·.id) = g.teams.map (·.id) :=
      map_updateFirst hrevise g.teams
    have hids : { g with teams := updateFirst (·.id == id) r.revise g.teams }.ids = g.ids := by
      simp only [ids, hteams]
    exact {
      ids := hids ▸ h.ids
      keys := h.keys
      pairs := h.pairs
      edges := h.edges
      owned := fun o ho => (h.owned o ho).imp_right fun hm => hteams ▸ hm
      contained := h.contained
      fresh := fun family n hn => hids ▸ h.fresh family n hn
      count := hids ▸ h.count }

/-! ## Assets -/

theorem Intact.createAsset (h : g.Intact) {r : AssetRequest} {a : Asset}
    (hc : g.createAsset now r = .ok (a, g')) : g'.Intact := by
  rw [Graph.createAsset] at hc
  split at hc
  · cases hc
  · rename_i hany
    cases hc
    have hcount := h.count
    have hk : g.asset? r.key = none := by
      refine find?_key_eq_none_iff.2 fun hm => hany ?_
      obtain ⟨a, ha, hk⟩ := List.mem_map.1 hm
      exact List.any_eq_true.2 ⟨a, ha, beq_iff_eq.2 hk⟩
    refine ⟨h.toNumbered.addAsset rfl hk, ?_⟩
    simp only [length_ids, List.length_append, List.length_singleton] at hcount ⊢
    omega

theorem Intact.updateAsset (h : g.Intact) {id : String} {r : AssetRequest} {a : Asset}
    (hc : g.updateAsset id r = .ok (a, g')) : g'.Intact := by
  rw [Graph.updateAsset] at hc
  split at hc
  · cases hc
  · cases hc
    have hrevise : ∀ a, ((r.revise a).id, (r.revise a).key) = (a.id, a.key) := fun _ => rfl
    exact h.of_sameShape ⟨map_updateFirst hrevise g.assets, rfl, rfl, rfl, rfl⟩

/-! ## Edges -/

theorem Intact.upsertOwner (h : g.Intact) {assetId teamId : String} {r : OwnsRequest} {o : Owns}
    (hc : g.upsertOwner assetId teamId r = .ok (o, g')) : g'.Intact := by
  rw [Graph.upsertOwner] at hc
  split at hc
  · cases hc
  · rename_i hasset
    split at hc
    · cases hc
    · rename_i hteam
      rw [Bool.not_eq_true, Bool.not_eq_false'] at hasset hteam
      split at hc
      · cases hc
        have hrevise : ∀ o, ((r.revise o).id, (r.revise o).pair) = (o.id, o.pair) := fun _ => rfl
        exact h.of_sameShape ⟨rfl, rfl, map_updateFirst hrevise g.owns, rfl, rfl⟩
      · rename_i hnone
        cases hc
        have hcount := h.count
        rw [joins_eq] at hnone
        refine ⟨h.toNumbered.addOwns rfl hnone (hasAsset_iff.1 hasset) (hasTeam_iff.1 hteam), ?_⟩
        simp only [length_ids, List.length_append, List.length_singleton] at hcount ⊢
        omega

theorem Intact.upsertParent (h : g.Intact) {childId parentId : String} {r : ParentOfRequest} {e : ParentOf}
    (hc : g.upsertParent now childId parentId r = .ok (e, g')) : g'.Intact := by
  rw [Graph.upsertParent] at hc
  split at hc
  · cases hc
  · rename_i hchild
    split at hc
    · cases hc
    · rename_i hparent
      rw [Bool.not_eq_true, Bool.not_eq_false'] at hchild hparent
      split at hc
      · cases hc
        have hrevise : ∀ e, ((r.revise e).id, (r.revise e).pair) = (e.id, e.pair) := fun _ => rfl
        exact h.of_sameShape ⟨rfl, rfl, rfl, map_updateFirst hrevise g.parents, rfl⟩
      · rename_i hnone
        cases hc
        have hcount := h.count
        rw [contains_eq] at hnone
        refine ⟨h.toNumbered.addParentOf rfl hnone (hasAsset_iff.1 hchild) (hasAsset_iff.1 hparent), ?_⟩
        simp only [length_ids, List.length_append, List.length_singleton] at hcount ⊢
        omega

/-! ## Any calls -/

theorem eq_of_unchanged {α : Type} {r : Except GraphError α} {a : α} (h : g.unchanged r = .ok (a, g')) :
    g' = g := by
  cases r with
  | ok a => cases h; rfl
  | error e => cases h

/-- **A call that is answered keeps a graph intact.** -/
theorem Intact.apply (h : g.Intact) {c : Call} {a : c.Answer} (hc : g.apply now c = .ok (a, g')) :
    g'.Intact := by
  cases c with
  | createTeam r => exact h.createTeam hc
  | updateTeam id r => exact h.updateTeam hc
  | createAsset r => exact h.createAsset hc
  | updateAsset id r => exact h.updateAsset hc
  | upsertOwner assetId teamId r => exact h.upsertOwner hc
  | upsertParent childId parentId r => exact h.upsertParent hc
  | teams identifier page => cases hc; exact h
  | assets f page => cases hc; exact h
  | owners assetId page => exact eq_of_unchanged hc ▸ h
  | parents assetId page => exact eq_of_unchanged hc ▸ h
  | children assetId page => exact eq_of_unchanged hc ▸ h

theorem Intact.serve (h : g.Intact) (now : Instant) (c : Call) : (g.serve now c).2.Intact := by
  cases hc : g.apply now c with
  | ok answered =>
    rw [serve_of_ok hc]
    exact h.apply hc
  | error e =>
    rw [serve_of_error hc]
    exact h

end Intact

/-- The graph behind calls, each served at its time. -/
def serveAll (calls : List (Instant × Call)) (g : Graph) : Graph :=
  calls.foldl (fun g x => (g.serve x.1 x.2).2) g

theorem Intact.serveAll {g : Graph} (h : g.Intact) (calls : List (Instant × Call)) :
    (serveAll calls g).Intact := by
  induction calls generalizing g with
  | nil => exact h
  | cons x calls ih => exact ih (h.serve x.1 x.2)

/-- **Whatever an empty graph is asked, it stays well formed.**  Take the graph behind any calls, with
any arguments and at any times, answered or not.  No two assets have the same key, no two ownerships the
same asset and team, and no two containments the same child and parent; no two entities of whatever kind
have the same id; and the ends of each edge are there.  There are as many entities as ids handed out, and
a call that is answered with an error has changed nothing. -/
theorem serveAll_is_intact (calls : List (Instant × Call)) :
    let g := serveAll calls empty
    (g.assets.map (·.key)).Nodup ∧
    (g.owns.map fun o => (o.assetId, o.teamId)).Nodup ∧
    (g.parents.map fun e => (e.childId, e.parentId)).Nodup ∧
    (g.assets.map (·.id) ++ g.teams.map (·.id) ++ g.owns.map (·.id) ++ g.parents.map (·.id)).Nodup ∧
    (∀ o ∈ g.owns, (∃ a ∈ g.assets, a.id = o.assetId) ∧ ∃ t ∈ g.teams, t.id = o.teamId) ∧
    (∀ e ∈ g.parents, (∃ a ∈ g.assets, a.id = e.childId) ∧ ∃ a ∈ g.assets, a.id = e.parentId) ∧
    g.assets.length + g.teams.length + g.owns.length + g.parents.length = g.issued ∧
    ∀ now c, (∃ e, g.serve now c = (.error e, g)) ∨ ∃ a, (g.serve now c).1 = .ok a := by
  intro g
  have h : g.Intact := intact_empty.serveAll calls
  refine ⟨h.keys, h.pairs, h.edges, h.ids, fun o ho => ?_, fun e he => ?_, ?_, fun now c => ?_⟩
  · exact (h.owned o ho).imp List.mem_map.1 List.mem_map.1
  · exact (h.contained e he).imp List.mem_map.1 List.mem_map.1
  · rw [← length_ids, h.count]
  · cases hc : g.apply now c with
    | ok answered => exact .inr ⟨answered.1, by rw [serve_of_ok hc]⟩
    | error e => exact .inl ⟨e, serve_of_error hc⟩

end Graph

end AssetGraph
