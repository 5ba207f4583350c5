import AssetGraph.Proofs.Delivery.Redelivery
import AssetGraph.Proofs.Event.Decoding
/-!
# What a tombstone names

An upsert names its asset and its team in its value, a tombstone in its metadata and its key
(`Message.event?_eq_retire_iff`).  Nothing compares the two.  So a tombstone that has the metadata and the
key of an upsert before it ends the ownership that the upsert has made exactly if those name what the value
does (`Orchestrator.tombstone_ends_what_metadata_and_key_name`); if they do not, both messages are handled
without error and the ownership stays (`Orchestrator.tombstone_misses_an_ownership`).
-/
namespace AssetGraph

namespace Orchestrator

variable {o : Orchestrator} {τ : Type} {d : Destination τ} {view : τ → Graph}

/-- **An upsert and its tombstone, one after the other**: there is one ownership of the upsert's asset by
its team, which is over exactly if the tombstone's retirement names them. -/
theorem upsert_then_retire (ha : Server.Answers d.serve view) {x : Stats × τ} (hx : (view x.2).Sound)
    {m m' : Message} {p : Payload} {r : Retirement} (hp : m.event? o.major = .ok (some (.upsert p)))
    (hr : m'.event? o.major = .ok (some (.retire r))) :
    let ended := o.handler d m' (o.handler d m x).state
    ended.result = .ok () ∧ ∃ w, (view ended.state.2).ownershipsOf p.assetKey p.team.id = [w] ∧
      (w.isActive = false ↔ r.asset = p.assetKey ∧ r.teamId = p.team.id) := by
  intro ended
  have hfirst := (handler_of_event ha hx hp).2
  have hs : (view (o.handler d m x).state.2).Sound := hfirst ▸ Event.sound_effect hx o.accountKey _ _
  obtain ⟨hok, hthen⟩ := handler_of_event ha hs hr
  have hs' : (view ended.state.2).Sound := hthen ▸ Event.sound_effect hs o.accountKey _ _
  -- the upsert gives the asset to the team, whatever there was
  have hgiven : (view (o.handler d m x).state.2).holds? (.owner p.assetKey p.team.id) = some true := by
    rw [hfirst, Event.holds?_owner_effect hx, Event.gives?, if_pos ⟨rfl, rfl⟩, Statement.amend_true]
  have howner : (view ended.state.2).holds? (.owner p.assetKey p.team.id) =
      some (!decide (r.asset = p.assetKey ∧ r.teamId = p.team.id)) := by
    rw [hthen, Event.holds?_owner_effect hs, hgiven, Event.gives?]
    by_cases hnames : r.asset = p.assetKey ∧ r.teamId = p.team.id
    · rw [if_pos hnames, decide_eq_true hnames]
      rfl
    · rw [if_neg hnames, decide_eq_false hnames]
      rfl
  have hmap := Graph.map_isActive_ownershipsOf hs'.toIsKeyed p.assetKey p.team.id
  rw [howner] at hmap
  obtain ⟨w, hw, hactive⟩ := Graph.eq_singleton_of_map_eq hmap
  refine ⟨hok, w, hw, ?_⟩
  rw [hactive, Bool.not_eq_false', decide_eq_true_eq]

/-- **A tombstone ends what metadata and key name.**  A message is an upsert, and another that has its key
and its metadata but no value is a retirement.  Then the retirement is of the asset that the metadata name,
by the team that the key names.  The two are handled one after the other, over a destination that keeps a
graph.  The second is handled without error, and behind it there is one ownership of the upsert's asset by
its team, which is over exactly if the retirement is of that asset and by that team. -/
theorem tombstone_ends_what_metadata_and_key_name (ha : Server.Answers d.serve view) {x : Stats × τ}
    (hx : (view x.2).Sound) {m : Message} (position : Position) {p : Payload} {r : Retirement}
    (hp : m.event? o.major = .ok (some (.upsert p)))
    (hr : { m with value := none, position }.event? o.major = .ok (some (.retire r))) :
    m.requiredMetadata "type" = .ok r.asset.type ∧ m.requiredMetadata "identifier" = .ok r.asset.identifier ∧
      Message.keyParts m.key = .ok (r.teamId, r.assetId) ∧
      let ended := o.handler d { m with value := none, position } (o.handler d m x).state
      ended.result = .ok () ∧ ∃ w, (view ended.state.2).ownershipsOf p.assetKey p.team.id = [w] ∧
        (w.isActive = false ↔ r.asset = p.assetKey ∧ r.teamId = p.team.id) := by
  obtain ⟨-, -, htype, hidentifier, hkey⟩ := Message.event?_eq_retire_iff.1 hr
  exact ⟨htype, hidentifier, hkey, upsert_then_retire ha hx hp hr⟩

/-- A host that its team gives up under the metadata and the key that it has been made known under. -/
theorem tombstone_ends_what_metadata_and_key_name_of_a_host :
    let o : Orchestrator := {}
    let p : Payload :=
      { id := "h", team := { id := "t", name := "Team" }, assetType := "Hostname", identifier := "h" }
    let r : Retirement := { asset := p.assetKey, teamId := p.team.id, assetId := p.id }
    let m := p.entry.placed { topic := o.entity }
    let m' : Message := { m with value := none, position := { topic := o.entity, offset := 1 } }
    let d := Graph.destination { second := 0 }
    let ended := o.handler d m' (o.handler d m ({}, Graph.empty)).state
    Server.Answers d.serve id ∧ Graph.empty.Sound ∧ m.event? o.major = .ok (some (.upsert p)) ∧
      m'.event? o.major = .ok (some (.retire r)) ∧ m.requiredMetadata "identifier" = .ok "h" ∧
      Message.keyParts m.key = .ok ("t", "h") ∧ ended.result = .ok () ∧
      ∃ w, ended.state.2.ownershipsOf p.assetKey p.team.id = [w] ∧ w.isActive = false := by
  intro o p r m m' d ended
  have ha : Server.Answers d.serve id := fun c g => ⟨{ second := 0 }, rfl, rfl⟩
  have hp : m.event? o.major = .ok (some (.upsert p)) := by decide +kernel
  have hr : m'.event? o.major = .ok (some (.retire r)) := by decide +kernel
  obtain ⟨-, hidentifier, hkey, hok, w, hw, hover⟩ :=
    tombstone_ends_what_metadata_and_key_name ha (x := ({}, Graph.empty)) Graph.sound_empty
      { topic := o.entity, offset := 1 } hp hr
  exact ⟨ha, Graph.sound_empty, hp, hr, hidentifier, hkey, hok, w, hw, hover.2 ⟨rfl, rfl⟩⟩

/-- **A tombstone that misses.**  The metadata name another host than the value does.  The message is an
upsert of the one, its tombstone a retirement of the other; both are handled without error, and the team
owns the host still. -/
theorem tombstone_misses_an_ownership :
    let o : Orchestrator := {}
    let p : Payload :=
      { id := "h", team := { id := "t", name := "Team" }, assetType := "Hostname", identifier := "h" }
    let r : Retirement :=
      { asset := { type := "Hostname", identifier := "other" }, teamId := "t", assetId := "h" }
    let m : Message := { r.entry.placed { topic := o.entity } with value := some p.encode }
    let m' : Message := { m with value := none, position := { topic := o.entity, offset := 1 } }
    let d := Graph.destination { second := 0 }
    let first := o.handler d m ({}, Graph.empty)
    let ended := o.handler d m' first.state
    m.event? o.major = .ok (some (.upsert p)) ∧ m'.event? o.major = .ok (some (.retire r)) ∧
      r.asset.identifier ≠ p.identifier ∧ first.result = .ok () ∧ ended.result = .ok () ∧
      ended.state.2.owns.map (·.isActive) = [true] ∧ ended.state.2.assets.map (·.isUnexpired) = [true] := by
  decide +kernel

end Orchestrator

end AssetGraph
