import AssetGraph.Proofs.Reconcile.Effect
/-!
# What a retirement does

The deeds of a retirement come to one change: the team's ownership gets its end (`Graph.withEnd`), and where
nobody else owns the asset, the asset and the edges at it that are live expire, all at one instant
(`Graph.withExpiry`).  A graph need only be unambiguous for a retirement to do that and nothing else
(`Graph.retire_does_exactly`); loads need not have left it.
-/
namespace AssetGraph

namespace Graph

/-- **The end of an ownership**, if it is active. -/
def withEnd (now : Instant) (assetId teamId : String) (g : Graph) : Graph :=
  { g with
    owns := change (fun o => o.assetId = assetId ∧ o.teamId = teamId ∧ o.endTime = none)
      (fun o => { o with endTime := some now }) g.owns }

/-- **The expiry of an asset and of the edges at it**, of those among them that are live. -/
def withExpiry (now : Instant) (assetId : String) (g : Graph) : Graph :=
  { g with
    assets := change (fun a => a.id = assetId ∧ now < a.expiration)
      (fun a => { a with lastSeen := now, expiration := now }) g.assets
    parents := change (fun e => (e.childId = assetId ∨ e.parentId = assetId) ∧ now < e.expiration)
      (fun e => { e with lastSeen := now, expiration := now }) g.parents }

end Graph

namespace Deed

open AssetGraph.Graph (change change_change change_congr_of_iff)

theorem perform_endOwner (now : Instant) (assetId teamId : String) (g : Graph) :
    (endOwner assetId teamId).perform now g = g.withEnd now assetId teamId := by
  have howns : change (fun o => o.pair = (assetId, teamId) ∧ o.endTime = none) (Owns.until (some now)) g.owns =
      (g.withEnd now assetId teamId).owns := by
    refine change_congr_of_iff (fun o _ => ?_) fun _ _ _ => rfl
    rw [Owns.pair, Prod.mk.injEq, and_assoc]
  rw [perform, howns]
  rfl

/-- Edges that expire one by one do so as if at once: one that is listed twice expires once. -/
theorem performAll_expireEdges (now : Instant) (es : List ParentOf) (g : Graph) :
    performAll now (es.map fun e => .expireEdge e.childId e.parentId) g =
      { g with
        parents := change (fun x => x.pair ∈ es.map (·.pair) ∧ now < x.expiration) (ParentOf.seen now now)
          g.parents } := by
  induction es generalizing g with
  | nil =>
    rw [Graph.change_eq_self fun x _ hx => absurd hx.1 List.not_mem_nil]
    rfl
  | cons e es ih =>
    have hself (x : ParentOf) : (x.seen now now).seen now now = x.seen now now := rfl
    have hone (x : ParentOf) : x.pair = (e.childId, e.parentId) ∧ now < x.expiration ∨
        x.pair ∈ es.map (·.pair) ∧ now < x.expiration ↔
          x.pair ∈ (e :: es).map (·.pair) ∧ now < x.expiration := by
      rw [← or_and_right, List.map_cons, List.mem_cons]
      rfl
    rw [List.map_cons, performAll_cons, ih, perform]
    simp only [change_change hself]
    rw [change_congr_of_iff (fun x _ => hone x) fun _ _ _ => rfl]

/-- **The edges at an asset expire**, those among them that are live. -/
theorem performAll_edgesAt (now : Instant) (id : String) (g : Graph) :
    performAll now ((g.edgesAt id).map fun e => .expireEdge e.childId e.parentId) g =
      { g with
        parents := change (fun e => (e.childId = id ∨ e.parentId = id) ∧ now < e.expiration)
          (ParentOf.seen now now) g.parents } := by
  have hat : ∀ x ∈ g.parents, x.pair ∈ (g.edgesAt id).map (·.pair) ∧ now < x.expiration ↔
      (x.childId = id ∨ x.parentId = id) ∧ now < x.expiration := by
    refine fun x hx => and_congr_left fun _ => ⟨fun hm => ?_, fun hat => ?_⟩
    · obtain ⟨e, he, hpair⟩ := List.mem_map.1 hm
      obtain ⟨hc, hp⟩ := Prod.mk.inj hpair
      rw [← hc, ← hp]
      exact (Graph.mem_edgesAt.1 he).2
    · exact List.mem_map_of_mem (Graph.mem_edgesAt.2 ⟨hx, hat⟩)
  rw [performAll_expireEdges, change_congr_of_iff hat fun _ _ _ => rfl]

theorem performAll_expireAsset (now : Instant) (id : String) (g : Graph) :
    performAll now (.expireAsset id :: (g.edgesAt id).map fun e => .expireEdge e.childId e.parentId) g =
      g.withExpiry now id :=
  performAll_edgesAt now id ((expireAsset id).perform now g)

end Deed

/-- **The effect of a retirement of what is known.** -/
theorem Event.effect_retire {g : Graph} {r : Retirement} {a : Asset} {u : Team}
    (ha : g.asset? r.asset = some a) (hu : g.team? r.teamId = some u) (accountKey : String) (now : Instant) :
    (Event.retire r).effect accountKey now g =
      if g.isOwnedByOthers a.id u.id then g.withEnd now a.id u.id
      else (g.withEnd now a.id u.id).withExpiry now a.id := by
  simp only [effect, deeds, ha, hu, Deed.performAll_cons, Deed.perform_endOwner]
  cases g.isOwnedByOthers a.id u.id with
  | true => rfl
  | false => exact Deed.performAll_expireAsset now a.id (g.withEnd now a.id u.id)

theorem Event.effect_retire_of_none {g : Graph} {r : Retirement}
    (h : g.asset? r.asset = none ∨ g.team? r.teamId = none) (accountKey : String) (now : Instant) :
    (Event.retire r).effect accountKey now g = g := by
  rw [effect, deeds]
  rcases h with ha | hu
  · rw [ha]
    rfl
  · rw [hu]
    cases g.asset? r.asset <;> rfl

namespace Graph

variable {g : Graph}

theorem isOwnedByOthers_eq_true_iff {assetId teamId : String} : g.isOwnedByOthers assetId teamId = true ↔
    ∃ o ∈ g.owns, o.assetId = assetId ∧ o.teamId ≠ teamId ∧ o.endTime = none := by
  simp only [isOwnedByOthers, List.any_eq_true, Bool.and_eq_true, beq_iff_eq, bne_iff_ne, Owns.isActive_iff]

/-- **The exact effect of a retirement.**  Take any graph in which whatever names an entity names no other
of its kind and no edge dangles, and any time.  A retirement ends well.  If nothing has the asset's key, or
the team's identifier, the graph stays as it is.  Otherwise the team's ownership of the asset gets its end,
if it is active; while another team owns the asset, that is all.  Else the asset and the edges at it, in
either direction, expire at that time, those of them that would only later; and that is all. -/
theorem retire_does_exactly (h : g.Unambiguous) (accountKey : String) (r : Retirement) (now t : Instant) :
    let ended := ((Event.retire r).plan accountKey now).run (Graph.server t) g
    ended.1 = .ok () ∧
    ((∀ a ∈ g.assets, a.key ≠ r.asset) ∨ (∀ u ∈ g.teams, u.identifier ≠ r.teamId) → ended.2 = g) ∧
    ∀ a ∈ g.assets, a.key = r.asset → ∀ u ∈ g.teams, u.identifier = r.teamId →
      ((∃ o ∈ g.owns, o.assetId = a.id ∧ o.teamId ≠ u.id ∧ o.endTime = none) →
        ended.2 = g.withEnd now a.id u.id) ∧
      ((∀ o ∈ g.owns, o.assetId = a.id → o.teamId ≠ u.id → o.endTime ≠ none) →
        ended.2 = (g.withEnd now a.id u.id).withExpiry now a.id) := by
  intro ended
  have hended : ended = (.ok (), (Event.retire r).effect accountKey now g) :=
    (Load.retire_does h accountKey r now).run_server t
  rw [hended]
  refine ⟨rfl, fun hunknown => ?_, fun a ha hk u hu hi => ?_⟩
  · have hnone : g.asset? r.asset = none ∨ g.team? r.teamId = none := by
      refine hunknown.imp (fun hall => find?_key_eq_none_iff.2 fun hm => ?_)
        fun hall => find?_key_eq_none_iff.2 fun hm => ?_
      · obtain ⟨a, ha, hk⟩ := List.mem_map.1 hm
        exact hall a ha hk
      · obtain ⟨u, hu, hi⟩ := List.mem_map.1 hm
        exact hall u hu hi
    exact Event.effect_retire_of_none hnone accountKey now
  · have hasset : g.asset? r.asset = some a := (find?_key_eq_some_iff h.keys).2 ⟨ha, hk⟩
    have hteam : g.team? r.teamId = some u := (find?_key_eq_some_iff h.identifiers).2 ⟨hu, hi⟩
    rw [Event.effect_retire hasset hteam]
    refine ⟨fun hothers => if_pos (isOwnedByOthers_eq_true_iff.2 hothers), fun hnobody => if_neg fun hothers => ?_⟩
    obtain ⟨o, ho, hoa, hne, hend⟩ := isOwnedByOthers_eq_true_iff.1 hothers
    exact hnobody o ho hoa hne hend

/-- A host in itself, in an account that it has left, and around another host.  A team shares the other host
with a second team, gives up both hosts, and one that is not known. -/
theorem retire_does_exactly_to_three_hosts :
    let t (second : Int) : Instant := { second }
    let k (identifier : String) : AssetKey := { type := "Hostname", identifier }
    let host (id : String) : Asset :=
      { id, key := k id, firstSeen := t 1, lastSeen := t 1, expiration := Instant.unexpired }
    let team (id : String) : Team := { id, identifier := id, name := id }
    let owns (teamId assetId : String) : Owns :=
      { id := teamId ++ assetId, teamId, assetId, startTime := t 1, endTime := none }
    let edge (parentId childId : String) (expiration : Instant) : ParentOf :=
      { id := parentId ++ childId, parentId, childId, firstSeen := t 1, lastSeen := t 1, expiration }
    let g : Graph :=
      { assets := [host "h", host "i", host "account"], teams := [team "t", team "u"]
        owns := [owns "t" "h", owns "t" "i", owns "u" "i"]
        parents := [edge "h" "h" (t 9), edge "account" "h" (t 2), edge "h" "i" Instant.unexpired,
          edge "account" "i" Instant.unexpired] }
    let r (identifier : String) : Retirement :=
      { asset := k identifier, teamId := "t", assetId := identifier }
    let ended (identifier : String) :=
      ((Event.retire (r identifier)).plan "account" (t 3)).run (Graph.server (t 4)) g
    g.Unambiguous ∧ (ended "x").1 = .ok () ∧ (ended "x").2 = g ∧
      (ended "i").2 =
        { g with owns := [owns "t" "h", { owns "t" "i" with endTime := some (t 3) }, owns "u" "i"] } ∧
      (ended "h").2 =
        { g with
          assets := [{ host "h" with lastSeen := t 3, expiration := t 3 }, host "i", host "account"]
          owns := [{ owns "t" "h" with endTime := some (t 3) }, owns "t" "i", owns "u" "i"]
          parents := [{ edge "h" "h" (t 3) with lastSeen := t 3 }, edge "account" "h" (t 2),
            { edge "h" "i" (t 3) with lastSeen := t 3 }, edge "account" "i" Instant.unexpired] } := by
  intro t k host team owns edge g r ended
  have h : g.Unambiguous := by constructor <;> decide +kernel
  obtain ⟨hok, hunknown, -⟩ := retire_does_exactly h "account" (r "x") (t 3) (t 4)
  obtain ⟨-, -, hshared⟩ := retire_does_exactly h "account" (r "i") (t 3) (t 4)
  obtain ⟨-, -, halone⟩ := retire_does_exactly h "account" (r "h") (t 3) (t 4)
  have hi : (ended "i").2 = g.withEnd (t 3) "i" "t" :=
    (hshared (host "i") (by decide) rfl (team "t") (by decide) rfl).1 (by decide +kernel)
  have hh : (ended "h").2 = (g.withEnd (t 3) "h" "t").withExpiry (t 3) "h" :=
    (halone (host "h") (by decide) rfl (team "t") (by decide) rfl).2 (by decide +kernel)
  exact ⟨h, hok, hunknown (.inl (by decide +kernel)), hi.trans (by decide +kernel),
    hh.trans (by decide +kernel)⟩

end Graph

end AssetGraph
