import AssetGraph.Proofs.Reconcile.Reach
import AssetGraph.Proofs.Reconcile.Retirement
/-!
# When the clock goes back

An expiration in a graph that loads have left is the sentinel or the time of a load (`Graph.Reached.isDated`).
A retirement takes for live what expires later than now.  As long as no load has had a later time, that is what
carries the sentinel, and what has expired keeps its expiration.  Where the clock has gone back since, a
retirement that comes again moves the expirations of its asset and of the edges at it back with it, and exactly
those (`Graph.Reached.retire_sets_back_what_is_ahead`).
-/
namespace AssetGraph

namespace Graph

/-! ## The times of expirations -/

/-- **Expirations are the sentinel or among given times.** -/
structure IsDated (times : List Instant) (g : Graph) : Prop where
  assets : ∀ a ∈ g.assets, a.expiration = Instant.unexpired ∨ a.expiration ∈ times
  parents : ∀ e ∈ g.parents, e.expiration = Instant.unexpired ∨ e.expiration ∈ times

variable {g : Graph} {times times' : List Instant} {now : Instant}

theorem isDated_empty (times : List Instant) : IsDated times empty where
  assets _ h := absurd h List.not_mem_nil
  parents _ h := absurd h List.not_mem_nil

theorem IsDated.mono (h : g.IsDated times) (hs : times ⊆ times') : g.IsDated times' where
  assets a ha := (h.assets a ha).imp_right fun hm => hs hm
  parents e he := (h.parents e he).imp_right fun hm => hs hm

theorem IsDated.perform (h : g.IsDated times) (hnow : now ∈ times) (d : Deed) :
    (d.perform now g).IsDated times := by
  have hmarks := Deed.marks_perform d now g
  have hdate : d.expiration now = Instant.unexpired ∨ d.expiration now ∈ times := by
    cases hf : d.fells with
    | true => exact .inr (Deed.expiration_of_fells hf ▸ hnow)
    | false => exact .inl (Deed.expiration_of_not_fells hf)
  refine ⟨fun a ha => ?_, fun e he => ?_⟩
  · rcases hmarks.assets a ha with hold | ⟨-, hx⟩
    · exact h.assets a hold
    · exact hx ▸ hdate
  · rcases hmarks.parents e he with hold | ⟨-, hx⟩
    · exact h.parents e hold
    · exact hx ▸ hdate

theorem IsDated.performAll (h : g.IsDated times) (hnow : now ∈ times) (ds : List Deed) :
    (Deed.performAll now ds g).IsDated times := by
  induction ds generalizing g with
  | nil => exact h
  | cons d ds ih => exact ih (h.perform hnow d)

/-- **What has expired has done so at the time of a load**, whatever has failed. -/
theorem Reached.isDated {accountKey : String} {xs : List (Instant × Event)} (h : Reached accountKey xs g) :
    g.IsDated (xs.map Prod.fst) := by
  induction h with
  | empty => exact isDated_empty _
  | load h hp ih =>
    obtain ⟨pre, -, rfl⟩ := Event.deeds_of_passes h.sound hp
    rw [List.map_append]
    exact (ih.mono (List.subset_append_left _ _)).performAll (List.mem_append_right _ List.mem_cons_self) pre

end Graph

/-! ## What a retirement expires -/

/-- **A retirement expires an asset**: it is of that asset, by a team that there is, and nobody else owns the
asset. -/
def Retirement.Expires (g : Graph) (r : Retirement) (assetId : String) : Prop :=
  ∃ a ∈ g.assets, a.id = assetId ∧ a.key = r.asset ∧ ∃ u ∈ g.teams, u.identifier = r.teamId ∧
    ∀ o ∈ g.owns, o.assetId = assetId → o.teamId ≠ u.id → o.endTime ≠ none

instance (g : Graph) (r : Retirement) (assetId : String) : Decidable (r.Expires g assetId) :=
  inferInstanceAs (Decidable (∃ a ∈ g.assets, a.id = assetId ∧ a.key = r.asset ∧
    ∃ u ∈ g.teams, u.identifier = r.teamId ∧
      ∀ o ∈ g.owns, o.assetId = assetId → o.teamId ≠ u.id → o.endTime ≠ none))

namespace Retirement

variable {g : Graph} {r : Retirement}

theorem expires_iff (h : g.Unambiguous) {a : Asset} {u : Team} (ha : g.asset? r.asset = some a)
    (hu : g.team? r.teamId = some u) {assetId : String} :
    r.Expires g assetId ↔ a.id = assetId ∧ ¬ g.isOwnedByOthers a.id u.id = true := by
  obtain ⟨hma, hk⟩ := h.asset?_eq_some_iff.1 ha
  obtain ⟨hmu, hi⟩ := h.team?_eq_some_iff.1 hu
  rw [Graph.isOwnedByOthers_eq_true_iff]
  constructor
  · rintro ⟨b, hb, rfl, hbk, v, hv, hvi, hnobody⟩
    obtain rfl := Graph.eq_of_key_eq h.keys hb hma (hbk.trans hk.symm)
    obtain rfl := Graph.eq_of_key_eq h.identifiers hv hmu (hvi.trans hi.symm)
    exact ⟨rfl, fun ⟨o, ho, hoa, hne, hend⟩ => hnobody o ho hoa hne hend⟩
  · rintro ⟨rfl, hnobody⟩
    exact ⟨a, hma, rfl, hk, u, hmu, hi, fun o ho hoa hne hend => hnobody ⟨o, ho, hoa, hne, hend⟩⟩

theorem not_expires (hnone : g.asset? r.asset = none ∨ g.team? r.teamId = none)
    (assetId : String) : ¬ r.Expires g assetId := by
  rintro ⟨a, ha, -, hk, u, hu, hi, -⟩
  rcases hnone with hn | hn
  · exact Graph.find?_key_eq_none_iff.1 hn (List.mem_map.2 ⟨a, ha, hk⟩)
  · exact Graph.find?_key_eq_none_iff.1 hn (List.mem_map.2 ⟨u, hu, hi⟩)

end Retirement

namespace Event

open AssetGraph.Graph (change change_eq_self change_congr_of_iff)

/-- **The assets and the edges that a retirement leaves**: what it expires does so now, if it would later. -/
theorem effect_retire_lists {g : Graph} (h : g.Unambiguous) (accountKey : String) (r : Retirement)
    (now : Instant) :
    ((Event.retire r).effect accountKey now g).assets =
        change (fun a => now < a.expiration ∧ r.Expires g a.id) (Asset.seen now now) g.assets ∧
      ((Event.retire r).effect accountKey now g).parents =
        change (fun e => now < e.expiration ∧ (r.Expires g e.childId ∨ r.Expires g e.parentId))
          (ParentOf.seen now now) g.parents := by
  by_cases hnone : g.asset? r.asset = none ∨ g.team? r.teamId = none
  · have hnot := Retirement.not_expires hnone
    rw [effect_retire_of_none hnone]
    refine ⟨(change_eq_self fun a _ hx => absurd hx.2 (hnot a.id)).symm, ?_⟩
    exact (change_eq_self fun e _ hx => absurd hx.2 (not_or.2 ⟨hnot e.childId, hnot e.parentId⟩)).symm
  · obtain ⟨hasset, hteam⟩ := not_or.1 hnone
    obtain ⟨a, ha⟩ := Option.ne_none_iff_exists'.1 hasset
    obtain ⟨u, hu⟩ := Option.ne_none_iff_exists'.1 hteam
    rw [effect_retire ha hu]
    simp only [Retirement.expires_iff h ha hu]
    by_cases hothers : g.isOwnedByOthers a.id u.id = true
    · rw [if_pos hothers]
      refine ⟨(change_eq_self fun _ _ hx => absurd hothers hx.2.2).symm, ?_⟩
      exact (change_eq_self fun _ _ hx => absurd hothers (hx.2.elim And.right And.right)).symm
    · rw [if_neg hothers]
      refine ⟨change_congr_of_iff (fun b _ => ?_) fun _ _ _ => rfl,
        change_congr_of_iff (fun e _ => ?_) fun _ _ _ => rfl⟩
      · rw [and_iff_left hothers, and_comm, eq_comm]
      · rw [and_iff_left hothers, and_iff_left hothers, and_comm, eq_comm, @eq_comm _ e.parentId]

end Event

namespace Graph

variable {accountKey : String} {xs : List (Instant × Event)} {g : Graph}

/-- **What a clock that goes back sets back.**  Take any graph that a history of loads has reached, whatever has
failed on the way, and a retirement at any time, earlier ones included.  The retirement ends well.  Whatever in
the graph has expired has done so at the time of a load of the history.  It stays as it is, unless that time is
ahead of the retirement's and the retirement expires the asset, or one at an end of the edge; then it is there
as seen and expired at the retirement's time.  So nothing that has expired is touched as long as no load of the
history has been at a later time. -/
theorem Reached.retire_sets_back_what_is_ahead (h : Reached accountKey xs g) (r : Retirement) (now t : Instant) :
    let ended := ((Event.retire r).plan accountKey now).run (Graph.server t) g
    ended.1 = .ok () ∧
    (∀ a ∈ g.assets, a.expiration ≠ Instant.unexpired →
      a.expiration ∈ xs.map Prod.fst ∧
      (a ∈ ended.2.assets ↔ ¬ (now < a.expiration ∧ r.Expires g a.id)) ∧
      (a ∉ ended.2.assets → { a with lastSeen := now, expiration := now } ∈ ended.2.assets)) ∧
    ∀ e ∈ g.parents, e.expiration ≠ Instant.unexpired →
      e.expiration ∈ xs.map Prod.fst ∧
      (e ∈ ended.2.parents ↔ ¬ (now < e.expiration ∧ (r.Expires g e.childId ∨ r.Expires g e.parentId))) ∧
      (e ∉ ended.2.parents → { e with lastSeen := now, expiration := now } ∈ ended.2.parents) := by
  intro ended
  have hended : ended = (.ok (), (Event.retire r).effect accountKey now g) := Event.run_plan h.sound _ _ _ _
  obtain ⟨hassets, hparents⟩ := Event.effect_retire_lists h.sound.growable.toUnambiguous accountKey r now
  rw [hended]
  simp only [hassets, hparents]
  refine ⟨trivial, fun a ha hx => ?_, fun e he hx => ?_⟩
  · have hiff := mem_change_iff_not (f := Asset.seen now now) h.sound.assetIds (fun _ => rfl)
      (fun x (hp : now < x.expiration ∧ r.Expires g x.id) => Asset.seen_ne_self hp.1) ha
    refine ⟨(h.isDated.assets a ha).resolve_left hx, hiff, fun hgone => ?_⟩
    exact mem_change.2 ⟨a, ha, if_pos (not_not.1 fun hp => hgone (hiff.2 hp))⟩
  · have hiff := mem_change_iff_not (f := ParentOf.seen now now) h.sound.edges (fun _ => rfl)
      (fun x (hp : now < x.expiration ∧ (r.Expires g x.childId ∨ r.Expires g x.parentId)) =>
        ParentOf.seen_ne_self hp.1) he
    refine ⟨(h.isDated.parents e he).resolve_left hx, hiff, fun hgone => ?_⟩
    exact mem_change.2 ⟨e, he, if_pos (not_not.1 fun hp => hgone (hiff.2 hp))⟩

/-- A host that its team has given up, at a later time than it is given up again; its account, which nobody
owns; and a host of another team, which is given up at that time for the first time. -/
theorem Reached.retire_sets_back_what_is_ahead_of_two_hosts :
    let t (second : Int) : Instant := { second }
    let k (identifier : String) : AssetKey := { type := "Hostname", identifier }
    let up (identifier team : String) : Event :=
      .upsert { assetType := "Hostname", identifier, team := { id := team, name := team }
                annotations := [{ key := "account", value := "123456789012" }] }
    let r (identifier team : String) : Retirement :=
      { asset := k identifier, teamId := team, assetId := identifier }
    let xs := [(t 1, up "h" "t"), (t 1, up "i" "u"), (t 5, .retire (r "h" "t"))]
    let load (g : Graph) (x : Instant × Event) : Graph :=
      (Scene.load "account" x.2 { graph := g, now := x.1 }).2.graph
    let g := load (load (load Graph.empty (t 1, up "h" "t")) (t 1, up "i" "u")) (t 5, .retire (r "h" "t"))
    let retire (identifier team : String) (now : Instant) : Plan Unit :=
      (Event.retire (r identifier team)).plan "account" now
    let back := (retire "h" "t" (t 3)).run (Graph.server (t 3)) g
    let later := (retire "h" "t" (t 6)).run (Graph.server (t 6)) g
    let other := (retire "i" "u" (t 3)).run (Graph.server (t 3)) g
    let host : Asset :=
      { id := "asset-1", key := k "h", firstSeen := t 1, lastSeen := t 5, expiration := t 5 }
    Reached "account" xs g ∧ host ∈ g.assets ∧ back.1 = .ok () ∧
      { host with lastSeen := t 3, expiration := t 3 } ∈ back.2.assets ∧
      host ∈ later.2.assets ∧ host ∈ other.2.assets := by
  intro t k up r xs load g retire back later other host
  have hload {ys : List (Instant × Event)} {x : Graph} (h : Reached "account" ys x) (y : Instant × Event) :
      Reached "account" (ys ++ [y]) (load x y) := Reached.scene (s := { graph := x, now := y.1 }) h y.2
  have h : Reached "account" xs g := hload (hload (hload .empty _) _) _
  have hhost : host ∈ g.assets := by decide +kernel
  have hx : host.expiration ≠ Instant.unexpired := by decide
  obtain ⟨hok, hback, -⟩ := h.retire_sets_back_what_is_ahead (r "h" "t") (t 3) (t 3)
  obtain ⟨-, hlater, -⟩ := h.retire_sets_back_what_is_ahead (r "h" "t") (t 6) (t 6)
  obtain ⟨-, hother, -⟩ := h.retire_sets_back_what_is_ahead (r "i" "u") (t 3) (t 3)
  have hexpires : t 3 < host.expiration ∧ (r "h" "t").Expires g host.id := by decide +kernel
  have hlate : ¬ (t 6 < host.expiration ∧ (r "h" "t").Expires g host.id) := by decide +kernel
  have hnot : ¬ (t 3 < host.expiration ∧ (r "i" "u").Expires g host.id) := by decide +kernel
  obtain ⟨-, hiff, hset⟩ := hback host hhost hx
  -- the memberships match as they stand, and would be computed otherwise
  unfold back later other retire
  exact ⟨h, hhost, hok, hset fun hm => hiff.1 hm hexpires, (hlater host hhost hx).2.1.2 hlate,
    (hother host hhost hx).2.1.2 hnot⟩

/-- **A retirement that comes again moves expirations back.**  A host in an account is given up, and again after
the clock has gone back. -/
theorem Reached.retire_again_moves_expirations_back :
    let t (second : Int) : Instant := { second }
    let p : Payload :=
      { assetType := "Hostname", identifier := "h", team := { id := "t", name := "Team" }
        annotations := [{ key := "account", value := "123456789012" }] }
    let r : Retirement := { asset := p.assetKey, teamId := "t", assetId := "h" }
    let load (g : Graph) (x : Instant × Event) : Graph :=
      (Scene.load "account" x.2 { graph := g, now := x.1 }).2.graph
    let g := load (load Graph.empty (t 1, .upsert p)) (t 5, .retire r)
    let ended := ((Event.retire r).plan "account" (t 3)).run (Graph.server (t 3)) g
    Reached "account" [(t 1, .upsert p), (t 5, .retire r)] g ∧ t 3 < t 5 ∧ t 5 < Instant.unexpired ∧
      g.assets.map (·.expiration) = [t 5, Instant.unexpired] ∧ g.parents.map (·.expiration) = [t 5] ∧
      ended.1 = .ok () ∧ ended.2.assets.map (·.expiration) = [t 3, Instant.unexpired] ∧
      ended.2.parents.map (·.expiration) = [t 3] := by
  intro t p r load g ended
  have hload {ys : List (Instant × Event)} {x : Graph} (h : Reached "account" ys x) (y : Instant × Event) :
      Reached "account" (ys ++ [y]) (load x y) := Reached.scene (s := { graph := x, now := y.1 }) h y.2
  have h : Reached "account" [(t 1, .upsert p), (t 5, .retire r)] g := hload (hload .empty _) _
  refine ⟨h, ?_⟩
  decide +kernel

end Graph

end AssetGraph
