import AssetGraph.Proofs.Graph.Integrity
import AssetGraph.Proofs.Reconcile.Effect
/-!
# Identifiers of teams

A team is created under an identifier that no team has, but an update may give it any.  Identifiers stay
unique exactly as long as no update gives a team the identifier of another one
(`Graph.identifiers_stay_unique_iff`); where two teams share one, what is loaded for it ends with a
duplicate.
-/
namespace AssetGraph

namespace Graph

/-- **A call that gives a team the identifier of another.** -/
def Takes (g : Graph) : Call → Prop
  | .updateTeam id r => g.hasTeam id = true ∧ ∃ t ∈ g.teams, t.id ≠ id ∧ t.identifier = r.identifier
  | _ => False

instance decidableTakes (g : Graph) : (c : Call) → Decidable (g.Takes c)
  | .updateTeam _ _ => inferInstanceAs (Decidable (_ ∧ _))
  | .teams .. | .createTeam .. | .assets .. | .createAsset .. | .updateAsset .. | .owners ..
  | .upsertOwner .. | .parents .. | .children .. | .upsertParent .. => isFalse id

section Calls

variable {g : Graph} {now : Instant}

/-- Only two kinds of call write teams. -/
theorem teams_serve {c : Call} (hcreate : ∀ r, c ≠ .createTeam r) (hupdate : ∀ id r, c ≠ .updateTeam id r) :
    (g.serve now c).2.teams = g.teams := by
  cases hc : g.apply now c with
  | error e => rw [serve_of_error hc]
  | ok answered =>
    obtain ⟨a, g'⟩ := answered
    rw [serve_of_ok hc]
    show g'.teams = g.teams
    cases c with
    | createTeam r => exact absurd rfl (hcreate r)
    | updateTeam id r => exact absurd rfl (hupdate id r)
    | createAsset r =>
      rw [apply, Graph.createAsset] at hc
      split at hc <;> cases hc
      rfl
    | updateAsset id r =>
      rw [apply, Graph.updateAsset] at hc
      split at hc <;> cases hc
      rfl
    | upsertOwner assetId teamId r =>
      rw [apply, Graph.upsertOwner] at hc
      split at hc
      · cases hc
      · split at hc
        · cases hc
        · split at hc <;> cases hc <;> rfl
    | upsertParent childId parentId r =>
      rw [apply, Graph.upsertParent] at hc
      split at hc
      · cases hc
      · split at hc
        · cases hc
        · split at hc <;> cases hc <;> rfl
    | teams identifier page => cases hc; rfl
    | assets f page => cases hc; rfl
    | owners assetId page => rw [eq_of_unchanged hc]
    | parents assetId page => rw [eq_of_unchanged hc]
    | children assetId page => rw [eq_of_unchanged hc]

/-- A team is created under an identifier of its own. -/
theorem nodup_identifiers_createTeam (hn : (g.teams.map (·.identifier)).Nodup) (r : TeamRequest) :
    ((g.serve now (.createTeam r)).2.teams.map (·.identifier)).Nodup := by
  have happly : g.apply now (.createTeam r) = g.createTeam r := rfl
  rw [Graph.createTeam] at happly
  split at happly
  · rw [serve_of_error happly]
    exact hn
  · rename_i hany
    rw [serve_of_ok happly]
    refine nodup_map_concat hn fun hm => hany ?_
    obtain ⟨t, ht, hi⟩ := List.mem_map.1 hm
    exact List.any_eq_true.2 ⟨t, ht, beq_iff_eq.2 hi⟩

/-- **An update keeps identifiers unique unless it takes the one of another team.** -/
theorem nodup_identifiers_updateTeam (h : g.WellFormed) (hn : (g.teams.map (·.identifier)).Nodup)
    (id : String) (r : TeamRequest) :
    ((g.serve now (.updateTeam id r)).2.teams.map (·.identifier)).Nodup ↔ ¬ g.Takes (.updateTeam id r) := by
  have happly : g.apply now (.updateTeam id r) = g.updateTeam id r := rfl
  rw [Graph.updateTeam] at happly
  split at happly
  · rename_i hnone
    rw [serve_of_error happly]
    refine iff_of_true hn fun ht => ?_
    obtain ⟨t, hm, hid⟩ := List.mem_map.1 (hasTeam_iff.1 ht.1)
    exact List.find?_eq_none.1 hnone t hm (beq_iff_eq.2 hid)
  · rename_i t₀ hfind
    have hm₀ : t₀ ∈ g.teams := List.mem_of_find?_eq_some hfind
    have hid₀ : t₀.id = id := by simpa using List.find?_some hfind
    rw [serve_of_ok happly]
    show ((updateFirst (·.id == id) r.revise g.teams).map (·.identifier)).Nodup ↔ _
    rw [updateFirst_eq_change h.teamIds fun t _ => beq_iff_eq]
    constructor
    · rintro hnew ⟨-, t, hm, hne, hi⟩
      -- the revised team and the one whose identifier it takes
      have hrevised : r.revise t₀ ∈ change (·.id = id) r.revise g.teams :=
        mem_change.2 ⟨t₀, hm₀, if_pos hid₀⟩
      have hkept : t ∈ change (·.id = id) r.revise g.teams := mem_change.2 ⟨t, hm, if_neg hne⟩
      have hsame : t = r.revise t₀ := eq_of_key_eq hnew hkept hrevised hi
      exact hne (hsame ▸ hid₀)
    · intro hfree
      have hother : ∀ t ∈ g.teams, t.id ≠ id → t.identifier ≠ r.identifier := fun t hm hne hi =>
        hfree ⟨hasTeam_iff.2 (List.mem_map.2 ⟨t₀, hm₀, hid₀⟩), t, hm, hne, hi⟩
      rw [change, List.map_map]
      refine (List.Nodup.of_map _ h.teamIds).map_on fun t ht u hu he => ?_
      simp only [Function.comp_apply] at he
      by_cases hit : t.id = id <;> by_cases hiu : u.id = id
      · exact eq_of_key_eq h.teamIds ht hu (hit.trans hiu.symm)
      · rw [if_pos hit, if_neg hiu] at he
        exact absurd he.symm (hother u hu hiu)
      · rw [if_neg hit, if_pos hiu] at he
        exact absurd he (hother t ht hit)
      · rw [if_neg hit, if_neg hiu] at he
        exact eq_of_key_eq hn ht hu he

/-- **A call keeps identifiers unique unless it takes the one of another team.** -/
theorem nodup_identifiers_serve_iff (h : g.WellFormed) (hn : (g.teams.map (·.identifier)).Nodup)
    (now : Instant) (c : Call) :
    ((g.serve now c).2.teams.map (·.identifier)).Nodup ↔ ¬ g.Takes c := by
  cases c with
  | createTeam r => exact iff_of_true (nodup_identifiers_createTeam hn r) id
  | updateTeam id r => exact nodup_identifiers_updateTeam h hn id r
  | _ =>
    rw [teams_serve (by rintro _ ⟨⟩) (by rintro _ _ ⟨⟩)]
    exact iff_of_true hn id

/-- Identifiers are unique where a listing by one holds one team at most. -/
theorem nodup_identifiers_iff :
    (g.teams.map (·.identifier)).Nodup ↔ ∀ i, (g.listTeams (some i) .all).length ≤ 1 := by
  rw [List.nodup_iff_count_le_one]
  refine forall_congr' fun i => ?_
  rw [listTeams, Pagination.apply_all, ← List.countP_eq_length_filter, List.count, List.countP_map]
  rfl

theorem length_apply_le {α : Type} (page : Pagination) (xs : List α) : (page.apply xs).length ≤ xs.length := by
  unfold Pagination.apply
  split
  · exact ((List.take_sublist _ _).trans (List.drop_sublist _ _)).length_le
  · exact Nat.le_refl _

/-- **Along calls identifiers stay unique exactly if none of them takes one.** -/
theorem nodup_identifiers_serveAll_iff (h : g.Intact) (hn : (g.teams.map (·.identifier)).Nodup)
    (calls : List (Instant × Call)) :
    (∀ n, ((serveAll (calls.take n) g).teams.map (·.identifier)).Nodup) ↔
      ∀ n (hc : n < calls.length), ¬ (serveAll (calls.take n) g).Takes calls[n].2 := by
  induction calls generalizing g with
  | nil =>
    refine iff_of_true (fun n => ?_) fun n hc => absurd hc (Nat.not_lt_zero n)
    rw [List.take_nil]
    exact hn
  | cons x calls ih =>
    have hstep := nodup_identifiers_serve_iff h.toWellFormed hn x.1 x.2
    constructor
    · intro hall n hc
      have hfirst := hall 1
      rw [List.take_succ_cons, List.take_zero] at hfirst
      cases n with
      | zero => exact hstep.1 hfirst
      | succ n => exact (ih (h.serve x.1 x.2) hfirst).1 (fun n => hall (n + 1)) n (Nat.lt_of_succ_lt_succ hc)
    · intro hnone n
      have hfirst := hstep.2 (hnone 0 (Nat.zero_lt_succ _))
      cases n with
      | zero => exact hn
      | succ n => exact (ih (h.serve x.1 x.2) hfirst).2 (fun n hc => hnone (n + 1) (Nat.succ_lt_succ hc)) n

/-! ## What is loaded for a team that is there twice -/

theorem single_of_two {α : Type} (kind : EntityKind) (key : String) {xs : List α} (h : 2 ≤ xs.length) :
    Load.single kind key xs = .fail (.duplicated kind key) := by
  match xs, h with
  | _ :: _ :: _, _ => rfl

/-- **An upsert for such a team stops behind its asset.** -/
theorem upsert_of_two (h : g.WellFormed) (accountKey : String) (p : Payload) (now : Instant)
    (htwo : 2 ≤ (g.listTeams (some p.team.id) .all).length) :
    (Load.upsert accountKey p now).Does now g [.asset p.assetKey]
      (.error (.duplicated .team p.team.id)) := by
  obtain ⟨a, ha, -⟩ := Load.upsertAsset_does h.assetIds h.keys p.assetKey now
  have hteams : (g.withAsset now p.assetKey).teams = g.teams := by
    unfold withAsset
    split <;> rfl
  refine ha.bind (.stop (.list (fun _ => rfl) ?_))
  show (Load.single _ _ (listTeams (g.withAsset now p.assetKey) _ _) >>= _).Does _ _ _ _
  rw [listTeams, hteams, ← listTeams, single_of_two _ _ htwo]
  exact .fail now _ _

/-- **A retirement for such a team does nothing**, if there is the asset. -/
theorem retire_of_two (h : g.WellFormed) (r : Retirement) (now t : Instant) {a : Asset}
    (ha : g.asset? r.asset = some a) (htwo : 2 ≤ (g.listTeams (some r.teamId) .all).length) :
    (Load.retire r now).run (Graph.server t) g = (.error (.duplicated .team r.teamId), g) := by
  have hdoes : (Load.withdraw r now).Does now g [] (.error (.duplicated .team r.teamId)) := by
    refine .list (apply_assets h.keys r.asset) ?_
    rw [ha, Option.toList_some]
    refine .found (.list (fun _ => rfl) ?_)
    rw [single_of_two _ _ htwo]
    exact .fail now g _
  rw [Load.retire, Plan.run_rescue, hdoes.run_server]
  rfl

end Calls

/-- **Identifiers of teams stay unique as long as no update takes one.**  Whatever an empty graph is
asked: at every moment no two teams have the same identifier, and a listing by an identifier holds one
team at most, exactly if none of the calls gives a team the identifier of another.  Where a listing holds
two, every upsert for the identifier ends with a duplicate, and so does every retirement of an asset that
is there. -/
theorem identifiers_stay_unique_iff (calls : List (Instant × Call)) :
    ((∀ n, let g := serveAll (calls.take n) empty
        (g.teams.map (·.identifier)).Nodup ∧ ∀ i page, (g.listTeams (some i) page).length ≤ 1) ↔
      ∀ n (hc : n < calls.length), ¬ (serveAll (calls.take n) empty).Takes calls[n].2) ∧
    ∀ i, let g := serveAll calls empty
      2 ≤ (g.listTeams (some i) .all).length →
        (∀ accountKey p now t, p.team.id = i →
          ((Load.upsert accountKey p now).run (Graph.server t) g).1 = .error (.duplicated .team i)) ∧
        ∀ (r : Retirement) now t, r.teamId = i → r.asset ∈ g.assets.map (·.key) →
          (Load.retire r now).run (Graph.server t) g = (.error (.duplicated .team i), g) := by
  refine ⟨?_, ?_⟩
  · rw [← nodup_identifiers_serveAll_iff intact_empty List.nodup_nil calls]
    refine forall_congr' fun n => ⟨And.left, fun hn => ⟨hn, fun i page => ?_⟩⟩
    exact (length_apply_le page _).trans (nodup_identifiers_iff.1 hn i)
  · intro i g htwo
    have h : g.WellFormed := (intact_empty.serveAll calls).toWellFormed
    refine ⟨?_, ?_⟩
    · rintro accountKey p now t rfl
      rw [(upsert_of_two h accountKey p now htwo).run_server]
    · rintro r now t rfl hasset
      obtain ⟨a, ha, hk⟩ := List.mem_map.1 hasset
      exact retire_of_two h r now t (h.asset?_eq_some_iff.2 ⟨ha, hk⟩) htwo

/-- Two teams, the second of which is renamed, and then gets the identifier of the first: until then the
identifiers are unique, and afterwards the first team's events end with a duplicate. -/
theorem identifiers_stay_unique_iff_of_two_updates :
    let now : Instant := { second := 0 }
    let calls : List (Instant × Call) :=
      [(now, .createTeam { identifier := "t", name := "T" }),
        (now, .createTeam { identifier := "u", name := "U" }),
        (now, .updateTeam "team-2" { identifier := "u", name := "V" })]
    let calls' := calls ++ [(now, .updateTeam "team-2" { identifier := "t", name := "V" })]
    let p : Payload := { team := { id := "t", name := "T" }, assetType := "Hostname", identifier := "h" }
    (∀ n (hc : n < calls.length), ¬ (serveAll (calls.take n) empty).Takes calls[n].2) ∧
    ((serveAll calls empty).teams.map (·.identifier)).Nodup ∧
    2 ≤ ((serveAll calls' empty).listTeams (some "t") .all).length ∧
    ((Load.upsert "account" p now).run (Graph.server now) (serveAll calls' empty)).1 =
      .error (.duplicated .team "t") := by
  intro now calls calls' p
  have hnone : ∀ n (hc : n < calls.length), ¬ (serveAll (calls.take n) empty).Takes calls[n].2 := by decide
  have htwo : 2 ≤ ((serveAll calls' empty).listTeams (some "t") .all).length := by decide
  exact ⟨hnone, (((identifiers_stay_unique_iff calls).1.2 hnone) 3).1, htwo,
    ((identifiers_stay_unique_iff calls').2 "t" htwo).1 "account" p now now rfl⟩

/-- **Two teams of one identifier.**  Of two teams the second is given the identifier of the first; every
call is answered, and a listing by the identifier holds both. -/
theorem update_shares_an_identifier :
    let now : Instant := { second := 0 }
    let create (i : String) : Instant × Call := (now, .createTeam { identifier := i, name := i })
    let g := serveAll [create "t1", create "t2"] empty
    let c : Call := .updateTeam "team-2" { identifier := "t1", name := "t2" }
    let g' := serveAll [create "t1", create "t2", (now, c)] empty
    (∃ a, (g.serve now c).1 = .ok a) ∧ g' = (g.serve now c).2 ∧
      ¬ (g'.teams.map (·.identifier)).Nodup ∧
      (g'.listTeams (some "t1") .all).map (·.id) = ["team-1", "team-2"] := by
  intro now create g c g'
  exact ⟨⟨{ id := "team-2", identifier := "t1", name := "t2" }, by decide⟩, rfl, by decide, by decide⟩

end Graph

end AssetGraph
