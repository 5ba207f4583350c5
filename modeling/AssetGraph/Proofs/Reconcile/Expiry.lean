import AssetGraph.Proofs.Reconcile.Live
/-!
# When an asset expires

Only a retirement takes the sentinel from an asset, a retirement of that asset while no other team owns it, and
every such retirement does (`Event.expires_iff`).  Whatever is no account is owned as long as it carries the
sentinel, so the team that gives it up is its last owner (`Graph.loadAll_expires_only_what_is_given_up`).  An
account may carry it without an owner, because hosts are in it; then any team that is known may retire it
(`Graph.load_expires_an_account_without_owner`).
-/
namespace AssetGraph

open Statement (amend)

variable {accountKey : String} {now : Instant} {g g' : Graph}

/-- **What takes the sentinel from an asset** is a retirement of it, by a team that is there, while no other
owns the asset. -/
theorem Event.expires_iff (h : g.Sound) (accountKey : String) (hn : now < Instant.unexpired) {e : Event}
    {k : AssetKey} (hlive : g.holds? (.asset k) = some true) :
    (e.effect accountKey now g).holds? (.asset k) ≠ some true ↔
      ∃ r, e = .retire r ∧ r.asset = k ∧ (g.teamName? r.teamId).isSome = true ∧
        ∀ i, i ≠ r.teamId → g.holds? (.owner k i) ≠ some true := by
  rw [holds?_effect h accountKey hn, hlive]
  cases e with
  | upsert p =>
    refine iff_of_false (fun hover => ?_) ?_
    · rw [word] at hover
      split at hover <;> exact hover rfl
    · rintro ⟨r, ⟨⟩, -⟩
  | retire r =>
    have hends : amend (word accountKey g (.retire r) (.asset k)) (some true) ≠ some true ↔
        r.ends g (.asset k) = true := by
      rw [word]
      split <;> simp [*, amend]
    rw [hends, Retirement.ends_iff h.toIsKeyed]
    constructor
    · rintro ⟨-, hteam, he | ⟨hothers, hat⟩⟩
      · cases he
      · obtain rfl := of_decide_eq_true hat
        exact ⟨r, rfl, rfl, hteam, hothers⟩
    · rintro ⟨r', hr, rfl, hteam, hothers⟩
      obtain rfl := Event.retire.inj hr
      have hthere : (g.times? (.asset r.asset)).isSome = true := by
        rw [Graph.holds?_eq] at hlive
        rw [← Option.isSome_map, hlive]
        rfl
      exact ⟨hthere, hteam, .inr ⟨hothers, decide_eq_true rfl⟩⟩

namespace Graph

theorem WellFormed.not_holds?_asset_iff (h : g.WellFormed) {k : AssetKey} : g.holds? (.asset k) ≠ some true ↔
    ∀ a ∈ g.assets, a.key = k → a.expiration ≠ Instant.unexpired := by
  constructor
  · rintro hover a ha rfl hlive
    exact hover (by rw [h.holds?_asset_of_mem ha, Asset.isUnexpired_iff.2 hlive])
  · intro hall hholds
    obtain ⟨a, ha, hx⟩ := Option.map_eq_some_iff.1 hholds
    obtain ⟨hm, hk⟩ := h.asset?_eq_some_iff.1 ha
    exact hall a hm hk (Asset.isUnexpired_iff.1 hx)

/-- No other team owns an asset exactly if none of its ownerships is without an end. -/
theorem IsKeyed.not_holds?_owner_iff (h : g.IsKeyed) {a : Asset} (ha : a ∈ g.assets) {t : Team}
    (ht : t ∈ g.teams) : (∀ i, i ≠ t.identifier → g.holds? (.owner a.key i) ≠ some true) ↔
      ∀ o ∈ g.owns, o.assetId = a.id → o.teamId ≠ t.id → o.endTime ≠ none := by
  have hself : g.teamId? t.identifier = some t.id := congrArg _ (h.team?_eq_some_iff.2 ⟨ht, rfl⟩)
  constructor
  · intro hothers o ho hoa hne hend
    obtain ⟨i, hi⟩ := h.exists_teamId? ho
    refine hothers i (fun he => hne ?_) ((holds?_owner_eq_some_iff h.toWellFormed).2
      ⟨o, ho, hoa ▸ h.assetId?_of_mem ha, hi, Owns.isActive_iff.2 hend⟩)
    rw [he, hself] at hi
    exact (Option.some.inj hi).symm
  · intro hall i hne howner
    obtain ⟨o, ho, hid, hi, hactive⟩ := (holds?_owner_eq_some_iff h.toWellFormed).1 howner
    rw [h.assetId?_of_mem ha, Option.some.injEq] at hid
    refine hall o ho hid.symm (fun he => hne ?_) (Owns.isActive_iff.1 hactive)
    rw [he] at hi
    exact (h.teamId?_eq_some_iff hself).1 hi

/-- **An asset expires only when its last owner gives it up, or when it is an account without one.**  Say
that all of a history has been loaded into an empty graph, and one event more, at times before the
sentinel.  An asset that carried the sentinel before that event does not behind it exactly if the event is a
retirement of the asset by a team that is known, and no other team owned the asset.  That team did, unless
the asset is an account that nobody owned. -/
theorem loadAll_expires_only_what_is_given_up (accountKey : String) {xs : List (Instant × Event)}
    (hg : loadAll accountKey xs empty = some g) (hn : ∀ x ∈ xs, x.1 < Instant.unexpired)
    (hnow : now < Instant.unexpired) {e : Event}
    (hload : (e.plan accountKey now).run (Graph.server now) g = (.ok (), g')) {a : Asset} (ha : a ∈ g.assets)
    (hlive : a.expiration = Instant.unexpired) :
    (∀ b ∈ g'.assets, b.key = a.key → b.expiration ≠ Instant.unexpired) ↔
      ∃ r, e = .retire r ∧ r.asset = a.key ∧ ∃ t ∈ g.teams, t.identifier = r.teamId ∧
        (∀ o ∈ g.owns, o.assetId = a.id → o.teamId ≠ t.id → o.endTime ≠ none) ∧
        ((∃ o ∈ g.owns, o.assetId = a.id ∧ o.teamId = t.id ∧ o.endTime = none) ∨
          (a.key.type = Account.assetType ∧ ∀ o ∈ g.owns, o.assetId = a.id → o.endTime ≠ none)) := by
  have h : Loaded accountKey (xs.map Prod.snd) g := Loaded.empty.loadAll hn hg
  have hs := h.sound
  rw [Event.run_plan hs] at hload
  obtain rfl := (Prod.mk.inj hload).2
  have hbefore : g.holds? (.asset a.key) = some true := by
    rw [hs.holds?_asset_of_mem ha, Asset.isUnexpired_iff.2 hlive]
  rw [← (Event.sound_effect hs accountKey now e).not_holds?_asset_iff,
    Event.expires_iff hs accountKey hnow hbefore]
  refine exists_congr fun r => and_congr_right fun _ => and_congr_right fun _ => ?_
  constructor
  · rintro ⟨hteam, hothers⟩
    obtain ⟨t, ht⟩ := Option.isSome_iff_exists.1 ((Option.isSome_map ..).symm.trans hteam)
    obtain ⟨hm, hi⟩ := hs.team?_eq_some_iff.1 ht
    have hothers' : ∀ o ∈ g.owns, o.assetId = a.id → o.teamId ≠ t.id → o.endTime ≠ none :=
      (hs.not_holds?_owner_iff ha hm).1 (hi ▸ hothers)
    refine ⟨t, hm, hi, hothers', ?_⟩
    by_cases hown : ∃ o ∈ g.owns, o.assetId = a.id ∧ o.teamId = t.id ∧ o.endTime = none
    · exact .inl hown
    · have hnobody : ∀ o ∈ g.owns, o.assetId = a.id → o.endTime ≠ none := by
        intro o ho hoa hend
        by_cases hot : o.teamId = t.id
        · exact hown ⟨o, ho, hoa, hot, hend⟩
        · exact hothers' o ho hoa hot hend
      refine .inr ⟨?_, hnobody⟩
      -- what is no account has an owner as long as it carries the sentinel
      by_contra htype
      obtain ⟨i, howner⟩ := (h.isKept a.key htype true hbefore).1 rfl
      obtain ⟨o, ho, hid, -, hactive⟩ := (holds?_owner_eq_some_iff hs.toWellFormed).1 howner
      rw [hs.assetId?_of_mem ha, Option.some.injEq] at hid
      exact hnobody o ho hid.symm (Owns.isActive_iff.1 hactive)
  · rintro ⟨t, hm, hi, hothers, -⟩
    have hteam : g.team? r.teamId = some t := hs.team?_eq_some_iff.2 ⟨hm, hi⟩
    exact ⟨by rw [teamName?, hteam]; rfl, hi ▸ (hs.not_holds?_owner_iff ha hm).2 hothers⟩

/-- A host with two owners, both of which give it up. -/
theorem loadAll_expires_only_what_is_given_up_of_two_owners :
    let k : AssetKey := { type := "Hostname", identifier := "h" }
    let p (i : String) : Event :=
      .upsert { team := { id := i, name := i }, assetType := k.type, identifier := k.identifier }
    let r (i : String) : Event := .retire { asset := k, teamId := i, assetId := "h" }
    let t (second : Int) : Instant := { second }
    let xs : List (Instant × Event) := [(t 1, p "t"), (t 2, p "u"), (t 3, r "t")]
    (∀ x ∈ xs, x.1 < Instant.unexpired) ∧ t 4 < Instant.unexpired ∧
      ∃ g g', loadAll "account" xs empty = some g ∧
        ((r "u").plan "account" (t 4)).run (Graph.server (t 4)) g = (.ok (), g') ∧
        ∃ a ∈ g.assets, a.expiration = Instant.unexpired ∧
          (∀ b ∈ g'.assets, b.key = a.key → b.expiration ≠ Instant.unexpired) ∧
          ∃ u ∈ g.teams, u.identifier = "u" ∧ ∃ o ∈ g.owns, o.assetId = a.id ∧ o.teamId = u.id ∧ o.endTime = none := by
  intro k p r t xs
  have hn : ∀ x ∈ xs, x.1 < Instant.unexpired := by decide
  have hnow : t 4 < Instant.unexpired := by decide
  obtain ⟨g, hg⟩ : ∃ g, loadAll "account" xs empty = some g :=
    Option.isSome_iff_exists.1 (by decide +kernel)
  have hget : g = (loadAll "account" xs empty).get (by decide +kernel) := by simp only [hg, Option.get_some]
  let ended := ((r "u").plan "account" (t 4)).run (Graph.server (t 4)) g
  have hload : ended = (.ok (), ended.2) := Prod.ext (by simp only [ended, hget]; decide +kernel) rfl
  obtain ⟨a, ha, hk, hlive⟩ : ∃ a ∈ g.assets, a.key = k ∧ a.expiration = Instant.unexpired := by
    rw [hget]
    decide +kernel
  have hover : ∀ b ∈ ended.2.assets, b.key = a.key → b.expiration ≠ Instant.unexpired := by
    rw [hk]
    simp only [ended, hget]
    decide +kernel
  obtain ⟨r', hr, -, u, hu, hi, -, howner⟩ :=
    (loadAll_expires_only_what_is_given_up "account" hg hn hnow hload ha hlive).1 hover
  obtain rfl := (Event.retire.inj hr).symm
  refine ⟨hn, hnow, g, ended.2, hg, hload, a, ha, hlive, hover, u, hu, hi, ?_⟩
  exact howner.resolve_right fun h => absurd (hk ▸ h.1) (by decide)

/-- **An account without an owner expires** by the retirement of a team that owns a host in it: that the
host has been loaded is all that the account has the sentinel from. -/
theorem load_expires_an_account_without_owner :
    let arn := "arn:aws:iam::123456789012:root"
    let host : Event :=
      .upsert { team := { id := "t", name := "Team" }, assetType := "Hostname", identifier := "h"
                annotations := [{ key := "account", value := arn }] }
    let r : Event := .retire { asset := Account.key arn, teamId := "t", assetId := arn }
    let xs : List (Instant × Event) := [({ second := 1 }, host)]
    let now : Instant := { second := 2 }
    ∃ g g', loadAll "account" xs empty = some g ∧
      (r.plan "account" now).run (Graph.server now) g = (.ok (), g') ∧
      ∃ a ∈ g.assets, a.key = Account.key arn ∧ a.expiration = Instant.unexpired ∧
        (∀ b ∈ g'.assets, b.key = a.key → b.expiration ≠ Instant.unexpired) ∧
        ∀ o ∈ g.owns, o.assetId ≠ a.id := by
  intro arn host r xs now
  obtain ⟨g, hg⟩ : ∃ g, loadAll "account" xs empty = some g :=
    Option.isSome_iff_exists.1 (by decide +kernel)
  have hget : g = (loadAll "account" xs empty).get (by decide +kernel) := by simp only [hg, Option.get_some]
  have hok : ((r.plan "account" now).run (Graph.server now) g).1 = .ok () := by
    rw [hget]
    decide +kernel
  refine ⟨g, _, hg, Prod.ext hok rfl, ?_⟩
  rw [hget]
  decide +kernel

end Graph

end AssetGraph
