import AssetGraph.Proofs.Reconcile.Way
/-!
# The effect of an event

What loading an event does to a graph, as a list of deeds (`Event.deeds`), and that the plan of the
event does them (`Event.plan_does`).  The deeds may be cut short anywhere: loading the event at any
state on its way comes to the same as loading it at once (`Event.effect_on_the_way`).
-/
namespace AssetGraph

/-- The key of the asset that stands for an account. -/
def Account.key (arn : String) : AssetKey := { type := Account.assetType, identifier := arn }

/-- The accounts that texts name, up to the first text that names none, and that text. -/
def Account.named : List String → List String × Option String
  | [] => ([], none)
  | value :: values =>
    match Account.normalize? value with
    | none => ([], some value)
    | some arn => (arn :: (named values).1, (named values).2)

theorem Account.named_eq (values : List String) : named values =
    ((values.takeWhile fun value => (normalize? value).isSome).filterMap normalize?,
      values.find? fun value => (normalize? value).isNone) := by
  induction values with
  | nil => rfl
  | cons value values ih =>
    rw [named, List.takeWhile_cons, List.find?_cons, ih]
    cases hv : normalize? value with
    | none => simp
    | some arn => simp [hv]

namespace Graph

/-- Whether a team but the given one owns an asset still. -/
def isOwnedByOthers (g : Graph) (assetId teamId : String) : Bool :=
  g.owns.any fun o => o.assetId == assetId && (o.teamId != teamId && o.isActive)

/-- The edges at an asset, those to its parents first. -/
def edgesAt (g : Graph) (assetId : String) : List ParentOf :=
  g.parents.filter (·.childId == assetId) ++ g.parents.filter (·.parentId == assetId)

theorem mem_edgesAt {g : Graph} {assetId : String} {e : ParentOf} :
    e ∈ g.edgesAt assetId ↔ e ∈ g.parents ∧ (e.childId = assetId ∨ e.parentId = assetId) := by
  rw [edgesAt, List.mem_append, List.mem_filter, List.mem_filter, beq_iff_eq, beq_iff_eq, and_or_left]

end Graph

/-- Makes an asset a child of the assets of accounts. -/
def Deed.containing (k : AssetKey) (arns : List String) : List Deed :=
  arns.flatMap fun arn => [.asset (Account.key arn), .parent k (Account.key arn)]

/-- **The deeds of an event.** -/
def Event.deeds (accountKey : String) (g : Graph) : Event → List Deed
  | .upsert p =>
    .asset p.assetKey :: .team p.team.id p.team.name :: .owner p.assetKey p.team.id ::
      Deed.containing p.assetKey (Account.named (p.valuesOf accountKey)).1
  | .retire r =>
    match g.asset? r.asset, g.team? r.teamId with
    | some a, some t =>
      .endOwner a.id t.id ::
        if g.isOwnedByOthers a.id t.id then []
        else .expireAsset a.id :: (g.edgesAt a.id).map fun e => .expireEdge e.childId e.parentId
    | _, _ => []

/-- **How loading an event ends**: only a text that names no account is in its way. -/
def Event.verdict (accountKey : String) : Event → Except IngestError Unit
  | .upsert p =>
    match (Account.named (p.valuesOf accountKey)).2 with
    | some value => .error (.invalidAccount value)
    | none => .ok ()
  | .retire _ => .ok ()

/-- **The graph that loading an event leaves.** -/
def Event.effect (accountKey : String) (now : Instant) (e : Event) (g : Graph) : Graph :=
  Deed.performAll now (e.deeds accountKey g) g

namespace Graph

variable {g : Graph}

theorem asset?_withTeam (g : Graph) (i n : String) (k : AssetKey) :
    (g.withTeam i n).asset? k = g.asset? k := by
  unfold withTeam
  split <;> rfl

/-! ## Listings -/

theorem listAssets_byKey (h : (g.assets.map (·.key)).Nodup) (k : AssetKey) :
    g.listAssets (.byKey k) .all = (g.asset? k).toList := by
  have hs : selectsAsset (.byKey k) = fun a => decide (a.key = k) := by
    funext a
    rw [Bool.eq_iff_iff]
    obtain ⟨_, ⟨type, identifier⟩, _, _, _⟩ := a
    obtain ⟨_, _⟩ := k
    simp [selectsAsset, AssetFilter.byKey]
  rw [listAssets, Pagination.apply_all, hs]
  exact filter_key_eq h k

theorem listTeams_identifier (h : (g.teams.map (·.identifier)).Nodup) (i : String) :
    g.listTeams (some i) .all = (g.team? i).toList := by
  have hs : selectsTeam (some i) = fun t => decide (t.identifier = i) := by
    funext t
    rw [Bool.eq_iff_iff]
    simp [selectsTeam]
  rw [listTeams, Pagination.apply_all, hs]
  exact filter_key_eq h i

theorem hasAsset_of_asset? {k : AssetKey} {a : Asset} (h : g.asset? k = some a) :
    g.hasAsset a.id = true :=
  hasAsset_iff.2 (Deed.assetId_mem h)

theorem hasTeam_of_team? {i : String} {t : Team} (h : g.team? i = some t) : g.hasTeam t.id = true :=
  hasTeam_iff.2 (Deed.teamId_mem h)

theorem apply_assets (h : (g.assets.map (·.key)).Nodup) (k : AssetKey) (t : Instant) :
    g.apply t (.assets (.byKey k) .all) = .ok ((g.asset? k).toList, g) := by
  rw [apply, listAssets_byKey h]

theorem apply_teams (h : (g.teams.map (·.identifier)).Nodup) (i : String) (t : Instant) :
    g.apply t (.teams (some i) .all) = .ok ((g.team? i).toList, g) := by
  rw [apply, listTeams_identifier h]

section Edges

variable {id : String} (h : g.hasAsset id = true) (t : Instant)
include h

theorem apply_owners : g.apply t (.owners id .all) = .ok (g.owns.filter (·.assetId == id), g) := by
  rw [apply, listOwners, h]
  rfl

theorem apply_parents : g.apply t (.parents id .all) = .ok (g.parents.filter (·.childId == id), g) := by
  rw [apply, listParents, h]
  rfl

theorem apply_children : g.apply t (.children id .all) = .ok (g.parents.filter (·.parentId == id), g) := by
  rw [apply, listChildren, h]
  rfl

end Edges

/-! ## Writes -/

theorem updateAsset_of_mem (hi : (g.assets.map (·.id)).Nodup) (hk : (g.assets.map (·.key)).Nodup)
    {a : Asset} (ha : a ∈ g.assets) (r : AssetRequest) : g.updateAsset a.id r =
      .ok (r.revise a, { g with assets := change (·.key = a.key) r.revise g.assets }) := by
  have hf : g.assets.find? (·.id == a.id) = some a := (find?_key_eq_some_iff hi).2 ⟨ha, rfl⟩
  rw [updateAsset, hf]
  have hfits : ∀ x ∈ g.assets, (x.id == a.id) = true ↔ x.key = a.key := fun x hx => by
    rw [beq_iff_eq, key_eq_iff_key_eq hi hk hx ha]
  simp only [updateFirst_eq_change hk hfits]

theorem updateTeam_of_mem (hi : (g.teams.map (·.id)).Nodup) (hk : (g.teams.map (·.identifier)).Nodup)
    {t : Team} (ht : t ∈ g.teams) (r : TeamRequest) : g.updateTeam t.id r =
      .ok (r.revise t, { g with teams := change (·.identifier = t.identifier) r.revise g.teams }) := by
  have hf : g.teams.find? (·.id == t.id) = some t := (find?_key_eq_some_iff hi).2 ⟨ht, rfl⟩
  rw [updateTeam, hf]
  have hfits : ∀ x ∈ g.teams, (x.id == t.id) = true ↔ x.identifier = t.identifier := fun x hx => by
    rw [beq_iff_eq, key_eq_iff_key_eq hi hk hx ht]
  simp only [updateFirst_eq_change hk hfits]

theorem createAsset_of_none {r : AssetRequest} (h : g.asset? r.key = none) (t : Instant) :
    g.createAsset t r =
      let seen := r.timestamp.getD t
      let a : Asset :=
        { id := idOf "asset" g.issued, key := r.key, firstSeen := seen, lastSeen := seen
          expiration := r.expiration }
      .ok (a, { g with assets := g.assets ++ [a], issued := g.issued + 1 }) := by
  have hany : ¬ (g.assets.any (·.key == r.key)) = true := by
    rw [List.any_eq_true]
    rintro ⟨a, ha, hk⟩
    exact find?_key_eq_none_iff.1 h (List.mem_map.2 ⟨a, ha, eq_of_beq hk⟩)
  rw [createAsset, if_neg hany]

theorem createTeam_of_none {r : TeamRequest} (h : g.team? r.identifier = none) :
    g.createTeam r =
      let t : Team := { id := idOf "team" g.issued, identifier := r.identifier, name := r.name }
      .ok (t, { g with teams := g.teams ++ [t], issued := g.issued + 1 }) := by
  have hany : ¬ (g.teams.any (·.identifier == r.identifier)) = true := by
    rw [List.any_eq_true]
    rintro ⟨t, ht, hk⟩
    exact find?_key_eq_none_iff.1 h (List.mem_map.2 ⟨t, ht, eq_of_beq hk⟩)
  rw [createTeam, if_neg hany]

theorem upsertOwner_of_some (h : (g.owns.map (·.pair)).Nodup) {assetId teamId : String} {o : Owns}
    (ha : g.hasAsset assetId = true) (ht : g.hasTeam teamId = true)
    (ho : g.owns? assetId teamId = some o) (r : OwnsRequest) :
    g.upsertOwner assetId teamId r =
      .ok (r.revise o, { g with owns := change (·.pair = (assetId, teamId)) r.revise g.owns }) := by
  have hf : g.owns.find? (joins assetId teamId) = some o := by
    rw [joins_eq]
    exact ho
  have hfits : ∀ x ∈ g.owns, joins assetId teamId x = true ↔ x.pair = (assetId, teamId) :=
    fun x _ => by rw [joins_eq, decide_eq_true_iff]
  simp only [upsertOwner, ha, ht, hf, updateFirst_eq_change h hfits]
  rfl

theorem upsertOwner_of_none {assetId teamId : String} (ha : g.hasAsset assetId = true)
    (ht : g.hasTeam teamId = true) (ho : g.owns? assetId teamId = none) (r : OwnsRequest) :
    g.upsertOwner assetId teamId r =
      let o : Owns :=
        { id := idOf "owns" g.issued, teamId, assetId, startTime := r.startTime, endTime := r.endTime }
      .ok (o, { g with owns := g.owns ++ [o], issued := g.issued + 1 }) := by
  have hf : g.owns.find? (joins assetId teamId) = none := by
    rw [joins_eq]
    exact ho
  simp only [upsertOwner, ha, ht, hf]
  rfl

theorem upsertParent_of_some (h : (g.parents.map (·.pair)).Nodup) (t : Instant) {childId parentId : String}
    {e : ParentOf} (hc : g.hasAsset childId = true) (hp : g.hasAsset parentId = true)
    (he : g.parentOf? childId parentId = some e) (r : ParentOfRequest) :
    g.upsertParent t childId parentId r = .ok (r.revise e,
      { g with parents := change (·.pair = (childId, parentId)) r.revise g.parents }) := by
  have hf : g.parents.find? (contains childId parentId) = some e := by
    rw [contains_eq]
    exact he
  have hfits : ∀ x ∈ g.parents, contains childId parentId x = true ↔ x.pair = (childId, parentId) :=
    fun x _ => by rw [contains_eq, decide_eq_true_iff]
  simp only [upsertParent, hc, hp, hf, updateFirst_eq_change h hfits]
  rfl

theorem upsertParent_of_none (t : Instant) {childId parentId : String} (hc : g.hasAsset childId = true)
    (hp : g.hasAsset parentId = true) (he : g.parentOf? childId parentId = none) (r : ParentOfRequest) :
    g.upsertParent t childId parentId r =
      let seen := r.timestamp.getD t
      let e : ParentOf :=
        { id := idOf "parent-of" g.issued, parentId, childId, firstSeen := seen, lastSeen := seen
          expiration := r.expiration }
      .ok (e, { g with parents := g.parents ++ [e], issued := g.issued + 1 }) := by
  have hf : g.parents.find? (contains childId parentId) = none := by
    rw [contains_eq]
    exact he
  simp only [upsertParent, hc, hp, hf]
  rfl

end Graph

namespace Load

open Plan (ask)
open AssetGraph.Graph (change)

variable {now : Instant} {g : Graph}

theorem single_toList {α : Type} (kind : EntityKind) (key : String) (o : Option α) :
    single kind key o.toList = .done o := by
  cases o <;> rfl

/-! ## Upserts -/

theorem upsertAsset_does (hi : (g.assets.map (·.id)).Nodup) (hkeys : (g.assets.map (·.key)).Nodup)
    (k : AssetKey) (now : Instant) :
    ∃ a, (upsertAsset k now).Does now g [.asset k] (.ok a) ∧ (g.withAsset now k).asset? k = some a := by
  have hlist := Graph.apply_assets hkeys k
  cases hk : g.asset? k with
  | some a =>
    obtain ⟨ha, rfl⟩ := (Graph.find?_key_eq_some_iff hkeys).1 hk
    refine ⟨a.seen now Instant.unexpired, .list hlist ?_, ?_⟩
    · rw [single_toList, hk]
      refine .found (.write (fun t => ?_) trivial)
      rw [Graph.apply, Graph.updateAsset_of_mem hi hkeys ha, Deed.perform, Graph.withAsset, hk]
      rfl
    · rw [Graph.withAsset, hk]
      show (change _ _ g.assets).find? _ = _
      rw [Graph.find?_change (f := Asset.seen now Instant.unexpired) fun _ => rfl]
      exact (congrArg _ hk).trans (congrArg some (if_pos rfl))
  | none =>
    refine ⟨{ id := Graph.idOf "asset" g.issued, key := k, firstSeen := now, lastSeen := now
              expiration := Instant.unexpired }, .list hlist ?_, ?_⟩
    · rw [single_toList, hk]
      refine .found (.write (fun t => ?_) trivial)
      rw [Graph.apply, Graph.createAsset_of_none hk, Deed.perform, Graph.withAsset, hk]
      rfl
    · rw [Graph.withAsset, hk]
      exact Graph.find?_concat hk rfl

theorem upsertTeam_does (h : g.Unambiguous) (p : PayloadTeam) (now : Instant) :
    ∃ t, (upsertTeam p).Does now g [.team p.id p.name] (.ok t) ∧
      (g.withTeam p.id p.name).team? p.id = some t := by
  have hlist := Graph.apply_teams h.identifiers p.id
  cases hk : g.team? p.id with
  | some t =>
    obtain ⟨ht, hi⟩ := h.team?_eq_some_iff.1 hk
    refine ⟨t.named p.name, .list hlist ?_, ?_⟩
    · rw [single_toList, hk]
      refine .found (.write (fun _ => ?_) trivial)
      have hrevise : ∀ x : Team, x.identifier = p.id →
          TeamRequest.revise { identifier := p.id, name := p.name } x = x.named p.name := by
        intro x hx
        rw [TeamRequest.revise, Team.named, hx]
      rw [Graph.apply, Graph.updateTeam_of_mem h.teamIds h.identifiers ht, Deed.perform, Graph.withTeam, hk,
        hrevise t hi, hi, Graph.change_congr fun x _ => hrevise x]
    · rw [Graph.withTeam, hk]
      show (change _ _ g.teams).find? _ = _
      rw [Graph.find?_change (f := Team.named p.name) fun _ => rfl]
      exact (congrArg _ hk).trans (congrArg some (if_pos hi))
  | none =>
    refine ⟨{ id := Graph.idOf "team" g.issued, identifier := p.id, name := p.name }, .list hlist ?_, ?_⟩
    · rw [single_toList, hk]
      refine .found (.write (fun _ => ?_) trivial)
      rw [Graph.apply, Graph.createTeam_of_none hk, Deed.perform, Graph.withTeam, hk]
    · rw [Graph.withTeam, hk]
      exact Graph.find?_concat hk rfl

theorem setOwner_does (h : (g.owns.map (·.pair)).Nodup) {k : AssetKey} {i : String} {a : Asset} {t : Team}
    (ha : g.asset? k = some a) (ht : g.team? i = some t) (now : Instant) :
    (setOwner a t now).Does now g [.owner k i] (.ok ()) := by
  have hasset := Graph.hasAsset_of_asset? ha
  have hteam := Graph.hasTeam_of_team? ht
  have hfind : (g.owns.filter (·.assetId == a.id)).find? (·.teamId == t.id) = g.owns? a.id t.id := by
    rw [List.find?_filter]
    refine congrArg (fun q => g.owns.find? q) (funext fun o => ?_)
    rw [Bool.eq_iff_iff]
    simp [Owns.pair]
  have hready : (Deed.owner k i).IsReady g := ⟨by rw [ha]; rfl, by rw [ht]; rfl⟩
  obtain ⟨left, hleft⟩ : ∃ left, ∀ s, g.apply s (.upsertOwner a.id t.id
      { startTime := startTime (g.owns.filter (·.assetId == a.id)) t.id now, endTime := none }) =
        .ok (left, (Deed.owner k i).perform now g) := by
    cases ho : g.owns? a.id t.id with
    | some o =>
      obtain ⟨hmem, hpair⟩ := (Graph.find?_key_eq_some_iff h).1 ho
      have hrevise : ∀ x ∈ g.owns, x.pair = (a.id, t.id) →
          OwnsRequest.revise { startTime := o.startTime, endTime := none } x = x.until none := by
        intro x hx hp
        rw [Graph.eq_of_key_eq h hx hmem (hp.trans hpair.symm)]
        rfl
      refine ⟨o.until none, fun s => ?_⟩
      rw [Graph.apply, Graph.upsertOwner_of_some h hasset hteam ho, startTime, hfind, ho]
      simp only [Deed.perform, ha, ht, Graph.withOwns, ho, Graph.change_congr hrevise]
      rfl
    | none =>
      refine ⟨{ id := Graph.idOf "owns" g.issued, teamId := t.id, assetId := a.id, startTime := now
                endTime := none }, fun s => ?_⟩
      rw [Graph.apply, Graph.upsertOwner_of_none hasset hteam ho]
      simp only [Deed.perform, ha, ht, Graph.withOwns, ho, startTime, hfind]
  exact .list (Graph.apply_owners hasset) (.answer (.write hleft hready) rfl)

theorem apply_upsertParent (h : (g.parents.map (·.pair)).Nodup) {c p : AssetKey} {a b : Asset}
    (ha : g.asset? c = some a) (hb : g.asset? p = some b) (now : Instant) :
    ∃ left, ∀ s, g.apply s (.upsertParent a.id b.id
      { timestamp := some now, expiration := Instant.unexpired }) =
        .ok (left, (Deed.parent c p).perform now g) := by
  have hchild := Graph.hasAsset_of_asset? ha
  have hparent := Graph.hasAsset_of_asset? hb
  cases he : g.parentOf? a.id b.id with
  | some e =>
    refine ⟨e.seen now Instant.unexpired, fun s => ?_⟩
    rw [Graph.apply, Graph.upsertParent_of_some h s hchild hparent he]
    simp only [Deed.perform, ha, hb, Graph.withParentOf, he]
    rfl
  | none =>
    refine ⟨{ id := Graph.idOf "parent-of" g.issued, parentId := b.id, childId := a.id, firstSeen := now
              lastSeen := now, expiration := Instant.unexpired }, fun s => ?_⟩
    rw [Graph.apply, Graph.upsertParent_of_none s hchild hparent he]
    simp only [Deed.perform, ha, hb, Graph.withParentOf, he]
    rfl

theorem setAccount_does (h : g.Growable) {k : AssetKey} {a a' : Asset} (ha : g.asset? k = some a')
    (hid : a'.id = a.id) (arn : String) (now : Instant) :
    (setAccount a arn now).Does now g [.asset (Account.key arn), .parent k (Account.key arn)]
      (.ok ()) := by
  obtain ⟨b, hdoes, hb⟩ := upsertAsset_does h.assetIds h.keys (Account.key arn) now
  have hs : (g.withAsset now (Account.key arn)).Growable := Deed.growable_perform h (.asset _)
  obtain ⟨c, hc, hcid⟩ := (Deed.extends_perform (.asset (Account.key arn)) now g).asset? ha
  obtain ⟨left, hleft⟩ := apply_upsertParent hs.edges hc hb now
  rw [hcid, hid] at hleft
  have hready : (Deed.parent k (Account.key arn)).IsReady (g.withAsset now (Account.key arn)) :=
    ⟨Option.isSome_iff_exists.2 ⟨c, hc⟩, Option.isSome_iff_exists.2 ⟨b, hb⟩⟩
  exact hdoes.bind (.answer (.write hleft hready) rfl)

/-- The accounts' part of an upsert, up to a text that names none. -/
theorem setAccounts_does (h : g.Growable) {k : AssetKey} {a a' : Asset} (ha : g.asset? k = some a')
    (hid : a'.id = a.id) (now : Instant) (values : List String) :
    (setAccounts a now values).Does now g (Deed.containing k (Account.named values).1)
      (match (Account.named values).2 with
        | some value => .error (.invalidAccount value)
        | none => .ok ()) := by
  induction values generalizing g a' with
  | nil => exact .done now g ()
  | cons value values ih =>
    rw [setAccounts_cons, Account.named]
    cases Account.normalize? value with
    | none => exact .fail now g _
    | some arn =>
      have hone := setAccount_does h ha hid arn now
      obtain ⟨b, hb, hbid⟩ := (Deed.extends_performAll _ now g).asset? ha
      exact hone.bind (ih (Deed.growable_performAll h _) hb (hbid.trans hid))

/-- **The deeds of an upsert.** -/
theorem upsert_does (h : g.Growable) (accountKey : String) (p : Payload) (now : Instant) :
    (upsert accountKey p now).Does now g ((Event.upsert p).deeds accountKey g)
      ((Event.upsert p).verdict accountKey) := by
  obtain ⟨a, hasset, ha⟩ := upsertAsset_does h.assetIds h.keys p.assetKey now
  have h₁ : (g.withAsset now p.assetKey).Growable := Deed.growable_perform h (.asset _)
  obtain ⟨t, hteam, ht⟩ := upsertTeam_does h₁.toUnambiguous p.team now
  have h₂ : ((g.withAsset now p.assetKey).withTeam p.team.id p.team.name).Growable :=
    Deed.stable_withTeam Graph.isStable_growable h₁ _ _
  have ha' : ((g.withAsset now p.assetKey).withTeam p.team.id p.team.name).asset? p.assetKey = some a := by
    rw [Graph.asset?_withTeam]
    exact ha
  have howner := setOwner_does h₂.pairs ha' ht now
  obtain ⟨b, hb, hbid⟩ := (Deed.extends_perform (.owner p.assetKey p.team.id) now _).asset? ha'
  have h₃ : ((Deed.owner p.assetKey p.team.id).perform now
      ((g.withAsset now p.assetKey).withTeam p.team.id p.team.name)).Growable := Deed.growable_perform h₂ _
  have haccounts := setAccounts_does h₃ hb hbid now (p.valuesOf accountKey)
  exact hasset.bind (hteam.bind (howner.bind haccounts))

/-! ## Retirements -/

/-- Only what the team owns still is ended. -/
theorem endOwnership_eq (a : Asset) (t : Team) (now : Instant) (owners : List Owns) :
    endOwnership a t now owners =
      endOwnership a t now (owners.filter fun o => o.teamId == t.id && o.isActive) := by
  induction owners with
  | nil => rfl
  | cons o owners ih =>
    by_cases ho : (o.teamId == t.id && o.isActive) = true
    · rw [List.filter_cons, if_pos ho, endOwnership, endOwnership, if_pos ho, if_pos ho, ih]
    · rw [List.filter_cons, if_neg ho, endOwnership, if_neg ho, ih]

theorem endOwnership_does (h : (g.owns.map (·.pair)).Nodup) {a : Asset} {t : Team}
    (ha : g.hasAsset a.id = true) (ht : g.hasTeam t.id = true) (now : Instant) :
    (endOwnership a t now (g.owns.filter (·.assetId == a.id))).Does now g [.endOwner a.id t.id]
      (.ok ()) := by
  have hfilter : (g.owns.filter (·.assetId == a.id)).filter (fun o => o.teamId == t.id && o.isActive) =
      (g.owns? a.id t.id).toList.filter (·.isActive) := by
    rw [Graph.owns?, ← Graph.filter_key_eq h, List.filter_filter, List.filter_filter]
    refine List.filter_congr fun o _ => ?_
    rw [Bool.eq_iff_iff]
    simp [Owns.pair]
    tauto
  rw [endOwnership_eq, hfilter]
  -- nothing to end, or the one active ownership of the pair
  have hskip : (∀ o ∈ g.owns, o.pair = (a.id, t.id) → o.endTime ≠ none) →
      (Plan.done () : Plan Unit).Does now g [.endOwner a.id t.id] (.ok ()) := by
    intro hnone
    exact (Plan.Does.done now g ()).skip (Deed.IsDone.perform_eq hnone) trivial
  cases ho : g.owns? a.id t.id with
  | none =>
    refine hskip fun o hm hp => ?_
    exact absurd (List.mem_map.2 ⟨o, hm, hp⟩) (Graph.find?_key_eq_none_iff.1 ho)
  | some o =>
    obtain ⟨hmem, hpair⟩ := (Graph.find?_key_eq_some_iff h).1 ho
    have hone : ∀ x ∈ g.owns, x.pair = (a.id, t.id) → x = o := fun x hx hp =>
      Graph.eq_of_key_eq h hx hmem (hp.trans hpair.symm)
    cases hactive : o.isActive with
    | false =>
      rw [Option.toList_some, List.filter_cons, if_neg (by rw [hactive]; exact Bool.false_ne_true)]
      refine hskip fun x hm hp hend => ?_
      rw [hone x hm hp] at hend
      rw [Owns.isActive_iff.2 hend] at hactive
      cases hactive
    | true =>
      have hrevise : change (·.pair = (a.id, t.id))
          (OwnsRequest.revise { startTime := o.startTime, endTime := some now }) g.owns =
          change (fun o => o.pair = (a.id, t.id) ∧ o.endTime = none) (Owns.until (some now)) g.owns := by
        refine List.map_congr_left fun x hx => ?_
        by_cases hp : x.pair = (a.id, t.id)
        · rw [hone x hx hp, if_pos hpair, if_pos ⟨hpair, Owns.isActive_iff.1 hactive⟩]
          rfl
        · rw [if_neg hp, if_neg fun hx => hp hx.1]
      have hcall : ∀ s, g.apply s (.upsertOwner a.id t.id { startTime := o.startTime, endTime := some now }) =
          .ok (o.until (some now), (Deed.endOwner a.id t.id).perform now g) := by
        intro s
        rw [Graph.apply, Graph.upsertOwner_of_some h ha ht ho, hrevise]
        rfl
      rw [Option.toList_some, List.filter_cons, if_pos hactive, List.filter_nil, endOwnership, if_pos]
      · exact .answer (.write hcall trivial) rfl
      · rw [hactive, Bool.and_true, beq_iff_eq]
        exact (Prod.mk.inj hpair).2

/-- **The end of edges**, as they were listed.  Each is in the graph as listed, or has been expired
since. -/
theorem expireEdges_does (h : g.Unambiguous) (now : Instant) (es : List ParentOf)
    (hes : ∀ e ∈ es, e.pair ∈ g.parents.map (·.pair))
    (hg : ∀ x ∈ g.parents, ∀ e ∈ es, x.pair = e.pair →
      x = e ∨ (now < e.expiration ∧ x.lastSeen = now ∧ x.expiration = now)) :
    (expireEdges now (es.filter (·.isLiveAt now))).Does now g
      (es.map fun e => .expireEdge e.childId e.parentId) (.ok (es.filter (·.isLiveAt now)).length) := by
  induction es generalizing g with
  | nil => exact .done now g 0
  | cons e es ih =>
    have hrest : ∀ x ∈ es, x ∈ e :: es := fun x hx => List.mem_cons_of_mem e hx
    have hself := fun x hx => hg x hx e List.mem_cons_self
    cases hlive : e.isLiveAt now with
    | false =>
      rw [List.filter_cons, if_neg (by rw [hlive]; exact Bool.false_ne_true), List.map_cons]
      refine (ih h (fun x hx => hes x (hrest x hx)) fun x hx y hy => hg x hx y (hrest y hy)).skip ?_ trivial
      refine Deed.IsDone.perform_eq fun x hx hp hlt => ?_
      rcases hself x hx hp with rfl | ⟨hlt', -⟩
      · rw [ParentOf.isLiveAt_iff.2 hlt] at hlive
        cases hlive
      · rw [ParentOf.isLiveAt_iff.2 hlt'] at hlive
        cases hlive
    | true =>
      rw [List.filter_cons, if_pos hlive, List.map_cons, List.length_cons, expireEdges]
      have hshape : g.SameShape ((Deed.expireEdge e.childId e.parentId).perform now g) :=
        g.sameShape_parents _ fun _ => rfl
      have hchange : change (·.pair = (e.childId, e.parentId))
          (ParentOfRequest.revise { timestamp := some now, expiration := now }) g.parents =
          change (fun x => x.pair = (e.childId, e.parentId) ∧ now < x.expiration)
            (ParentOf.seen now now) g.parents := by
        refine List.map_congr_left fun x hx => ?_
        by_cases hp : x.pair = (e.childId, e.parentId)
        · by_cases hlt : now < x.expiration
          · rw [if_pos hp, if_pos ⟨hp, hlt⟩]
            rfl
          · rw [if_pos hp, if_neg fun h => hlt h.2]
            rcases hself x hx hp with rfl | ⟨-, hl, he⟩
            · exact absurd (ParentOf.isLiveAt_iff.1 hlive) hlt
            · exact ParentOf.seen_eq_self hl he
        · rw [if_neg hp, if_neg fun h => hp h.1]
      obtain ⟨x, hx, hxp⟩ := List.mem_map.1 (hes e List.mem_cons_self)
      have hends := h.contained x hx
      obtain ⟨hxc, hxp'⟩ := Prod.mk.inj hxp
      rw [hxc, hxp'] at hends
      have hcall : ∀ s, g.apply s (.upsertParent e.childId e.parentId
          { timestamp := some now, expiration := now }) =
            .ok (x.seen now now, (Deed.expireEdge e.childId e.parentId).perform now g) := by
        intro s
        rw [Graph.apply, Graph.upsertParent_of_some h.edges s (Graph.hasAsset_iff.2 hends.1)
          (Graph.hasAsset_iff.2 hends.2) ((Graph.find?_key_eq_some_iff h.edges).2 ⟨hx, hxp⟩), hchange]
        rfl
      have hmap := Graph.map_comp_eq Prod.snd hshape.parents
      have hind := ih (h.of_sameShape hshape) (fun y hy => hmap ▸ hes y (hrest y hy)) (by
        intro y hy z hz hp
        obtain ⟨w, hw, rfl⟩ := Graph.mem_change.1 hy
        by_cases hc : w.pair = (e.childId, e.parentId) ∧ now < w.expiration
        · rw [if_pos hc] at hp ⊢
          rcases hg w hw z (hrest z hz) hp with rfl | ⟨hlt, -⟩
          · exact .inr ⟨hc.2, rfl, rfl⟩
          · exact .inr ⟨hlt, rfl, rfl⟩
        · rw [if_neg hc] at hp ⊢
          exact hg w hw z (hrest z hz) hp)
      have hone : (ask (.upsertParent e.childId e.parentId
          { timestamp := some now, expiration := now })).Does now g
            [.expireEdge e.childId e.parentId] (.ok (x.seen now now)) := .write hcall trivial
      exact hone.bind (hind.answer rfl)

theorem expireContainment_does (h : g.Unambiguous) {id : String} (ha : g.hasAsset id = true)
    (now : Instant) :
    (expireContainment id now).Does now g ((g.edgesAt id).map fun e => .expireEdge e.childId e.parentId)
      (.ok ((g.edgesAt id).filter (·.isLiveAt now)).length) := by
  have hmem : ∀ e ∈ g.edgesAt id, e ∈ g.parents := fun _ he => (Graph.mem_edgesAt.1 he).1
  refine .list (Graph.apply_parents ha) (.list (Graph.apply_children ha) ?_)
  exact expireEdges_does h now _ (fun e he => List.mem_map_of_mem (hmem e he))
    fun x hx e he hp => .inl (Graph.eq_of_key_eq h.edges hx (hmem e he) hp)

theorem expireAsset_does (h : g.Unambiguous) {a : Asset} (ha : a ∈ g.assets) (now : Instant) :
    (expireAsset a now).Does now g
      (.expireAsset a.id :: (g.edgesAt a.id).map fun e => .expireEdge e.childId e.parentId) (.ok ()) := by
  have hid : g.hasAsset a.id = true := Graph.hasAsset_iff.2 (List.mem_map_of_mem ha)
  have hone : ∀ x ∈ g.assets, x.id = a.id → x = a := fun x hx he =>
    Graph.eq_of_key_eq h.assetIds hx ha he
  rw [expireAsset]
  by_cases hlive : a.isLiveAt now = true
  · have hshape : g.SameShape ((Deed.expireAsset a.id).perform now g) :=
      g.sameShape_assets _ fun _ => rfl
    have hchange : change (·.key = a.key)
        (AssetRequest.revise { key := a.key, timestamp := some now, expiration := now }) g.assets =
        change (fun x => x.id = a.id ∧ now < x.expiration) (Asset.seen now now) g.assets := by
      refine List.map_congr_left fun x hx => ?_
      by_cases hx' : x.id = a.id
      · rw [hone x hx hx', if_pos rfl, if_pos ⟨rfl, Asset.isLiveAt_iff.1 hlive⟩]
        rfl
      · rw [if_neg fun hk => hx' ((Graph.key_eq_iff_key_eq h.assetIds h.keys hx ha).2 hk),
          if_neg fun hk => hx' hk.1]
    have hcall : ∀ s, g.apply s (.updateAsset a.id
        { key := a.key, timestamp := some now, expiration := now }) =
          .ok (a.seen now now, (Deed.expireAsset a.id).perform now g) := by
      intro s
      rw [Graph.apply, Graph.updateAsset_of_mem h.assetIds h.keys ha, hchange]
      rfl
    have hwrite : (ask (.updateAsset a.id { key := a.key, timestamp := some now, expiration := now })).Does
        now g [.expireAsset a.id] (.ok (a.seen now now)) := .write hcall trivial
    have hid' : ((Deed.expireAsset a.id).perform now g).hasAsset a.id = true := by
      rw [Graph.hasAsset_iff, hshape.assetIds]
      exact Graph.hasAsset_iff.1 hid
    rw [if_pos hlive]
    exact hwrite.bind ((expireContainment_does (h.of_sameShape hshape) hid' now).answer rfl)
  · have hdone : (Deed.expireAsset a.id).IsDone now g := by
      intro x hx he hlt
      rw [hone x hx he] at hlt
      exact hlive (Asset.isLiveAt_iff.2 hlt)
    have hrest : (expireContainment a.id now >>= fun _ => pure ()).Does now g
        ((g.edgesAt a.id).map fun e => .expireEdge e.childId e.parentId) (.ok ()) :=
      .answer (expireContainment_does h hid now) rfl
    rw [if_neg hlive]
    exact hrest.skip hdone.perform_eq trivial

theorem isOwnedByOthers_filter (g : Graph) (assetId : String) (t : Team) :
    isOwnedByOthers t (g.owns.filter (·.assetId == assetId)) = g.isOwnedByOthers assetId t.id := by
  rw [isOwnedByOthers, Graph.isOwnedByOthers, List.any_filter]

/-- **The deeds of a retirement**, which needs no excuse before a graph whose keys are unique. -/
theorem withdraw_does_of_unambiguous (h : g.Unambiguous) (accountKey : String) (r : Retirement)
    (now : Instant) : (withdraw r now).Does now g ((Event.retire r).deeds accountKey g) (.ok ()) := by
  refine .list (Graph.apply_assets h.keys r.asset) ?_
  rw [single_toList, Event.deeds]
  cases ha : g.asset? r.asset with
  | none => exact .done now g ()
  | some a =>
    refine .found (.list (Graph.apply_teams h.identifiers r.teamId) ?_)
    rw [single_toList]
    cases ht : g.team? r.teamId with
    | none => exact .done now g ()
    | some t =>
      have hid := Graph.hasAsset_of_asset? ha
      have hend := endOwnership_does h.pairs hid (Graph.hasTeam_of_team? ht) now
      refine .found (.list (Graph.apply_owners hid) (hend.bind ?_))
      rw [isOwnedByOthers_filter]
      cases g.isOwnedByOthers a.id t.id with
      | true => exact .done _ _ ()
      | false =>
        have hshape : g.SameShape ((Deed.endOwner a.id t.id).perform now g) :=
          g.sameShape_owns _ fun _ => rfl
        exact expireAsset_does (h.of_sameShape hshape) (List.mem_of_find?_eq_some ha) now

theorem withdraw_does (h : g.IsKeyed) (accountKey : String) (r : Retirement) (now : Instant) :
    (withdraw r now).Does now g ((Event.retire r).deeds accountKey g) (.ok ()) :=
  withdraw_does_of_unambiguous h.unambiguous accountKey r now

theorem retire_does (h : g.Unambiguous) (accountKey : String) (r : Retirement) (now : Instant) :
    (retire r now).Does now g ((Event.retire r).deeds accountKey g) (.ok ()) :=
  (withdraw_does_of_unambiguous h accountKey r now).rescue _

end Load

/-! ## Events -/

namespace Event

variable {now : Instant} {g : Graph} {accountKey : String}

/-- **The plan of an event does its deeds.** -/
theorem plan_does (h : g.Sound) (accountKey : String) (now : Instant) (e : Event) :
    (e.plan accountKey now).Does now g (e.deeds accountKey g) (e.verdict accountKey) := by
  cases e with
  | upsert p => exact Load.upsert_does h.growable accountKey p now
  | retire r => exact Load.retire_does h.unambiguous accountKey r now

theorem mem_deeds_retire {r : Retirement} {d : Deed} (hd : d ∈ (retire r).deeds accountKey g) :
    ∃ a t, g.asset? r.asset = some a ∧ g.team? r.teamId = some t ∧
      (d = .endOwner a.id t.id ∨ (∃ id, d = .expireAsset id) ∨ ∃ c p, d = .expireEdge c p) := by
  rw [deeds] at hd
  split at hd
  · rename_i a t ha ht
    refine ⟨a, t, ha, ht, ?_⟩
    split at hd
    · exact .inl (List.mem_singleton.1 hd)
    · simp only [List.mem_cons, List.mem_map] at hd
      rcases hd with rfl | rfl | ⟨e, -, rfl⟩
      · exact .inl rfl
      · exact .inr (.inl ⟨_, rfl⟩)
      · exact .inr (.inr ⟨_, _, rfl⟩)
  · exact absurd hd List.not_mem_nil

/-- **What a retirement that is cut short has done**: nothing, or the end of the team's ownership, and
more only where nobody else owns the asset. -/
theorem prefix_deeds_retire {r : Retirement} {pre : List Deed} (hp : pre <+: (retire r).deeds accountKey g) :
    pre = [] ∨ ∃ a t post, g.asset? r.asset = some a ∧ g.team? r.teamId = some t ∧
      pre = .endOwner a.id t.id :: post ∧ (post = [] ∨ (g.isOwnedByOthers a.id t.id = false ∧
        ∀ d ∈ post, d = .expireAsset a.id ∨ ∃ c p, d = .expireEdge c p)) := by
  rw [deeds] at hp
  split at hp
  · rename_i a t ha ht
    rcases List.prefix_cons_iff.1 hp with rfl | ⟨post, rfl, hpost⟩
    · exact .inl rfl
    · refine .inr ⟨a, t, post, ha, ht, rfl, ?_⟩
      cases hothers : g.isOwnedByOthers a.id t.id with
      | true =>
        rw [hothers, if_pos rfl] at hpost
        exact .inl (List.prefix_nil.1 hpost)
      | false =>
        rw [hothers, if_neg Bool.false_ne_true] at hpost
        refine .inr ⟨rfl, fun d hd => ?_⟩
        rcases List.mem_cons.1 (hpost.subset hd) with rfl | hd
        · exact .inl rfl
        · obtain ⟨e, -, rfl⟩ := List.mem_map.1 hd
          exact .inr ⟨_, _, rfl⟩
  · exact .inl (List.prefix_nil.1 hp)

theorem agree_deeds (accountKey : String) (g : Graph) (e : Event) : Deed.Agree (e.deeds accountKey g) := by
  cases e with
  | upsert p =>
    have hraise : ∀ d ∈ (upsert p).deeds accountKey g,
        d.fells = false ∧ ∀ i n, d = .team i n → n = p.team.name := by
      intro d hd
      simp only [deeds, Deed.containing, List.mem_cons, List.mem_flatMap, List.not_mem_nil, or_false] at hd
      rcases hd with rfl | rfl | rfl | ⟨arn, -, rfl | rfl⟩
      · exact ⟨rfl, by rintro _ _ ⟨⟩⟩
      · exact ⟨rfl, fun i n he => by cases he; rfl⟩
      · exact ⟨rfl, by rintro _ _ ⟨⟩⟩
      · exact ⟨rfl, by rintro _ _ ⟨⟩⟩
      · exact ⟨rfl, by rintro _ _ ⟨⟩⟩
    intro d hd d' hd'
    obtain ⟨hf, ht⟩ := hraise d hd
    obtain ⟨hf', ht'⟩ := hraise d' hd'
    exact ⟨hf.trans hf'.symm, fun i n n' he he' => (ht i n he).trans (ht' i n' he').symm⟩
  | retire r =>
    have hfell : ∀ d ∈ (retire r).deeds accountKey g, d.fells = true := by
      intro d hd
      obtain ⟨a, t, -, -, rfl | ⟨id, rfl⟩ | ⟨c, p, rfl⟩⟩ := mem_deeds_retire hd <;> rfl
    intro d hd d' hd'
    refine ⟨(hfell d hd).trans (hfell d' hd').symm, fun i n n' he _ => ?_⟩
    have hf := hfell d hd
    rw [he] at hf
    cases hf

/-- What a retirement by a team goes by is not changed by its deeds: who else owns the asset, and
between what the edges at it are. -/
theorem retire_goes_by {assetId teamId : String} {ds : List Deed}
    (hds : ∀ d ∈ ds, d = .endOwner assetId teamId ∨ (∃ id, d = .expireAsset id) ∨
      ∃ c p, d = .expireEdge c p) (now : Instant) (g : Graph) :
    (Deed.performAll now ds g).isOwnedByOthers assetId teamId = g.isOwnedByOthers assetId teamId ∧
      ((Deed.performAll now ds g).edgesAt assetId).map (·.pair) = (g.edgesAt assetId).map (·.pair) := by
  induction ds generalizing g with
  | nil => exact ⟨rfl, rfl⟩
  | cons d ds ih =>
    obtain ⟨howned, hedges⟩ := ih (fun x hx => hds x (List.mem_cons_of_mem d hx)) (d.perform now g)
    rw [Deed.performAll_cons, howned, hedges]
    rcases hds d List.mem_cons_self with rfl | ⟨id, rfl⟩ | ⟨c, p, rfl⟩
    · refine ⟨Graph.any_change (fun o ho => ?_) g.owns, rfl⟩
      have ht : o.teamId = teamId := (Prod.mk.inj ho.1).2
      simp [Owns.until, ht]
    · exact ⟨rfl, rfl⟩
    · refine ⟨rfl, ?_⟩
      have hside : ∀ q : ParentOf → Bool, (∀ e, q (e.seen now now) = q e) →
          (((Deed.expireEdge c p).perform now g).parents.filter q).map (·.pair) =
            (g.parents.filter q).map (·.pair) := by
        intro q hq
        rw [Deed.perform, Graph.filter_change hq, Graph.map_change (f := ParentOf.seen now now) fun _ => rfl]
      rw [Graph.edgesAt, Graph.edgesAt, List.map_append, List.map_append, hside _ fun _ => rfl,
        hside _ fun _ => rfl]

/-- **An event has the same deeds left at every state on its way.** -/
theorem deeds_on_the_way {pre : List Deed} {e : Event} (hp : pre <+: e.deeds accountKey g) :
    e.deeds accountKey (Deed.performAll now pre g) = e.deeds accountKey g := by
  cases e with
  | upsert p => rfl
  | retire r =>
    cases ha : g.asset? r.asset with
    | none =>
      rw [deeds, ha] at hp
      rw [List.prefix_nil.1 hp, Deed.performAll_nil]
    | some a =>
      cases ht : g.team? r.teamId with
      | none =>
        rw [deeds, ha, ht] at hp
        rw [List.prefix_nil.1 hp, Deed.performAll_nil]
      | some t =>
        obtain ⟨a', ha', hid⟩ := (Deed.extends_performAll pre now g).asset? ha
        obtain ⟨t', ht', hid'⟩ := (Deed.extends_performAll pre now g).team? ht
        have hpre : ∀ d ∈ pre, d = .endOwner a.id t.id ∨ (∃ id, d = .expireAsset id) ∨
            ∃ c p, d = .expireEdge c p := by
          intro d hd
          obtain ⟨b, s, hb, hs, hcases⟩ := mem_deeds_retire (hp.subset hd)
          rw [ha] at hb
          rw [ht] at hs
          cases hb
          cases hs
          exact hcases
        obtain ⟨howned, hedges⟩ := retire_goes_by hpre now g
        have hmap : ∀ es : List ParentOf, (es.map fun e => Deed.expireEdge e.childId e.parentId) =
            (es.map (·.pair)).map fun p => Deed.expireEdge p.1 p.2 := by
          intro es
          rw [List.map_map]
          rfl
        simp only [deeds, ha, ht, ha', ht', hid, hid', howned, hmap, hedges]

theorem run_plan (h : g.Sound) (accountKey : String) (now t : Instant) (e : Event) :
    (e.plan accountKey now).run (Graph.server t) g =
      (e.verdict accountKey, e.effect accountKey now g) :=
  (plan_does h accountKey now e).run_server t

/-- So does every server that keeps the graph. -/
theorem run_plan_of_answers {τ : Type} {serve : Server τ} {view : τ → Graph} (ha : serve.Answers view)
    {s : τ} (h : (view s).Sound) (accountKey : String) (now : Instant) (e : Event) :
    ((e.plan accountKey now).run serve s).1 = e.verdict accountKey ∧
      view ((e.plan accountKey now).run serve s).2 = e.effect accountKey now (view s) :=
  (plan_does h accountKey now e).run ha s rfl

theorem sound_effect (h : g.Sound) (accountKey : String) (now : Instant) (e : Event) :
    (e.effect accountKey now g).Sound :=
  Deed.sound_performAll h _

/-- On the way of an event the first of its deeds are done. -/
theorem deeds_of_mem_trail (h : g.Sound) {t : Instant} {e : Event} {x : Graph}
    (hx : x ∈ g :: (e.plan accountKey now).trail (Graph.server t) g) :
    ∃ pre, pre <+: e.deeds accountKey g ∧ x = Deed.performAll now pre g := by
  rcases List.mem_cons.1 hx with rfl | hx
  · exact ⟨[], List.nil_prefix, rfl⟩
  · exact (plan_does h accountKey now e).trail t x hx

theorem areReady_of_prefix (h : g.Sound) (now : Instant) {e : Event} {pre : List Deed}
    (hp : pre <+: e.deeds accountKey g) : Deed.AreReady now pre g := by
  obtain ⟨post, hpost⟩ := hp
  have hall := (plan_does h accountKey now e).ready
  rw [← hpost] at hall
  exact (Deed.areReady_append.1 hall).1

/-- **An event may be cut short anywhere**: at every state on its way, and at its end, its effect is
the one that it has at once. -/
theorem effect_on_the_way (h : g.Sound) (accountKey : String) (now t : Instant) (e : Event) {x : Graph}
    (hx : x ∈ g :: (e.plan accountKey now).trail (Graph.server t) g) :
    x.Sound ∧ e.effect accountKey now x = e.effect accountKey now g := by
  obtain ⟨pre, hpre, rfl⟩ := deeds_of_mem_trail h hx
  refine ⟨Deed.sound_performAll h pre, ?_⟩
  rw [effect, deeds_on_the_way hpre]
  exact Deed.performAll_absorb hpre (plan_does h accountKey now e).ready (agree_deeds accountKey g e)

/-- Doing an event again at the same time changes nothing. -/
theorem effect_effect (h : g.Sound) (accountKey : String) (now : Instant) (e : Event) :
    e.effect accountKey now (e.effect accountKey now g) = e.effect accountKey now g := by
  have hmem := Plan.run_mem_trail (Graph.server now) (e.plan accountKey now) g
  rw [run_plan h] at hmem
  exact (effect_on_the_way h accountKey now now e hmem).2

end Event

end AssetGraph
