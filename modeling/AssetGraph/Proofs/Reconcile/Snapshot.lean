import AssetGraph.Proofs.Reconcile.Statement
/-!
# Snapshots

All that a graph lists, without ids and times: assets with whether they carry the sentinel, teams with
their names, ownerships with whether they are active, and containments with whether they carry the
sentinel.  Two graphs whose keys are unique list the same, in whatever order, if they answer alike
(`Graph.tellsAlike_iff`).  A listing has the times as well, so that it leaves out the ids and nothing else
(`Graph.ListsAlike.of_times?`).
-/
namespace AssetGraph

/-- **What a graph lists**, by the keys of the world outside it. -/
structure Snapshot where
  assets : List (AssetKey × Bool)
  teams : List (String × String)
  owns : List ((AssetKey × String) × Bool)
  parents : List ((AssetKey × AssetKey) × Bool)
deriving DecidableEq, Repr

/-- The same entries, in whatever order. -/
structure Snapshot.Same (x y : Snapshot) : Prop where
  assets : x.assets.Perm y.assets
  teams : x.teams.Perm y.teams
  owns : x.owns.Perm y.owns
  parents : x.parents.Perm y.parents

/-- **What a graph lists with its times**, by the keys of the world outside it.  An edge that dangles is
listed as well, without the key that it has not. -/
structure Listing where
  assets : List (AssetKey × Times)
  teams : List (String × String)
  owns : List ((Option AssetKey × Option String) × Times)
  parents : List ((Option AssetKey × Option AssetKey) × Times)
deriving DecidableEq, Repr

/-- The same entries, in whatever order. -/
structure Listing.Same (x y : Listing) : Prop where
  assets : x.assets.Perm y.assets
  teams : x.teams.Perm y.teams
  owns : x.owns.Perm y.owns
  parents : x.parents.Perm y.parents

namespace Graph

/-- The key of the asset with an id. -/
def keyOf? (g : Graph) (id : String) : Option AssetKey := (g.assets.find? (·.id = id)).map (·.key)

/-- The identifier of the team with an id. -/
def identifierOf? (g : Graph) (id : String) : Option String :=
  (g.teams.find? (·.id = id)).map (·.identifier)

/-- An edge between what has the given names. -/
def listed {α β : Type} (a : Option α) (b : Option β) (live : Bool) : Option ((α × β) × Bool) :=
  a.bind fun a => b.map fun b => ((a, b), live)

def snapshot (g : Graph) : Snapshot where
  assets := g.assets.map fun a => (a.key, a.isUnexpired)
  teams := g.teams.map fun t => (t.identifier, t.name)
  owns := g.owns.filterMap fun o => listed (g.keyOf? o.assetId) (g.identifierOf? o.teamId) o.isActive
  parents := g.parents.filterMap fun e => listed (g.keyOf? e.childId) (g.keyOf? e.parentId) e.isUnexpired

/-- **Two graphs list the same.** -/
def TellsAlike (g g' : Graph) : Prop := g'.snapshot.Same g.snapshot

def listing (g : Graph) : Listing where
  assets := g.assets.map fun a => (a.key, a.times)
  teams := g.teams.map fun t => (t.identifier, t.name)
  owns := g.owns.map fun o => ((g.keyOf? o.assetId, g.identifierOf? o.teamId), o.times)
  parents := g.parents.map fun e => ((g.keyOf? e.childId, g.keyOf? e.parentId), e.times)

/-- **Two graphs are the same but for ids and the order of what they list.** -/
def ListsAlike (g g' : Graph) : Prop := g'.listing.Same g.listing

variable {g g' : Graph}

theorem listed_eq_some_iff {α β : Type} {a : Option α} {b : Option β} {live live' : Bool} {x : α} {y : β} :
    listed a b live = some ((x, y), live') ↔ a = some x ∧ b = some y ∧ live = live' := by
  cases a <;> cases b <;> simp [listed]
  exact and_assoc

theorem WellFormed.keyOf?_eq_some_iff (h : g.WellFormed) {id : String} {k : AssetKey} :
    g.keyOf? id = some k ↔ g.assetId? k = some id := by
  rw [keyOf?, assetId?, Option.map_eq_some_iff, Option.map_eq_some_iff]
  simp only [find?_key_eq_some_iff h.assetIds, h.asset?_eq_some_iff]
  exact exists_congr fun a => and_right_comm

theorem IsKeyed.identifierOf?_eq_some_iff (h : g.IsKeyed) {id i : String} :
    g.identifierOf? id = some i ↔ g.teamId? i = some id := by
  rw [identifierOf?, teamId?, Option.map_eq_some_iff, Option.map_eq_some_iff]
  simp only [find?_key_eq_some_iff h.teamIds, h.team?_eq_some_iff]
  exact exists_congr fun t => and_right_comm

/-! ## What is listed -/

theorem WellFormed.mem_snapshot_assets (h : g.WellFormed) {k : AssetKey} {b : Bool} :
    (k, b) ∈ g.snapshot.assets ↔ g.holds? (.asset k) = some b := by
  rw [snapshot, List.mem_map, holds?, Option.map_eq_some_iff]
  simp only [h.asset?_eq_some_iff, Prod.mk.injEq, and_assoc]

theorem IsKeyed.mem_snapshot_teams (h : g.IsKeyed) {i name : String} :
    (i, name) ∈ g.snapshot.teams ↔ g.teamName? i = some name := by
  rw [snapshot, List.mem_map, teamName?, Option.map_eq_some_iff]
  simp only [h.team?_eq_some_iff, Prod.mk.injEq, and_assoc]

theorem IsKeyed.mem_snapshot_owns (h : g.IsKeyed) {x : AssetKey × String} {b : Bool} :
    (x, b) ∈ g.snapshot.owns ↔ g.holds? (.owner x.1 x.2) = some b := by
  obtain ⟨k, i⟩ := x
  rw [snapshot, List.mem_filterMap, holds?_owner_eq_some_iff h.toWellFormed]
  simp only [listed_eq_some_iff, h.keyOf?_eq_some_iff, h.identifierOf?_eq_some_iff]

theorem WellFormed.mem_snapshot_parents (h : g.WellFormed) {x : AssetKey × AssetKey} {b : Bool} :
    (x, b) ∈ g.snapshot.parents ↔ g.holds? (.parent x.1 x.2) = some b := by
  obtain ⟨c, p⟩ := x
  rw [snapshot, List.mem_filterMap, holds?_parent_eq_some_iff h]
  simp only [listed_eq_some_iff, h.keyOf?_eq_some_iff]

/-! ## Nothing is listed twice -/

theorem WellFormed.nodup_snapshot_assets (h : g.WellFormed) : g.snapshot.assets.Nodup := by
  refine List.Nodup.of_map Prod.fst ?_
  rw [snapshot, List.map_map]
  exact h.keys

theorem IsKeyed.nodup_snapshot_teams (h : g.IsKeyed) : g.snapshot.teams.Nodup := by
  refine List.Nodup.of_map Prod.fst ?_
  rw [snapshot, List.map_map]
  exact h.identifiers

/-- Edges with pairs of their own have entries of their own, where names come from one id. -/
theorem nodup_filterMap_listed {ε α β : Type} {edges : List ε} {pair : ε → String × String}
    {live : ε → Bool} {nameA : String → Option α} {nameB : String → Option β}
    (hn : (edges.map pair).Nodup)
    (ha : ∀ {id id' : String} {x : α}, nameA id = some x → nameA id' = some x → id = id')
    (hb : ∀ {id id' : String} {y : β}, nameB id = some y → nameB id' = some y → id = id') :
    (edges.filterMap fun e => listed (nameA (pair e).1) (nameB (pair e).2) (live e)).Nodup := by
  rw [List.Nodup, List.pairwise_filterMap]
  refine (List.pairwise_map.1 hn).imp fun hne x hx x' hx' hxx' => hne ?_
  subst hxx'
  obtain ⟨h₁, h₂, -⟩ := listed_eq_some_iff.1 hx
  obtain ⟨h₁', h₂', -⟩ := listed_eq_some_iff.1 hx'
  exact Prod.ext (ha h₁ h₁') (hb h₂ h₂')

theorem WellFormed.keyOf?_inj (h : g.WellFormed) {id id' : String} {k : AssetKey}
    (hk : g.keyOf? id = some k) (hk' : g.keyOf? id' = some k) : id = id' :=
  Option.some.inj ((h.keyOf?_eq_some_iff.1 hk).symm.trans (h.keyOf?_eq_some_iff.1 hk'))

theorem IsKeyed.identifierOf?_inj (h : g.IsKeyed) {id id' i : String}
    (hi : g.identifierOf? id = some i) (hi' : g.identifierOf? id' = some i) : id = id' :=
  Option.some.inj ((h.identifierOf?_eq_some_iff.1 hi).symm.trans (h.identifierOf?_eq_some_iff.1 hi'))

theorem IsKeyed.nodup_snapshot_owns (h : g.IsKeyed) : g.snapshot.owns.Nodup :=
  nodup_filterMap_listed h.pairs h.keyOf?_inj h.identifierOf?_inj

theorem WellFormed.nodup_snapshot_parents (h : g.WellFormed) : g.snapshot.parents.Nodup :=
  nodup_filterMap_listed h.edges h.keyOf?_inj h.keyOf?_inj

/-! ## Listing the same -/

/-- Lists of what lookups find are the same if the lookups are. -/
theorem perm_iff_of_lookup {κ β : Type} {xs ys : List (κ × β)} {f g : κ → Option β} (hx : xs.Nodup)
    (hy : ys.Nodup) (hf : ∀ {k b}, (k, b) ∈ xs ↔ f k = some b) (hg : ∀ {k b}, (k, b) ∈ ys ↔ g k = some b) :
    xs.Perm ys ↔ ∀ k, f k = g k := by
  rw [List.perm_ext_iff_of_nodup hx hy, Prod.forall]
  simp only [hf, hg]
  exact forall_congr' fun k => Option.ext_iff.symm

/-- **Graphs list the same if they answer alike.** -/
theorem tellsAlike_iff (h : g.IsKeyed) (h' : g'.IsKeyed) :
    g.TellsAlike g' ↔ (∀ s, g'.holds? s = g.holds? s) ∧ ∀ i, g'.teamName? i = g.teamName? i := by
  have hassets := perm_iff_of_lookup h'.nodup_snapshot_assets h.nodup_snapshot_assets
    h'.mem_snapshot_assets h.mem_snapshot_assets
  have hteams := perm_iff_of_lookup h'.nodup_snapshot_teams h.nodup_snapshot_teams
    h'.mem_snapshot_teams h.mem_snapshot_teams
  have howns := perm_iff_of_lookup h'.nodup_snapshot_owns h.nodup_snapshot_owns
    h'.mem_snapshot_owns h.mem_snapshot_owns
  have hparents := perm_iff_of_lookup h'.nodup_snapshot_parents h.nodup_snapshot_parents
    h'.mem_snapshot_parents h.mem_snapshot_parents
  constructor
  · rintro ⟨ha, ht, ho, hp⟩
    refine ⟨fun s => ?_, hteams.1 ht⟩
    cases s with
    | asset k => exact hassets.1 ha k
    | owner k i => exact howns.1 ho (k, i)
    | parent c p => exact hparents.1 hp (c, p)
  · rintro ⟨hs, ht⟩
    exact ⟨hassets.2 fun k => hs (.asset k), hteams.2 ht, howns.2 fun x => hs (.owner x.1 x.2),
      hparents.2 fun x => hs (.parent x.1 x.2)⟩

/-! ## With the times -/

/-- The times that a graph lists for a pair of keys. -/
def timesOf? {α β : Type} (g : Graph) (edge : α → β → Statement) (x : Option α × Option β) : Option Times :=
  x.1.bind fun a => x.2.bind fun b => g.times? (edge a b)

theorem WellFormed.exists_keyOf? (h : g.WellFormed) {id : String} (hid : id ∈ g.assets.map (·.id)) :
    ∃ k, g.keyOf? id = some k := by
  obtain ⟨a, ha, rfl⟩ := List.mem_map.1 hid
  exact ⟨a.key, congrArg (Option.map Asset.key) ((find?_key_eq_some_iff h.assetIds).2 ⟨ha, rfl⟩)⟩

theorem IsKeyed.exists_identifierOf? (h : g.IsKeyed) {id : String} (hid : id ∈ g.teams.map (·.id)) :
    ∃ i, g.identifierOf? id = some i := by
  obtain ⟨t, ht, rfl⟩ := List.mem_map.1 hid
  exact ⟨t.identifier, congrArg (Option.map Team.identifier) ((find?_key_eq_some_iff h.teamIds).2 ⟨ht, rfl⟩)⟩

theorem WellFormed.mem_listing_assets (h : g.WellFormed) {k : AssetKey} {x : Times} :
    (k, x) ∈ g.listing.assets ↔ g.times? (.asset k) = some x := by
  rw [listing, List.mem_map, times?, Option.map_eq_some_iff]
  simp only [h.asset?_eq_some_iff, Prod.mk.injEq, and_assoc]

theorem IsKeyed.mem_listing_owns (h : g.IsKeyed) {y : Option AssetKey × Option String} {x : Times} :
    (y, x) ∈ g.listing.owns ↔ g.timesOf? .owner y = some x := by
  simp only [listing, List.mem_map, timesOf?, Option.bind_eq_some_iff, times?_owner_eq_some_iff h.toWellFormed,
    Prod.mk.injEq]
  constructor
  · rintro ⟨o, ho, rfl, rfl⟩
    obtain ⟨k, hk⟩ := h.exists_keyOf? (h.owned o ho).1
    obtain ⟨i, hi⟩ := h.exists_identifierOf? (h.owned o ho).2
    exact ⟨k, hk, i, hi, o, ho, h.keyOf?_eq_some_iff.1 hk, h.identifierOf?_eq_some_iff.1 hi, rfl⟩
  · rintro ⟨k, hk, i, hi, o, ho, ha, ht, rfl⟩
    exact ⟨o, ho, Prod.ext ((h.keyOf?_eq_some_iff.2 ha).trans hk.symm)
      ((h.identifierOf?_eq_some_iff.2 ht).trans hi.symm), rfl⟩

theorem WellFormed.mem_listing_parents (h : g.WellFormed) {y : Option AssetKey × Option AssetKey} {x : Times} :
    (y, x) ∈ g.listing.parents ↔ g.timesOf? .parent y = some x := by
  simp only [listing, List.mem_map, timesOf?, Option.bind_eq_some_iff, times?_parent_eq_some_iff h,
    Prod.mk.injEq]
  constructor
  · rintro ⟨e, he, rfl, rfl⟩
    obtain ⟨c, hc⟩ := h.exists_keyOf? (h.contained e he).1
    obtain ⟨p, hp⟩ := h.exists_keyOf? (h.contained e he).2
    exact ⟨c, hc, p, hp, e, he, h.keyOf?_eq_some_iff.1 hc, h.keyOf?_eq_some_iff.1 hp, rfl⟩
  · rintro ⟨c, hc, p, hp, e, he, ha, ha', rfl⟩
    exact ⟨e, he, Prod.ext ((h.keyOf?_eq_some_iff.2 ha).trans hc.symm)
      ((h.keyOf?_eq_some_iff.2 ha').trans hp.symm), rfl⟩

theorem WellFormed.nodup_listing_assets (h : g.WellFormed) : g.listing.assets.Nodup := by
  refine List.Nodup.of_map Prod.fst ?_
  rw [listing, List.map_map]
  exact h.keys

theorem IsKeyed.nodup_listing_owns (h : g.IsKeyed) : g.listing.owns.Nodup := by
  refine List.Nodup.map_on (fun o ho o' ho' he => ?_) (h.pairs.of_map _)
  obtain ⟨k, hk⟩ := h.exists_keyOf? (h.owned o ho).1
  obtain ⟨i, hi⟩ := h.exists_identifierOf? (h.owned o ho).2
  obtain ⟨hk', hi'⟩ := Prod.mk.inj (Prod.mk.inj he).1
  exact eq_of_key_eq h.pairs ho ho'
    (Prod.ext (h.keyOf?_inj hk (hk'.symm.trans hk)) (h.identifierOf?_inj hi (hi'.symm.trans hi)))

theorem WellFormed.nodup_listing_parents (h : g.WellFormed) : g.listing.parents.Nodup := by
  refine List.Nodup.map_on (fun e he e' he' hee => ?_) (h.edges.of_map _)
  obtain ⟨c, hc⟩ := h.exists_keyOf? (h.contained e he).1
  obtain ⟨p, hp⟩ := h.exists_keyOf? (h.contained e he).2
  obtain ⟨hc', hp'⟩ := Prod.mk.inj (Prod.mk.inj hee).1
  exact eq_of_key_eq h.edges he he'
    (Prod.ext (h.keyOf?_inj hc (hc'.symm.trans hc)) (h.keyOf?_inj hp (hp'.symm.trans hp)))

/-- **Graphs list alike if they tell the same times and names.** -/
theorem ListsAlike.of_times? (h : g.IsKeyed) (h' : g'.IsKeyed) (hs : ∀ s, g'.times? s = g.times? s)
    (hn : ∀ i, g'.teamName? i = g.teamName? i) : g.ListsAlike g' where
  assets := (perm_iff_of_lookup h'.nodup_listing_assets h.nodup_listing_assets h'.mem_listing_assets
    h.mem_listing_assets).2 fun k => hs (.asset k)
  teams := (perm_iff_of_lookup h'.nodup_snapshot_teams h.nodup_snapshot_teams h'.mem_snapshot_teams
    h.mem_snapshot_teams).2 hn
  owns := (perm_iff_of_lookup h'.nodup_listing_owns h.nodup_listing_owns h'.mem_listing_owns
    h.mem_listing_owns).2 fun x => by simp only [timesOf?, hs]
  parents := (perm_iff_of_lookup h'.nodup_listing_parents h.nodup_listing_parents h'.mem_listing_parents
    h.mem_listing_parents).2 fun x => by simp only [timesOf?, hs]

end Graph

end AssetGraph
