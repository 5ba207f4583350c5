import AssetGraph.Graph.Basic
import AssetGraph.Proofs.Instant.Rfc3339
import AssetGraph.Proofs.Inventory.Query
/-!
# The instant that a listing is asked for

The address of a listing of assets names the instant at which they are to be live, to the second
(`Endpoint.validAt?_url`).  A graph in memory compares with the instant itself, so it holds back what has expired since
its second began: the two agree on a graph exactly if no asset has (`Graph.listAssets_eq_iff`), and on all graphs
exactly if the instant has no fraction (`Endpoint.valid_at_is_told_to_the_second`).
-/
namespace AssetGraph

namespace Instant

variable {i : Instant}

/-- The fraction is what an instant has beyond the beginning of its second. -/
theorem nano_wholeSecond (i : Instant) : i.fraction + i.wholeSecond.nano = i.nano := i.total_eq

theorem wholeSecond_le (i : Instant) : i.wholeSecond ≤ i := by
  have hnano := i.nano_wholeSecond
  exact .inr ⟨rfl, by omega⟩

theorem wholeSecond_eq_self_iff : i.wholeSecond = i ↔ i.fraction = 0 := by
  have hnano := i.nano_wholeSecond
  have hsecond : i.wholeSecond.second = i.second := rfl
  rw [ext_iff']
  omega

/-- An instant with a fraction lies behind the beginning of its second. -/
theorem wholeSecond_lt (h : i.fraction ≠ 0) : i.wholeSecond < i := by
  rw [← not_le]
  exact fun hle => h (wholeSecond_eq_self_iff.1 (le_antisymm i.wholeSecond_le hle))

end Instant

/-- The instant that the query of a listing's address names. -/
def Url.validAt? (u : Url) : Option Instant := do
  let pairs ← u.pairs?
  let text ← pairs.lookup "valid_at"
  Instant.parse? text

namespace AssetFilter

/-- A filter that lets assets through live or not. -/
def anytime (f : AssetFilter) : AssetFilter := { f with validAt := none }

end AssetFilter

namespace Graph

variable {f : AssetFilter} {t t' : Instant}

theorem listAssets_eq_filter (hf : f.validAt = some t) (g : Graph) :
    g.listAssets f .all = (g.listAssets f.anytime .all).filter (·.isLiveAt t) := by
  simp only [listAssets, Pagination.apply_all, List.filter_filter]
  refine List.filter_congr fun a _ => ?_
  simp [selectsAsset, AssetFilter.anytime, hf, Bool.and_comm]

/-- **Listings for two instants agree** exactly if no asset expires behind the one and not behind the other. -/
theorem listAssets_eq_iff (hf : f.validAt = some t) (hle : t' ≤ t) (g : Graph) :
    g.listAssets f .all = (g.listAssets f.anytime .all).filter (·.isLiveAt t') ↔
      ∀ a ∈ g.listAssets f.anytime .all, ¬ (t' < a.expiration ∧ a.expiration ≤ t) := by
  rw [listAssets_eq_filter hf]
  constructor
  · rintro h a ha ⟨hlive, hexpired⟩
    have hmem : a ∈ (g.listAssets f.anytime .all).filter (·.isLiveAt t') :=
      List.mem_filter.2 ⟨ha, Asset.isLiveAt_iff.2 hlive⟩
    rw [← h] at hmem
    exact Instant.not_lt.2 hexpired (Asset.isLiveAt_iff.1 (List.mem_filter.1 hmem).2)
  · intro h
    refine List.filter_congr fun a ha => ?_
    rw [Bool.eq_iff_iff, Asset.isLiveAt_iff, Asset.isLiveAt_iff]
    refine ⟨Instant.lt_of_le_of_lt hle, fun hlive => ?_⟩
    rw [← Instant.not_le]
    exact fun hexpired => h a ha ⟨hlive, hexpired⟩

/-- An asset that a filter lets through, and that expires at an instant. -/
def expiring (f : AssetFilter) (t : Instant) : Asset :=
  { id := idOf "asset" 0
    key := { type := f.type.getD "", identifier := f.identifier.getD "" }
    firstSeen := t
    lastSeen := t
    expiration := t }

theorem listAssets_expiring (f : AssetFilter) (t : Instant) :
    listAssets { assets := [expiring f t] } f.anytime .all = [expiring f t] := by
  have hselects : selectsAsset f.anytime (expiring f t) = true := by
    cases f
    rename_i type identifier _
    cases type <;> cases identifier <;> simp [selectsAsset, AssetFilter.anytime, expiring]
  rw [listAssets, Pagination.apply_all, List.filter_cons_of_pos hselects, List.filter_nil]

end Graph

namespace Endpoint

variable {f : AssetFilter} {t : Instant}

theorem lookup_validAt (f : AssetFilter) (p : Pagination) :
    (Route.assets f p).query.lookup "valid_at" = f.validAt.map (·.renderSeconds) := by
  have hpage : p.query.lookup "valid_at" = none := by
    rw [Pagination.query_eq]
    split_ifs <;> rfl
  obtain ⟨type, identifier, validAt⟩ := f
  rw [Route.query_assets]
  cases type <;> cases identifier <;> cases validAt <;> first | rfl | exact hpage

/-- **The address of a listing names the second of its instant.** -/
theorem validAt?_url (h : t.IsCivil) (hf : f.validAt = some t) (e : Endpoint) (p : Pagination) :
    (e.url (.assets f p)).validAt? = some t.wholeSecond := by
  rw [Url.validAt?, pairs?_url, Option.bind_eq_bind, Option.bind_some, lookup_validAt, hf, Option.map_some,
    Option.bind_eq_bind, Option.bind_some, Instant.parse?_renderSeconds h]

/-- **An inventory is asked for the second, a graph in memory for the instant.**  What the address of a listing names is
the beginning of the instant's second.  The assets that are live then are those that a graph in memory lists for the
instant, unless one has expired since; for every graph they are so exactly if the instant has no fraction. -/
theorem valid_at_is_told_to_the_second (h : t.IsCivil) (hf : f.validAt = some t) (e : Endpoint) (p : Pagination) :
    (e.url (.assets f p)).validAt? = some t.wholeSecond ∧
      (∀ g : Graph, g.listAssets f .all = (g.listAssets f.anytime .all).filter (·.isLiveAt t.wholeSecond) ↔
        ∀ a ∈ g.listAssets f.anytime .all, ¬ (t.wholeSecond < a.expiration ∧ a.expiration ≤ t)) ∧
      ((∀ g : Graph, g.listAssets f .all = (g.listAssets f.anytime .all).filter (·.isLiveAt t.wholeSecond)) ↔
        t.fraction = 0) := by
  have hagree := Graph.listAssets_eq_iff hf t.wholeSecond_le
  refine ⟨validAt?_url h hf e p, hagree, fun hall => ?_, fun hzero g => ?_⟩
  · by_contra hne
    have hnone := (hagree { assets := [Graph.expiring f t] }).1 (hall _)
    rw [Graph.listAssets_expiring] at hnone
    exact hnone _ (List.mem_singleton.2 rfl) ⟨Instant.wholeSecond_lt hne, Instant.le_refl t⟩
  · rw [hagree, Instant.wholeSecond_eq_self_iff.2 hzero]
    exact fun a _ hbetween => Instant.not_lt.2 hbetween.2 hbetween.1

/-- In the middle of a leap second: an address that has expired since it began is not among the hosts, and both list
the one host. -/
theorem valid_at_is_told_in_a_leap_second :
    let began : Instant := { second := 1483228799, nano := 1000000000 }
    let t : Instant := { second := 1483228799, nano := 1500000000 }
    let f : AssetFilter := { type := some "Hostname", validAt := some t }
    let host : Asset :=
      { id := "asset-1", key := { type := "Hostname", identifier := "h.example.com" }, firstSeen := began
        lastSeen := began, expiration := .unexpired }
    let address : Asset :=
      { id := "asset-2", key := { type := "IP", identifier := "192.0.2.1" }, firstSeen := began, lastSeen := began
        expiration := { second := 1483228799, nano := 1200000000 } }
    let g : Graph := { assets := [host, address] }
    let e : Endpoint :=
      { base := { scheme := "http".toList, authority := some { host := "[::1]".toList }, path := [[]] } }
    t.IsCivil ∧ t.render = "2016-12-31T23:59:60.500Z" ∧ (e.url (.assets f .all)).validAt? = some began ∧
      g.listAssets f .all = [host] ∧ (g.listAssets f.anytime .all).filter (·.isLiveAt began) = [host] := by
  intro began t f host address g e
  have hcivil : t.IsCivil := by decide +kernel
  obtain ⟨htold, hagree, -⟩ := valid_at_is_told_to_the_second (f := f) hcivil rfl e .all
  have hlist : g.listAssets f .all = [host] := by decide +kernel
  have hbetween : ∀ a ∈ g.listAssets f.anytime .all, ¬ (began < a.expiration ∧ a.expiration ≤ t) := by decide +kernel
  exact ⟨hcivil, by decide +kernel, htold, hlist, ((hagree g).2 hbetween).symm.trans hlist⟩

/-- Half a second past midnight the address names midnight: what has expired in between is live then, and not listed by
a graph in memory. -/
theorem valid_at_loses_a_fraction :
    let midnight : Instant := { second := 1704067200 }
    let t : Instant := { second := 1704067200, nano := 500000000 }
    let f : AssetFilter := { validAt := some t }
    let a : Asset :=
      { id := "asset-1", key := { type := "Hostname", identifier := "h.example.com" }, firstSeen := midnight
        lastSeen := midnight, expiration := { second := 1704067200, nano := 200000000 } }
    let g : Graph := { assets := [a] }
    let e : Endpoint :=
      { base := { scheme := "http".toList, authority := some { host := "[::1]".toList }, path := [[]] } }
    (e.url (.assets f .all)).render = "http://[::1]/v1/assets?valid_at=2024-01-01T00%3A00%3A00Z" ∧
      (e.url (.assets f .all)).validAt? = some midnight ∧ g.listAssets f .all = [] ∧
      g.assets.filter (·.isLiveAt midnight) = [a] := by
  intro midnight t f a g e
  exact ⟨by decide +kernel, by decide +kernel, by decide +kernel, by decide +kernel⟩

end Endpoint

end AssetGraph
