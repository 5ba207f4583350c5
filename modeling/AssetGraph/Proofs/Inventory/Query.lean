import AssetGraph.Proofs.Inventory.Address
import AssetGraph.Proofs.Url.Form
/-!
# Filters in addresses

The address of a listing tells what is to be listed (`Endpoint.url_tells_the_filter`).  The pairs of its query are those
of the route (`Endpoint.pairs?_url`), whatever the filters hold; and where the ids of two routes keep their places, one
text is the address of one query (`Endpoint.query_eq_of_render_eq`), so other filters have another address.
-/
namespace AssetGraph

namespace Url

variable {u u' : Url} {pairs : List (String × String)}

/-- **The pairs of a URL's query**; there are none where there is no query. -/
def pairs? (u : Url) : Option (List (String × String)) :=
  match u.query with
  | some q => Form.decode? q
  | none => some []

theorem query_setQuery_eq_none_iff : (u.setQuery pairs).query = none ↔ pairs = [] := by
  cases pairs <;> simp [setQuery]

theorem pairs?_setQuery (u : Url) (pairs : List (String × String)) : (u.setQuery pairs).pairs? = some pairs := by
  cases pairs with
  | nil => rfl
  | cons p pairs => exact Form.decode?_encode (p :: pairs)

/-- **The query of a URL is seen in its text**, next to another one that differs in nothing else. -/
theorem query_eq_of_render_eq (hscheme : u.scheme = u'.scheme) (hauthority : u.authority = u'.authority)
    (hpath : u.path = u'.path) (hfragment : u.fragment = u'.fragment) (hrender : u.render = u'.render) :
    u.query = u'.query := by
  have hchars := String.ofList_injective hrender
  have hfront : u.authorityChars = u'.authorityChars := by rw [authorityChars, authorityChars, hauthority]
  have hguard : u.pathGuard = u'.pathGuard := by rw [pathGuard, pathGuard, hauthority, hpath]
  have hchars' : u.pathChars = u'.pathChars := by rw [pathChars, pathChars, hpath]
  have hend : u.fragmentChars = u'.fragmentChars := by rw [fragmentChars, fragmentChars, hfragment]
  rw [renderChars, renderChars, hscheme, hfront, hguard, hchars', hend, List.append_cancel_left_eq, List.cons.injEq,
    List.append_cancel_right_eq, List.append_cancel_left_eq, queryChars, queryChars] at hchars
  have hquery := hchars.2
  cases hu : u.query <;> cases hu' : u'.query <;> simp_all

end Url

namespace Pagination

variable {p p' : Pagination}

/-- Two pages that hold the same of every listing: without a size, the number counts for nothing. -/
def IsLike (p p' : Pagination) : Prop := p.size = p'.size ∧ (p.size ≠ 0 → p.page = p'.page)

theorem query_eq (p : Pagination) : p.query =
    if p.size = 0 then [] else [("page", Decimal.text p.page.toNat), ("size", Decimal.text p.size.toNat)] := by
  by_cases h : p.size = 0 <;> simp [query, isEnabled, h]

theorem query_eq_nil_iff : p.query = [] ↔ p.size = 0 := by
  rw [query_eq]
  split_ifs with h <;> simp [h]

theorem text_toNat_inj {m n : UInt32} (h : Decimal.text m.toNat = Decimal.text n.toNat) : m = n := by
  have hdigits := congrArg Decimal.ofDigits (String.ofList_injective h)
  have hvalue (n : Nat) : Decimal.ofDigits (Decimal.digits n) = n := Nat.ofDigitChars_ten_toDigits
  rw [hvalue, hvalue] at hdigits
  exact UInt32.toNat_inj.1 hdigits

/-- The pairs of a page tell which it is. -/
theorem isLike_of_query_eq (h : p.query = p'.query) : p.IsLike p' := by
  rw [query_eq, query_eq] at h
  split_ifs at h with hp hp'
  · exact ⟨hp.trans hp'.symm, fun hne => absurd hp hne⟩
  · simp only [List.cons.injEq, Prod.mk.injEq, true_and, and_true] at h
    exact ⟨text_toNat_inj h.2, fun _ => text_toNat_inj h.1⟩

theorem name_of_mem_query {q : String × String} (h : q ∈ p.query) : q.1 = "page" ∨ q.1 = "size" := by
  rw [query_eq] at h
  split_ifs at h
  · cases h
  · simp only [List.mem_cons, List.not_mem_nil, or_false] at h
    obtain rfl | rfl := h
    · exact .inl rfl
    · exact .inr rfl

/-- The pairs of a page have no other names. -/
theorem name_ne_of_mem_query {name : String} (hpage : name ≠ "page") (hsize : name ≠ "size") :
    ∀ q ∈ p.query, q.1 ≠ name := by
  intro q hq
  obtain hname | hname := name_of_mem_query hq <;> rw [hname]
  · exact hpage.symm
  · exact hsize.symm

end Pagination

namespace Route

variable {r r' : Route} {name : String} {value value' : Option String} {rest rest' : List (String × String)}

theorem segments_bare (r : Route) : r.bare.segments = r.segments := by cases r <;> rfl

theorem name_of_mem_pair {q : String × String} (h : q ∈ pair name value) : q.1 = name := by
  cases value with
  | none => cases h
  | some v => rw [List.mem_singleton.1 h]

/-- A filter in front of pairs of other names is told by the pairs. -/
theorem pair_append_inj (hrest : ∀ q ∈ rest, q.1 ≠ name) (hrest' : ∀ q ∈ rest', q.1 ≠ name)
    (h : pair name value ++ rest = pair name value' ++ rest') : value = value' ∧ rest = rest' := by
  match value, value' with
  | none, none => exact ⟨rfl, h⟩
  | none, some v =>
    have hmem : (name, v) ∈ rest := by
      rw [show rest = _ from h]
      exact List.mem_cons_self
    exact absurd rfl (hrest _ hmem)
  | some v, none =>
    have hmem : (name, v) ∈ rest' := by
      rw [show rest' = _ from h.symm]
      exact List.mem_cons_self
    exact absurd rfl (hrest' _ hmem)
  | some v, some v' =>
    obtain ⟨hpair, hrest⟩ := List.cons.inj h
    exact ⟨congrArg some (Prod.mk.inj hpair).2, hrest⟩

theorem query_teams_inj {i i' : Option String} {p p' : Pagination} (h : (teams i p).query = (teams i' p').query) :
    i = i' ∧ p.IsLike p' := by
  have hother (p : Pagination) : ∀ q ∈ p.query, q.1 ≠ "team_identifier" :=
    Pagination.name_ne_of_mem_query (by decide) (by decide)
  obtain ⟨hi, hp⟩ := pair_append_inj (hother p) (hother p') h
  exact ⟨hi, Pagination.isLike_of_query_eq hp⟩

theorem query_assets (f : AssetFilter) (p : Pagination) : (assets f p).query =
    pair "asset_type" f.type ++ (pair "asset_identifier" f.identifier ++
      (pair "valid_at" (f.validAt.map (·.renderSeconds)) ++ p.query)) := by
  rw [query, List.append_assoc, List.append_assoc]

theorem query_assets_inj {f f' : AssetFilter} {p p' : Pagination} (h : (assets f p).query = (assets f' p').query)
    (hf : f.validAt = none) (hf' : f'.validAt = none) : f = f' ∧ p.IsLike p' := by
  have hpage (p : Pagination) : ∀ q ∈ p.query, q.1 ≠ "asset_identifier" :=
    Pagination.name_ne_of_mem_query (by decide) (by decide)
  have hother (v : Option String) (p : Pagination) :
      ∀ q ∈ pair "asset_identifier" v ++ p.query, q.1 ≠ "asset_type" := by
    intro q hq
    obtain hq | hq := List.mem_append.1 hq
    · rw [name_of_mem_pair hq]
      decide
    · exact Pagination.name_ne_of_mem_query (by decide) (by decide) q hq
  rw [query_assets, query_assets, hf, hf'] at h
  obtain ⟨htype, h⟩ := pair_append_inj (hother _ p) (hother _ p') h
  obtain ⟨hidentifier, h⟩ := pair_append_inj (hpage p) (hpage p') h
  refine ⟨?_, Pagination.isLike_of_query_eq h⟩
  cases f
  cases f'
  simp_all

end Route

namespace Endpoint

open Url (KeepsPlace)

variable {e : Endpoint} {r r' : Route}

theorem pairs?_url (e : Endpoint) (r : Route) : (e.url r).pairs? = some r.query := Url.pairs?_setQuery _ _

theorem query_url_eq_none_iff : (e.url r).query = none ↔ r.query = [] := Url.query_setQuery_eq_none_iff

/-- The addresses of two routes whose ids keep their places are the same only if the queries are. -/
theorem query_eq_of_render_eq {s : String} (h : parse s = .ok e) (hr : ∀ id ∈ r.ids, KeepsPlace id.toList)
    (hr' : ∀ id ∈ r'.ids, KeepsPlace id.toList) (hrender : (e.url r).render = (e.url r').render) :
    r.query = r'.query := by
  have hsegments := congrArg Route.segments (bare_eq_of_render_eq h hr hr' hrender)
  rw [Route.segments_bare, Route.segments_bare] at hsegments
  have hpath : (e.url r).path = (e.url r').path := by rw [path_url, path_url, hsegments]
  have hscheme : (e.url r).scheme = (e.url r').scheme := rfl
  have hauthority : (e.url r).authority = (e.url r').authority := rfl
  have hfragment : (e.url r).fragment = (e.url r').fragment := rfl
  have hquery := Url.query_eq_of_render_eq hscheme hauthority hpath hfragment hrender
  have hpairs : (e.url r).pairs? = (e.url r').pairs? := by rw [Url.pairs?, Url.pairs?, hquery]
  rw [pairs?_url, pairs?_url] at hpairs
  exact Option.some.inj hpairs

/-- **A listing's address tells its filter.**  The pairs of the query are the filters that are set, each with the text
that it holds, then number and size of the page if it has one, and no others; without pairs there is no query.  Two
listings with one address list the same: they have the same filters, and pages that hold the same. -/
theorem url_tells_the_filter {s : String} (h : parse s = .ok e) :
    (∀ (i : Option String) (p : Pagination),
      (e.url (.teams i p)).pairs? = some (i.toList.map ("team_identifier", ·) ++
        if p.size = 0 then [] else [("page", Decimal.text p.page.toNat), ("size", Decimal.text p.size.toNat)]) ∧
      ((e.url (.teams i p)).query = none ↔ i = none ∧ p.size = 0)) ∧
    (∀ (type identifier : Option String) (p : Pagination),
      (e.url (.assets { type, identifier } p)).pairs? = some (type.toList.map ("asset_type", ·) ++
        identifier.toList.map ("asset_identifier", ·) ++
        if p.size = 0 then [] else [("page", Decimal.text p.page.toNat), ("size", Decimal.text p.size.toNat)]) ∧
      ((e.url (.assets { type, identifier } p)).query = none ↔ type = none ∧ identifier = none ∧ p.size = 0)) ∧
    (∀ (i i' : Option String) (p p' : Pagination),
      (e.url (.teams i p)).render = (e.url (.teams i' p')).render → i = i' ∧ p.IsLike p') ∧
    (∀ (f f' : AssetFilter) (p p' : Pagination), f.validAt = none → f'.validAt = none →
      (e.url (.assets f p)).render = (e.url (.assets f' p')).render → f = f' ∧ p.IsLike p') ∧
    ∀ (i : Option String) (f : AssetFilter) (p p' : Pagination),
      (e.url (.teams i p)).render ≠ (e.url (.assets f p')).render := by
  have hlists (r : Route) (hr : r.ids = []) : ∀ id ∈ r.ids, KeepsPlace id.toList := by simp [hr]
  refine ⟨fun i p => ⟨?_, ?_⟩, fun type identifier p => ⟨?_, ?_⟩, fun i i' p p' hsame => ?_,
    fun f f' p p' hf hf' hsame => ?_, fun i f p p' hsame => ?_⟩
  · rw [pairs?_url, Route.query, Pagination.query_eq]
    cases i <;> rfl
  · rw [query_url_eq_none_iff, Route.query, List.append_eq_nil_iff, Pagination.query_eq_nil_iff]
    cases i <;> simp [Route.pair]
  · rw [pairs?_url, Route.query, Pagination.query_eq]
    cases type <;> cases identifier <;> rfl
  · rw [query_url_eq_none_iff, Route.query_assets, List.append_eq_nil_iff, List.append_eq_nil_iff,
      List.append_eq_nil_iff, Pagination.query_eq_nil_iff]
    cases type <;> cases identifier <;> simp [Route.pair]
  · exact Route.query_teams_inj (query_eq_of_render_eq h (hlists _ rfl) (hlists _ rfl) hsame)
  · exact Route.query_assets_inj (query_eq_of_render_eq h (hlists _ rfl) (hlists _ rfl) hsame) hf hf'
  · have hbare := bare_eq_of_render_eq h (hlists _ rfl) (hlists _ rfl) hsame
    cases hbare

/-- Below an endpoint with a query and a fragment: signs that mean something in a query are told as they are, and an
empty identifier is not none. -/
theorem url_tells_a_filter_of_signs :
    let e : Endpoint :=
      { base := { scheme := "http".toList
                  authority := some { host := "[::1]".toList }
                  path := [[]]
                  query := some "page=9".toList
                  fragment := some "&x".toList } }
    parse "http://[::1]?page=9#&x" = .ok e ∧
      (e.url (.teams (some "a&page=3 +%26#é") { page := 1, size := 20 })).pairs? =
        some [("team_identifier", "a&page=3 +%26#é"), ("page", "1"), ("size", "20")] ∧
      (e.url (.teams (some "") .all)).render ≠ (e.url (.teams none .all)).render := by
  intro e
  have h : parse "http://[::1]?page=9#&x" = .ok e := by decide +kernel
  obtain ⟨hteams, -, hsame, -⟩ := url_tells_the_filter h
  have hdigits : Decimal.text 1 = "1" ∧ Decimal.text 20 = "20" := by decide +kernel
  refine ⟨h, ?_, fun hrender => ?_⟩
  · rw [← hdigits.1, ← hdigits.2]
    exact (hteams (some "a&page=3 +%26#é") { page := 1, size := 20 }).1
  · cases (hsame (some "") none .all .all hrender).1

end Endpoint

end AssetGraph
