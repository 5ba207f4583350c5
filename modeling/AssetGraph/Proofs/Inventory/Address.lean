import AssetGraph.Inventory.Routes
import AssetGraph.Proofs.Url.Written
/-!
# Ids in addresses

The address of a route has the endpoint's scheme and authority and the route's query.  Its path is the endpoint's with
the route's segments behind it, exactly if every id keeps its place and the endpoint's path is not two empty segments
(`Endpoint.url_names_the_route_iff`); then the address is that of no other route and no other ids.  A dot for an id, or
a tab in one, is left out of the address (`Endpoint.url_loses_a_dot_and_a_tab`).
-/
namespace AssetGraph

namespace Url

variable {u u' : Url} {isSpecial : Bool} {s : List Char} {path ss : List (List Char)}

/-- A path less one empty segment at its end. -/
def withoutLastEmpty (path : List (List Char)) : List (List Char) :=
  if path.getLast? = some [] then path.dropLast else path

/-- What segments are put behind, unless the path is two empty segments. -/
theorem root_popIfEmpty (h : path ≠ [[], []]) : root (popIfEmpty path) = withoutLastEmpty path := by
  match path with
  | [] => rfl
  | [s] => cases s <;> rfl
  | p :: q :: path =>
    have hpop : popIfEmpty (p :: q :: path) = withoutLastEmpty (p :: q :: path) := by
      simp [popIfEmpty, withoutLastEmpty]
    rw [hpop, root_of_ne]
    rw [withoutLastEmpty]
    split
    · rename_i hlast
      intro hone
      cases path with
      | nil => simp_all
      | cons t path => simp at hone
    · simp

end Url

namespace Route

/-- The ids of a route. -/
def ids : Route → List String
  | teams .. => []
  | team id => [id]
  | assets .. => []
  | asset id => [id]
  | owners assetId _ => [assetId]
  | owner assetId teamId => [assetId, teamId]
  | parents assetId _ => [assetId]
  | parent childId parentId => [childId, parentId]
  | children assetId _ => [assetId]

/-- A route without its filters: what is addressed, not what is asked of it. -/
def bare : Route → Route
  | teams .. => teams none .all
  | team id => team id
  | assets .. => assets {} .all
  | asset id => asset id
  | owners assetId _ => owners assetId .all
  | owner assetId teamId => owner assetId teamId
  | parents assetId _ => parents assetId .all
  | parent childId parentId => parent childId parentId
  | children assetId _ => children assetId .all

variable {r r' : Route}

theorem exists_segments (r : Route) : ∃ rest, r.segments = "v1" :: rest := by
  cases r <;> exact ⟨_, rfl⟩

/-- **The segments of a route tell which it is.** -/
theorem bare_eq_of_segments_eq (h : r.segments = r'.segments) : r.bare = r'.bare := by
  cases r <;> cases r' <;> simp_all [segments, bare]

theorem keepsPlace_segments_iff :
    (∀ s ∈ r.segments, Url.KeepsPlace s.toList) ↔ ∀ id ∈ r.ids, Url.KeepsPlace id.toList := by
  have hliterals : ∀ s ∈ ["v1", "teams", "assets", "owners", "parents", "children"], Url.KeepsPlace s.toList := by
    decide +kernel
  simp only [List.mem_cons, List.not_mem_nil, or_false, forall_eq_or_imp, forall_eq] at hliterals
  cases r <;> simp only [segments, ids, List.mem_cons, List.not_mem_nil, or_false, forall_eq_or_imp, forall_eq,
    hliterals, true_and, and_true, false_imp_iff, implies_true]

end Route

namespace Endpoint

open Url (KeepsPlace IsSegment pushSegment popIfEmpty root withoutLastEmpty)

variable {e : Endpoint} {r r' : Route}

/-- The segments of a route, encoded. -/
def encoded (e : Endpoint) (r : Route) : List (List Char) :=
  r.segments.map fun s => Percent.encode (Percent.segmentSet e.base.isSpecial) s.toList

theorem path_url (e : Endpoint) (r : Route) : (e.url r).path =
    (r.segments.map String.toList).foldl (pushSegment e.base.isSpecial) (popIfEmpty e.base.path) := rfl

theorem decode_encoded (e : Endpoint) (r : Route) : (e.encoded r).map Percent.decode = r.segments.map Utf8.encode := by
  rw [encoded, List.map_map]
  exact List.map_congr_left fun s _ => Url.decode_encode_segment _ _

theorem isSegment_base {s : String} (h : parse s = .ok e) : ∀ t ∈ e.base.path, IsSegment t := by
  rw [parse] at h
  split at h
  · rename_i base hbase
    cases h
    exact Url.isSegment_of_parse hbase
  · cases h

theorem isSegment_url {s : String} (h : parse s = .ok e) (r : Route) : ∀ t ∈ (e.url r).path, IsSegment t :=
  Url.isSegment_foldl (Url.isSegment_popIfEmpty (isSegment_base h)) _

/-- The path below which all addresses of an endpoint lie. -/
def stem (e : Endpoint) : List (List Char) := root (popIfEmpty e.base.path) ++ [['v', '1']]

theorem encode_version (isSpecial : Bool) :
    Percent.encode (Percent.segmentSet isSpecial) ['v', '1'] = ['v', '1'] := by
  cases isSpecial <;> decide

/-- The address of a route: its segments but the first are put behind the stem. -/
theorem path_url_eq (e : Endpoint) {rest : List String} (hr : r.segments = "v1" :: rest) :
    (e.url r).path = (rest.map String.toList).foldl (pushSegment e.base.isSpecial) e.stem := by
  have hversion : KeepsPlace ['v', '1'] := by decide +kernel
  have hpush : pushSegment e.base.isSpecial (popIfEmpty e.base.path) "v1".toList = e.stem := by
    rw [stem, ← encode_version e.base.isSpecial]
    exact Url.pushSegment_of_keepsPlace hversion _
  rw [path_url, hr, List.map_cons, List.foldl_cons, hpush]

theorem path_url_of_keepsPlace (h : ∀ id ∈ r.ids, KeepsPlace id.toList) :
    (e.url r).path = root (popIfEmpty e.base.path) ++ e.encoded r := by
  obtain ⟨rest, hr⟩ := r.exists_segments
  have hkeeps := Route.keepsPlace_segments_iff.2 h
  rw [hr] at hkeeps
  have hstem : e.stem ≠ [] ∧ e.stem ≠ [[]] := by
    rw [stem]
    cases root (popIfEmpty e.base.path) <;> simp
  rw [path_url_eq e hr, Url.foldl_of_keepsPlace (by simpa using fun s hs => hkeeps s (List.mem_cons_of_mem _ hs)) hstem,
    stem, encoded, hr, List.map_cons, List.append_assoc, List.map_map]
  congr 1
  rw [List.singleton_append]
  congr 1
  exact (encode_version _).symm

/-- Every segment comes out behind the endpoint's path exactly if it keeps its place. -/
theorem names_iff {s : String} (h : parse s = .ok e) (r : Route) :
    (∃ segs, Text.parts '/' (e.url r).pathChars = [] :: (withoutLastEmpty e.base.path ++ segs) ∧
      segs.map Percent.decode = r.segments.map Utf8.encode) ↔
    (∀ id ∈ r.ids, KeepsPlace id.toList) ∧ e.base.path ≠ [[], []] := by
  rw [Url.parts_pathChars (isSegment_url h r)]
  constructor
  · rintro ⟨segs, hpath, hsegs⟩
    have hpath := (List.cons.inj hpath).2
    obtain ⟨rest, hr⟩ := r.exists_segments
    rw [path_url_eq e hr] at hpath
    rw [hr, List.map_cons, List.map_eq_cons_iff] at hsegs
    obtain ⟨first, segs, rfl, -, hsegs⟩ := hsegs
    have hcount := congrArg List.length hsegs
    rw [List.length_map, List.length_map] at hcount
    have hne : e.base.path ≠ [[], []] := by
      intro htwo
      have hbound := Url.length_foldl_le e.base.isSpecial e.stem (rest.map String.toList)
      rw [hpath, stem, htwo, List.length_map] at hbound
      simp [withoutLastEmpty, popIfEmpty, root] at hbound
      omega
    have hstem : (withoutLastEmpty e.base.path ++ [first]).length = e.stem.length := by
      rw [stem, Url.root_popIfEmpty hne, List.length_append, List.length_append]
      rfl
    have hbytes : segs.map Percent.decode = (rest.map String.toList).map Url.bytesOf := by
      rw [hsegs, List.map_map]
      rfl
    have hkeeps := Url.keepsPlace_of_foldl (by simp [stem]) (hpath.trans (List.append_cons _ _ _)) hstem hbytes
    rw [List.forall_mem_map] at hkeeps
    refine ⟨Route.keepsPlace_segments_iff.1 ?_, hne⟩
    rw [hr]
    exact List.forall_mem_cons.2 ⟨by decide +kernel, hkeeps⟩
  · rintro ⟨hkeeps, hne⟩
    refine ⟨e.encoded r, ?_, decode_encoded e r⟩
    rw [path_url_of_keepsPlace hkeeps, Url.root_popIfEmpty hne]

/-- The addresses of two routes whose ids keep their places are the same only if the routes are. -/
theorem bare_eq_of_render_eq {s : String} (h : parse s = .ok e) (hr : ∀ id ∈ r.ids, KeepsPlace id.toList)
    (hr' : ∀ id ∈ r'.ids, KeepsPlace id.toList) (hrender : (e.url r).render = (e.url r').render) : r.bare = r'.bare := by
  have hpath := path_url_of_keepsPlace (e := e) hr
  have hpath' := path_url_of_keepsPlace (e := e) hr'
  have hversion (r : Route) : ∃ rest, e.encoded r = ['v', '1'] :: rest := by
    obtain ⟨rest, hrest⟩ := r.exists_segments
    exact ⟨_, by rw [encoded, hrest, List.map_cons]; exact congrArg (· :: _) (encode_version _)⟩
  obtain ⟨rest, hrest⟩ := hversion r
  obtain ⟨rest', hrest'⟩ := hversion r'
  have hscheme : (e.url r).scheme = (e.url r').scheme := rfl
  have hauthority : (e.url r).authority = (e.url r').authority := rfl
  have hne : ['v', '1'] ≠ [] := List.cons_ne_nil _ _
  have hguard : (e.url r).pathGuard = (e.url r').pathGuard :=
    Url.pathGuard_eq hauthority hne (hpath.trans (by rw [hrest])) (hpath'.trans (by rw [hrest']))
  have hsame := Url.path_eq_of_render_eq hscheme hauthority hguard (isSegment_url h r) (isSegment_url h r') hrender
  rw [hpath, hpath', List.append_cancel_left_eq] at hsame
  have hdecoded := congrArg (List.map Percent.decode) hsame
  rw [decode_encoded, decode_encoded] at hdecoded
  exact Route.bare_eq_of_segments_eq ((List.map_inj_right fun _ _ h => Utf8.encode_injective h).1 hdecoded)

/-- **Where an id has its place in the address.**  The address of a route has the scheme and the authority of the
endpoint, and the query of the route alone.  The path is the endpoint's, less one empty segment at its end, with a
segment behind it for each of the route's that is decoded to it, exactly if every id keeps its place and the endpoint's
path is not two empty segments.  Where the ids of two routes keep their places, one address is that of one route with
the same ids. -/
theorem url_names_the_route_iff {s : String} (h : parse s = .ok e) (r : Route) :
    ((e.url r).scheme = e.base.scheme ∧ (e.url r).authority = e.base.authority ∧
      (e.url r).query = if r.query.isEmpty then none else some (Form.encode r.query)) ∧
    ((∃ segs, Text.parts '/' (e.url r).pathChars = [] :: (withoutLastEmpty e.base.path ++ segs) ∧
        segs.map Percent.decode = r.segments.map Utf8.encode) ↔
      (∀ id ∈ r.ids, KeepsPlace id.toList) ∧ e.base.path ≠ [[], []]) ∧
    ∀ r' : Route, (∀ id ∈ r.ids, KeepsPlace id.toList) → (∀ id ∈ r'.ids, KeepsPlace id.toList) →
      (e.url r).render = (e.url r').render → r.bare = r'.bare :=
  ⟨⟨rfl, rfl, rfl⟩, names_iff h r, fun _ hr hr' => bare_eq_of_render_eq h hr hr'⟩

/-- Below an endpoint with a path: an id that looks like a path is one segment, and is not what it looks like. -/
theorem an_id_with_slashes_is_one_segment :
    let e : Endpoint :=
      { base := { scheme := "http".toList
                  authority := some { host := "[::1]".toList, port := some 8080 }
                  path := ["api".toList, []] } }
    let r : Route := .owner "a/../b" "%2E"
    parse "http://[::1]:8080/api/" = .ok e ∧
      (∃ segs, Text.parts '/' (e.url r).pathChars = [] :: (["api".toList] ++ segs) ∧
        segs.map Percent.decode = ["v1", "assets", "a/../b", "owners", "%2E"].map Utf8.encode) ∧
      (e.url r).render ≠ (e.url (.owner "b" "%2E")).render := by
  intro e r
  have h : parse "http://[::1]:8080/api/" = .ok e := by decide +kernel
  obtain ⟨-, hnames, honly⟩ := url_names_the_route_iff h r
  refine ⟨h, hnames.2 (by decide +kernel), fun hsame => ?_⟩
  have hbare : r.bare = (Route.owner "b" "%2E").bare := honly _ (by decide +kernel) (by decide +kernel) hsame
  revert hbare
  decide

/-- A dot for an id is left out of the address, which is then that of all teams; a tab in one is left out too, and the
address is that of another team. -/
theorem url_loses_a_dot_and_a_tab :
    let e : Endpoint :=
      { base := { scheme := "http".toList, authority := some { host := "[::1]".toList }, path := [[]] } }
    parse "http://[::1]" = .ok e ∧ (e.url (.team ".")).render = (e.url (.teams none .all)).render ∧
      (e.url (.team "a\tb")).render = (e.url (.team "ab")).render := by
  intro e
  exact ⟨by decide +kernel, by decide +kernel, by decide +kernel⟩

end Endpoint

end AssetGraph
