import AssetGraph.Graph.Call
import AssetGraph.Instant.Rfc3339
import AssetGraph.Url.Parser
/-!
# Addresses of the inventory

Where an inventory keeps what a call asks for.  An `Endpoint` is the URL that all addresses lie below; a
`Route` is what is addressed.  Its segments are put behind the endpoint's path, each encoded as one,
and its filters make the query; the endpoint's own query is left out.
-/
namespace AssetGraph

/-- **What is addressed below an endpoint.** -/
inductive Route where
  | teams (identifier : Option String) (page : Pagination)
  | team (id : String)
  | assets (filter : AssetFilter) (page : Pagination)
  | asset (id : String)
  | owners (assetId : String) (page : Pagination)
  | owner (assetId teamId : String)
  | parents (assetId : String) (page : Pagination)
  | parent (childId parentId : String)
  | children (assetId : String) (page : Pagination)
deriving DecidableEq, Repr

namespace Route

/-- **The segments of a route**, ids as they are given. -/
def segments : Route → List String
  | teams .. => ["v1", "teams"]
  | team id => ["v1", "teams", id]
  | assets .. => ["v1", "assets"]
  | asset id => ["v1", "assets", id]
  | owners assetId _ => ["v1", "assets", assetId, "owners"]
  | owner assetId teamId => ["v1", "assets", assetId, "owners", teamId]
  | parents assetId _ => ["v1", "assets", assetId, "parents"]
  | parent childId parentId => ["v1", "assets", childId, "parents", parentId]
  | children assetId _ => ["v1", "assets", assetId, "children"]

/-- A filter that is set. -/
def pair (name : String) (value : Option String) : List (String × String) :=
  (value.map (name, ·)).toList

/-- **The query of a route.** -/
def query : Route → List (String × String)
  | teams identifier page => pair "team_identifier" identifier ++ page.query
  | assets f page =>
    pair "asset_type" f.type ++ pair "asset_identifier" f.identifier ++
      pair "valid_at" (f.validAt.map (·.renderSeconds)) ++ page.query
  | owners _ page => page.query
  | parents _ page => page.query
  | children _ page => page.query
  | team _ => []
  | asset _ => []
  | owner .. => []
  | parent .. => []

end Route

/-- **The URL that an inventory's addresses lie below.** -/
structure Endpoint where
  base : Url
deriving DecidableEq, Repr

namespace Endpoint

/-- The endpoint that a text names. -/
def parse (s : String) : Except GraphError Endpoint :=
  match Url.parse s with
  | .ok base => .ok { base }
  | .error e => .error (.invalidEndpoint s!"{s}: {e.message}")

/-- **The address of a route.** -/
def url (e : Endpoint) (r : Route) : Url :=
  (e.base.addSegments (r.segments.map String.toList)).setQuery r.query

end Endpoint

end AssetGraph
