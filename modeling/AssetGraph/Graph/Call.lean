import AssetGraph.Entity.Basic
import AssetGraph.Pagination
/-!
# Calls

What can be asked of a graph, wherever it is kept: listings, creation and update of assets and teams,
and the two kinds of edge, which are set whether they exist or not.  `Call.Answer` is what each call
is answered with, `GraphError` why it is not.
-/
namespace AssetGraph

/-- **Which assets a listing holds.**  What is not set does not filter. -/
structure AssetFilter where
  type : Option String := none
  identifier : Option String := none
  /-- Only assets that are live then. -/
  validAt : Option Instant := none
deriving DecidableEq, Repr

/-- The one asset with a key, live or not. -/
def AssetFilter.byKey (k : AssetKey) : AssetFilter :=
  { type := some k.type, identifier := some k.identifier }

/-- What an asset shall be: with a timestamp it is seen then. -/
structure AssetRequest where
  key : AssetKey
  timestamp : Option Instant
  expiration : Instant
deriving DecidableEq, Repr

structure TeamRequest where
  identifier : String
  name : String
deriving DecidableEq, Repr

structure OwnsRequest where
  startTime : Instant
  endTime : Option Instant
deriving DecidableEq, Repr

structure ParentOfRequest where
  timestamp : Option Instant
  expiration : Instant
deriving DecidableEq, Repr

/-- **A call to a graph.** -/
inductive Call : Type where
  | teams (identifier : Option String) (page : Pagination)
  | createTeam (request : TeamRequest)
  | updateTeam (id : String) (request : TeamRequest)
  | assets (filter : AssetFilter) (page : Pagination)
  | createAsset (request : AssetRequest)
  | updateAsset (id : String) (request : AssetRequest)
  | owners (assetId : String) (page : Pagination)
  | upsertOwner (assetId teamId : String) (request : OwnsRequest)
  | parents (assetId : String) (page : Pagination)
  | children (assetId : String) (page : Pagination)
  | upsertParent (childId parentId : String) (request : ParentOfRequest)
deriving DecidableEq, Repr

namespace Call

/-- **What a call is answered with.** -/
@[reducible] def Answer : Call → Type
  | teams .. => List Team
  | createTeam .. => Team
  | updateTeam .. => Team
  | assets .. => List Asset
  | createAsset .. => Asset
  | updateAsset .. => Asset
  | owners .. => List Owns
  | upsertOwner .. => Owns
  | parents .. => List ParentOf
  | children .. => List ParentOf
  | upsertParent .. => ParentOf

/-- The kind of a call, whatever it asks for. -/
inductive Method where
  | teams | createTeam | updateTeam | assets | createAsset | updateAsset
  | owners | upsertOwner | parents | children | upsertParent
deriving DecidableEq, Repr

def method : Call → Method
  | teams .. => .teams
  | createTeam .. => .createTeam
  | updateTeam .. => .updateTeam
  | assets .. => .assets
  | createAsset .. => .createAsset
  | updateAsset .. => .updateAsset
  | owners .. => .owners
  | upsertOwner .. => .upsertOwner
  | parents .. => .parents
  | children .. => .children
  | upsertParent .. => .upsertParent

/-- A call that only reads. -/
def isListing : Call → Bool
  | teams .. | assets .. | owners .. | parents .. | children .. => true
  | _ => false

end Call

/-- **Why a call is not answered.** -/
inductive GraphError where
  | notFound (what : String)
  | alreadyExists (what : String)
  | unexpectedStatus (expected : List Nat) (returned : Nat)
  | transport (reason : String)
  | malformed (reason : String)
  | invalidEndpoint (reason : String)
deriving DecidableEq, Repr

namespace GraphError

def message : GraphError → String
  | notFound what => s!"Not found: {what}"
  | alreadyExists what => s!"Already exists: {what}"
  | unexpectedStatus expected returned =>
    let codes := ", ".intercalate (expected.map Decimal.text)
    s!"Invalid status response code {Decimal.text returned}, expected [{codes}]"
  | transport reason => s!"HTTP error: {reason}"
  | malformed reason => s!"Parse error: {reason}"
  | invalidEndpoint reason => s!"Invalid endpoint: {reason}"

def isNotFound : GraphError → Bool
  | notFound _ => true
  | _ => false

end GraphError

end AssetGraph
