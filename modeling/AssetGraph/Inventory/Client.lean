import AssetGraph.Entity.Record
import AssetGraph.Graph.Request
import AssetGraph.Inventory.Routes
/-!
# An inventory behind HTTP

How a call becomes a request, and its response an answer.  Each call sends one request; the status
decides whether there is an answer at all, and the body what it is.  Without a response there is
neither.
-/
namespace AssetGraph

namespace Http

inductive Verb where
  | get | post | put
deriving DecidableEq, Repr

def Verb.text : Verb → String
  | get => "GET"
  | post => "POST"
  | put => "PUT"

/-- **A request**, with a JSON body or none. -/
structure Request where
  verb : Verb
  url : Url
  body : Option Json := none

structure Response where
  status : Nat
  body : Bytes
deriving DecidableEq, Repr

/-- Path and query, as they are sent. -/
def Request.target (r : Request) : String := String.ofList (r.url.pathChars ++ r.url.queryChars)

def Request.contentType (r : Request) : Option String := r.body.map fun _ => "application/json"

def Request.bodyBytes (r : Request) : Bytes := (r.body.map Json.render).getD []

end Http

open Http

namespace Call

def route : Call → Route
  | teams identifier page => .teams identifier page
  | createTeam _ => .teams none .all
  | updateTeam id _ => .team id
  | assets f page => .assets f page
  | createAsset _ => .assets {} .all
  | updateAsset id _ => .asset id
  | owners assetId page => .owners assetId page
  | upsertOwner assetId teamId _ => .owner assetId teamId
  | parents assetId page => .parents assetId page
  | children assetId page => .children assetId page
  | upsertParent childId parentId _ => .parent childId parentId

def verb (c : Call) : Http.Verb :=
  match c.method with
  | .createTeam | .createAsset => .post
  | .updateTeam | .updateAsset | .upsertOwner | .upsertParent => .put
  | .teams | .assets | .owners | .parents | .children => .get

/-- What a call sends along. -/
def body : Call → Option Json
  | createTeam r => some r.toJson
  | updateTeam _ r => some r.toJson
  | createAsset r => some r.toJson
  | updateAsset _ r => some r.toJson
  | upsertOwner _ _ r => some r.toJson
  | upsertParent _ _ r => some r.toJson
  | _ => none

/-- **The statuses that mean success.** -/
def successes (c : Call) : List Nat :=
  match c.method with
  | .createTeam | .createAsset => [201]
  | .upsertOwner | .upsertParent => [200, 201]
  | _ => [200]

/-- **The answer that a body holds.** -/
def decode : (c : Call) → Bytes → Except Json.Fault c.Answer
  | teams .. => Json.decodeWith (Json.asList Team.ofJson)
  | createTeam .. => Json.decodeWith Team.ofJson
  | updateTeam .. => Json.decodeWith Team.ofJson
  | assets .. => Json.decodeWith (Json.asList Asset.ofJson)
  | createAsset .. => Json.decodeWith Asset.ofJson
  | updateAsset .. => Json.decodeWith Asset.ofJson
  | owners .. => Json.decodeWith (Json.asList Owns.ofJson)
  | upsertOwner .. => Json.decodeWith Owns.ofJson
  | parents .. => Json.decodeWith (Json.asList ParentOf.ofJson)
  | children .. => Json.decodeWith (Json.asList ParentOf.ofJson)
  | upsertParent .. => Json.decodeWith ParentOf.ofJson

end Call

namespace Endpoint

/-- **The request of a call.** -/
def request (e : Endpoint) (c : Call) : Request :=
  { verb := c.verb, url := e.url c.route, body := c.body }

def unanswered (u : Url) : GraphError :=
  .transport s!"error sending request for url ({u.render})"

def undecodable (u : Url) : GraphError :=
  .malformed s!"Invalid response from {u.render}: error decoding response body"

/-- **What a call is answered with**, by its response. -/
def answer (e : Endpoint) (c : Call) : Option Response → Except GraphError c.Answer
  | none => .error (unanswered (e.request c).url)
  | some r =>
    let url := (e.request c).url
    if c.successes.contains r.status then
      match c.decode r.body with
      | .ok a => .ok a
      | .error _ => .error (undecodable url)
    else if r.status = 404 then .error (.notFound url.pathText)
    else if r.status = 409 then .error (.alreadyExists url.pathText)
    else .error (.unexpectedStatus c.successes r.status)

/-- **A call through a transport**: the requests that were sent, and the answer. -/
def call (e : Endpoint) (transport : Request → Option Response) (c : Call) :
    List Request × Except GraphError c.Answer :=
  let request := e.request c
  ([request], e.answer c (transport request))

end Endpoint

end AssetGraph
