import AssetGraph.Error
import AssetGraph.Event.Payload
import AssetGraph.Event.Version
/-!
# Events

What a message says: that an asset exists and is owned by a team, or that a team has given it up.
`Message.event?` reads it off: version, type and identifier first, then the version gate, then the
payload, or for a tombstone the key.  A message behind the gate is no event and no error.
-/
namespace AssetGraph

/-- A team gives up an asset. -/
structure Retirement where
  asset : AssetKey
  /-- The team's identifier in the world outside the graph. -/
  teamId : String
  /-- The asset's name where the message comes from. -/
  assetId : String
deriving DecidableEq, Repr

/-- **What a message says.** -/
inductive Event where
  | upsert (payload : Payload)
  | retire (retirement : Retirement)
deriving DecidableEq, Repr

def Payload.assetKey (p : Payload) : AssetKey := { type := p.assetType, identifier := p.identifier }

/-- The key of the asset that an event is about. -/
def Event.assetKey : Event → AssetKey
  | .upsert p => p.assetKey
  | .retire r => r.asset

/-- The identifier of the team that an event is about. -/
def Event.teamId : Event → String
  | .upsert p => p.team.id
  | .retire r => r.teamId

namespace Message

/-- The text of the last metadata entry with a key, which must not be empty. -/
def requiredMetadata (m : Message) (key : String) : Except IngestError String :=
  match m.metadataValue? key with
  | none | some [] => .error (.missingMetadata key)
  | some (b :: bs) =>
    match Utf8.decode (b :: bs) with
    | .ok s => .ok s
    | .error fault => .error (.parse (.metadataText key fault))

/-- The first of the fields that key entities which is empty. -/
def emptyField? (p : Payload) : Option String :=
  ([("asset_type", p.assetType), ("identifier", p.identifier), ("team.id", p.team.id)].find?
    (·.2.isEmpty)).map (·.1)

/-- The payload of an asset's event, with the fields that key entities. -/
def payloadOf (asset : AssetKey) (value : Bytes) : Except IngestError Payload :=
  match Payload.decode value with
  | .error fault => .error (.parse (.payload asset fault))
  | .ok p =>
    match emptyField? p with
    | some field => .error (.parse (.emptyField field))
    | none => .ok p

/-- The team and the asset that a key names, with a slash between them. -/
def keyParts (key : Bytes) : Except IngestError (String × String) :=
  match Utf8.decode key with
  | .error fault => .error (.parse (.keyText fault))
  | .ok s =>
    match Text.parts '/' s.toList with
    | [team, asset] => .ok (String.ofList team, String.ofList asset)
    | _ => .error (.parse (.keyShape s))

/-- **The event of a message**, nothing where its version is not of the given major one. -/
def event? (major : Nat) (m : Message) : Except IngestError (Option Event) := do
  let version ← m.requiredMetadata "version"
  let type ← m.requiredMetadata "type"
  let identifier ← m.requiredMetadata "identifier"
  let asset : AssetKey := { type, identifier }
  if !Version.isSupported major version then return none
  match m.value with
  | some value =>
    let p ← payloadOf asset value
    return some (.upsert p)
  | none =>
    let (teamId, assetId) ← keyParts m.key
    return some (.retire { asset, teamId, assetId })

end Message

end AssetGraph
