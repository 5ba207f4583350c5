import AssetGraph.Entity.Basic
import AssetGraph.Json.Record
/-!
# Entities as records

The JSON form of each entity.  Every field is written in the order of its list of names, an end time
only where there is one; every field is wanted when reading, the end time apart, which may also be
`null`.  `T.ofJson` reads what `T.toJson` writes.
-/
namespace AssetGraph

open Json (Fault Record ofText ofInstant ofFields optionalField asText asInstant asOptional)

namespace Asset

def fieldNames : List String :=
  ["id", "type", "identifier", "first_seen", "last_seen", "expiration"]

def toJson (a : Asset) : Json :=
  ofFields [("id", ofText a.id), ("type", ofText a.key.type),
    ("identifier", ofText a.key.identifier), ("first_seen", ofInstant a.firstSeen),
    ("last_seen", ofInstant a.lastSeen), ("expiration", ofInstant a.expiration)]

def ofJson (j : Json) : Except Fault Asset := do
  let r ← Json.record fieldNames j
  let id ← r.require "id" asText
  let type ← r.require "type" asText
  let identifier ← r.require "identifier" asText
  let firstSeen ← r.require "first_seen" asInstant
  let lastSeen ← r.require "last_seen" asInstant
  let expiration ← r.require "expiration" asInstant
  pure { id, key := { type, identifier }, firstSeen, lastSeen, expiration }

end Asset

namespace Team

def fieldNames : List String := ["id", "identifier", "name"]

def toJson (t : Team) : Json :=
  ofFields [("id", ofText t.id), ("identifier", ofText t.identifier), ("name", ofText t.name)]

def ofJson (j : Json) : Except Fault Team := do
  let r ← Json.record fieldNames j
  let id ← r.require "id" asText
  let identifier ← r.require "identifier" asText
  let name ← r.require "name" asText
  pure { id, identifier, name }

end Team

namespace Owns

def fieldNames : List String := ["id", "team_id", "asset_id", "start_time", "end_time"]

def toJson (o : Owns) : Json :=
  ofFields ([("id", ofText o.id), ("team_id", ofText o.teamId), ("asset_id", ofText o.assetId),
    ("start_time", ofInstant o.startTime)] ++ optionalField "end_time" ofInstant o.endTime)

def ofJson (j : Json) : Except Fault Owns := do
  let r ← Json.record fieldNames j
  let id ← r.require "id" asText
  let teamId ← r.require "team_id" asText
  let assetId ← r.require "asset_id" asText
  let startTime ← r.require "start_time" asInstant
  let endTime ← r.orElse "end_time" none (asOptional asInstant)
  pure { id, teamId, assetId, startTime, endTime }

end Owns

namespace ParentOf

def fieldNames : List String :=
  ["id", "parent_id", "child_id", "first_seen", "last_seen", "expiration"]

def toJson (e : ParentOf) : Json :=
  ofFields [("id", ofText e.id), ("parent_id", ofText e.parentId), ("child_id", ofText e.childId),
    ("first_seen", ofInstant e.firstSeen), ("last_seen", ofInstant e.lastSeen),
    ("expiration", ofInstant e.expiration)]

def ofJson (j : Json) : Except Fault ParentOf := do
  let r ← Json.record fieldNames j
  let id ← r.require "id" asText
  let parentId ← r.require "parent_id" asText
  let childId ← r.require "child_id" asText
  let firstSeen ← r.require "first_seen" asInstant
  let lastSeen ← r.require "last_seen" asInstant
  let expiration ← r.require "expiration" asInstant
  pure { id, parentId, childId, firstSeen, lastSeen, expiration }

end ParentOf

end AssetGraph
