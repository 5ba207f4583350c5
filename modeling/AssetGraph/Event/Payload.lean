import AssetGraph.Json.Record
/-!
# Payloads

The body of an event about an asset that exists.  Type, identifier, team and annotations decide what
happens to the graph; the other fields are read and kept.  Every field may be left out and is then
empty, so that a payload of a later form still reads.
-/
namespace AssetGraph

open Json (Fault ofText ofFields asText asBool asList)

/-- **A note on an asset**: a key and a value of free form. -/
structure Annotation where
  key : String := ""
  value : String := ""
deriving DecidableEq, Repr

/-- The team that a payload names, under its identifier in the world outside. -/
structure PayloadTeam where
  id : String := ""
  name : String := ""
  description : String := ""
  tag : String := ""
deriving DecidableEq, Repr

structure Payload where
  id : String := ""
  team : PayloadTeam := {}
  aliasName : String := ""
  rolfp : String := ""
  scannable : Bool := false
  assetType : String := ""
  identifier : String := ""
  annotations : List Annotation := []
deriving DecidableEq, Repr

namespace Annotation

def fieldNames : List String := ["key", "value"]

def toJson (a : Annotation) : Json := ofFields [("key", ofText a.key), ("value", ofText a.value)]

def ofJson (j : Json) : Except Fault Annotation := do
  let r ← Json.record fieldNames j
  let key ← r.orElse "key" "" asText
  let value ← r.orElse "value" "" asText
  pure { key, value }

end Annotation

namespace PayloadTeam

def fieldNames : List String := ["id", "name", "description", "tag"]

def toJson (t : PayloadTeam) : Json :=
  ofFields [("id", ofText t.id), ("name", ofText t.name), ("description", ofText t.description),
    ("tag", ofText t.tag)]

def ofJson (j : Json) : Except Fault PayloadTeam := do
  let r ← Json.record fieldNames j
  let id ← r.orElse "id" "" asText
  let name ← r.orElse "name" "" asText
  let description ← r.orElse "description" "" asText
  let tag ← r.orElse "tag" "" asText
  pure { id, name, description, tag }

end PayloadTeam

namespace Payload

/-- The values of the annotations with a key, in their order. -/
def valuesOf (p : Payload) (key : String) : List String :=
  (p.annotations.filter fun a => a.key == key).map (·.value)

def fieldNames : List String :=
  ["id", "team", "alias", "rolfp", "scannable", "asset_type", "identifier", "annotations"]

def toJson (p : Payload) : Json :=
  ofFields [("id", ofText p.id), ("team", p.team.toJson), ("alias", ofText p.aliasName),
    ("rolfp", ofText p.rolfp), ("scannable", .bool p.scannable), ("asset_type", ofText p.assetType),
    ("identifier", ofText p.identifier), ("annotations", .array (p.annotations.map (·.toJson)))]

def ofJson (j : Json) : Except Fault Payload := do
  let r ← Json.record fieldNames j
  let id ← r.orElse "id" "" asText
  let team ← r.orElse "team" {} PayloadTeam.ofJson
  let aliasName ← r.orElse "alias" "" asText
  let rolfp ← r.orElse "rolfp" "" asText
  let scannable ← r.orElse "scannable" false asBool
  let assetType ← r.orElse "asset_type" "" asText
  let identifier ← r.orElse "identifier" "" asText
  let annotations ← r.orElse "annotations" [] (asList Annotation.ofJson)
  pure { id, team, aliasName, rolfp, scannable, assetType, identifier, annotations }

/-- **The payload that a JSON text stands for.** -/
def decode (s : Bytes) : Except Fault Payload := Json.decodeWith ofJson s

/-- **The JSON text of a payload.** -/
def encode (p : Payload) : Bytes := p.toJson.render

end Payload

end AssetGraph
