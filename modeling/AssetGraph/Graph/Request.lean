import AssetGraph.Graph.Call
import AssetGraph.Json.Record
/-!
# Requests as records

The JSON form of what a call asks for.  What is not set is left out.
-/
namespace AssetGraph

open Json (ofText ofInstant ofFields optionalField)

def AssetRequest.toJson (r : AssetRequest) : Json :=
  ofFields ([("type", ofText r.key.type), ("identifier", ofText r.key.identifier)] ++
    optionalField "timestamp" ofInstant r.timestamp ++ [("expiration", ofInstant r.expiration)])

def TeamRequest.toJson (r : TeamRequest) : Json :=
  ofFields [("identifier", ofText r.identifier), ("name", ofText r.name)]

def OwnsRequest.toJson (r : OwnsRequest) : Json :=
  ofFields (("start_time", ofInstant r.startTime) ::
    optionalField "end_time" ofInstant r.endTime)

def ParentOfRequest.toJson (r : ParentOfRequest) : Json :=
  ofFields (optionalField "timestamp" ofInstant r.timestamp ++
    [("expiration", ofInstant r.expiration)])

end AssetGraph
