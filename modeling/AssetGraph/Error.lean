import AssetGraph.Event.Message
import AssetGraph.Graph.Call
import AssetGraph.Json.Record
import AssetGraph.Text.Quoted
/-!
# Errors of the ingest

What can go wrong between a message and the graph, by its cause, and the text that each cause is shown
with.  Where a payload is no JSON record the text ends in what `detail` says about the fault.
-/
namespace AssetGraph

/-- **Why a message is no event.** -/
inductive ParseFault where
  | metadataText (name : String) (fault : Utf8.Fault)
  | payload (asset : AssetKey) (fault : Json.Fault)
  | emptyField (field : String)
  | keyText (fault : Utf8.Fault)
  | keyShape (text : String)
  | stated (reason : String)
deriving DecidableEq, Repr

def ParseFault.messageWith (detail : Json.Fault → String) : ParseFault → String
  | metadataText name fault => s!"metadata {name} is not UTF-8: {fault.message}"
  | payload asset fault =>
    let shown := detail fault
    s!"could not decode asset {asset.text}: {shown}"
  | emptyField field => s!"asset payload without {field}"
  | keyText fault => s!"message key is not UTF-8: {fault.message}"
  | keyShape text =>
    let shown := Text.quoted text
    s!"invalid message key: {shown}"
  | stated reason => reason

/-- What a key is the key of. -/
inductive EntityKind where
  | asset | team
deriving DecidableEq, Repr

def EntityKind.text : EntityKind → String
  | asset => "asset"
  | team => "team"

/-- **Why a message is not, or not wholly, in the graph.** -/
inductive IngestError where
  | broker (reason : String)
  | missingMetadata (key : String)
  | parse (fault : ParseFault)
  | invalidAccount (account : String)
  | duplicated (kind : EntityKind) (key : String)
  | graph (error : GraphError)
  | processing (position : Position) (source : IngestError)
deriving DecidableEq, Repr

def IngestError.messageWith (detail : Json.Fault → String) : IngestError → String
  | broker reason => s!"Kafka error: {reason}"
  | missingMetadata key => s!"Missing metadata: {key}"
  | parse fault =>
    let shown := fault.messageWith detail
    s!"Parse error: {shown}"
  | invalidAccount account => s!"Invalid AWS account: {account}"
  | duplicated kind key => s!"Duplicated {kind.text}: {key}"
  | graph error => s!"Graph store error: {error.message}"
  | processing position source =>
    let shown := source.messageWith detail
    s!"Error processing message at {position.text}: {shown}"

/-- **The text of an error.** -/
def IngestError.message (e : IngestError) : String := e.messageWith Json.Fault.message

/-- The error of a graph that lacks what was asked for. -/
def IngestError.isNotFound : IngestError → Bool
  | graph error => error.isNotFound
  | _ => false

/-- **Why a configuration is refused.** -/
inductive ConfigFault where
  | required (name : String)
  | invalid (name value : String)
  | inventory (error : GraphError)
  | logLevel (detail : String)
  | stated (reason : String)
deriving DecidableEq, Repr

def ConfigFault.message : ConfigFault → String
  | required name => s!"{name} is required"
  | invalid name value =>
    let shown := Text.quoted value
    s!"{name} has an invalid value: {shown}"
  | inventory error => s!"Failed to create inventory client: {error.message}"
  | logLevel detail => s!"Invalid log level: {detail}"
  | stated reason => reason

/-- **Why the indexer stops.** -/
inductive IndexingError where
  | config (fault : ConfigFault)
  | ingest (error : IngestError)
deriving DecidableEq, Repr

def IndexingError.messageWith (detail : Json.Fault → String) : IndexingError → String
  | config fault => s!"Configuration error: {fault.message}"
  | ingest error =>
    let shown := error.messageWith detail
    s!"Ingest error: {shown}"

def IndexingError.message (e : IndexingError) : String := e.messageWith Json.Fault.message

end AssetGraph
