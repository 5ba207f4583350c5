import AssetGraph.Text.Decimal
import AssetGraph.Text.Utf8
/-!
# Messages

What a topic holds: a key, a value or none (a *tombstone*), metadata entries in the order in which
they came, and the position in the topic.
-/
namespace AssetGraph

/-- **Where a message lies.** -/
structure Position where
  topic : String
  partition : Int := 0
  offset : Int := 0
deriving DecidableEq, Repr

/-- The position as messages write it. -/
def Position.text (p : Position) : String :=
  s!"{p.topic}[{Decimal.signedText p.partition}]@{Decimal.signedText p.offset}"

structure Message where
  key : Bytes := []
  value : Option Bytes := none
  metadata : List (String × Bytes) := []
  position : Position
deriving DecidableEq, Repr

namespace Message

/-- A message that says that something is gone. -/
def isTombstone (m : Message) : Bool := m.value.isNone

/-- **The value of the last metadata entry with a key.** -/
def metadataValue? (m : Message) (key : String) : Option Bytes :=
  (m.metadata.reverse.find? (·.1 == key)).map (·.2)

theorem metadataValue?_eq_none_iff {m : Message} {key : String} :
    m.metadataValue? key = none ↔ ∀ e ∈ m.metadata, e.1 ≠ key := by
  simp [metadataValue?]

end Message

end AssetGraph
