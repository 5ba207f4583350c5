import AssetGraph.Text.Decimal
import AssetGraph.Text.Split
/-!
# Versions

The version that an event carries: an optional `v` and parts separated by dots, three at least.  Only
the first part counts; what the others hold, a label of a preliminary release for instance, does not.
-/
namespace AssetGraph.Version

/-- One leading `v` less. -/
def withoutMark : List Char → List Char
  | 'v' :: cs => cs
  | cs => cs

/-- The number that leads a version of three parts or more. -/
def major? (cs : List Char) : Option Nat :=
  match Text.parts '.' (withoutMark cs) with
  | lead :: _ :: _ :: _ => Decimal.bounded? Decimal.limit64 lead
  | _ => none

/-- **Whether a version is of the given major one.** -/
def isSupported (major : Nat) (version : String) : Bool := major? version.toList == some major

theorem isSupported_iff {major : Nat} {version : String} :
    isSupported major version = true ↔ major? version.toList = some major := by
  simp [isSupported]

end AssetGraph.Version
