import AssetGraph.Text.Utf8
/-!
# JSON trees

A JSON text as a tree whose scalars are still text: a string keeps its bytes between the quotes, a
number its digits.  What a reader has no use for is thus checked for its form only, and a tree is
written back without loss (`render`).
-/
namespace AssetGraph

/-- **A JSON tree with raw scalars.** -/
inductive Json where
  | null
  | bool (value : Bool)
  | number (raw : Bytes)
  | string (raw : Bytes)
  | array (items : List Json)
  | object (members : List (Bytes × Json))
deriving Repr, Inhabited

/-- The byte of an ASCII character. -/
abbrev ascii (c : Char) : UInt8 := UInt8.ofNat c.toNat

/-- The bytes of ASCII characters. -/
def asciiBytes (cs : List Char) : Bytes := cs.map ascii

namespace Json

/-- The compact text of a tree: no blanks, members in their order. -/
def render : Json → Bytes
  | null => asciiBytes ['n', 'u', 'l', 'l']
  | bool true => asciiBytes ['t', 'r', 'u', 'e']
  | bool false => asciiBytes ['f', 'a', 'l', 's', 'e']
  | number raw => raw
  | string raw => ascii '"' :: (raw ++ [ascii '"'])
  | array items => ascii '[' :: (renderItems items ++ [ascii ']'])
  | object members => ascii '\x7b' :: (renderMembers members ++ [ascii '\x7d'])
where
  renderItems : List Json → Bytes
    | [] => []
    | [v] => render v
    | v :: w :: vs => render v ++ ascii ',' :: renderItems (w :: vs)
  renderMembers : List (Bytes × Json) → Bytes
    | [] => []
    | [(k, v)] => ascii '"' :: (k ++ ascii '"' :: ascii ':' :: render v)
    | (k, v) :: m :: ms =>
      ascii '"' :: (k ++ ascii '"' :: ascii ':' :: (render v ++ ascii ',' :: renderMembers (m :: ms)))

end Json

end AssetGraph
