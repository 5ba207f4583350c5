import AssetGraph.Text.Split
import AssetGraph.Url.Percent
/-!
# Form encoding

Pairs of names and values as the query of a URL: joined by ampersands, each with an equals sign in the
middle; a space becomes a plus sign, and letters, digits, `*`, `-`, `.` and `_` stand for themselves.
`decode?` reads such a query.
-/
namespace AssetGraph.Form

/-- The characters that stand for themselves. -/
def isBare (c : Char) : Bool := c.isAlphanum || c == '*' || c == '-' || c == '.' || c == '_'

def encodeChar (c : Char) : List Char :=
  if c = ' ' then ['+'] else Percent.encodeChar (!isBare ·) c

def encodeText (cs : List Char) : List Char := cs.flatMap encodeChar

def encodePair (p : String × String) : List Char :=
  encodeText p.1.toList ++ '=' :: encodeText p.2.toList

/-- **The query of a list of pairs.** -/
def encode (pairs : List (String × String)) : List Char := Text.join '&' (pairs.map encodePair)

/-- A plus sign stands for a space. -/
def plusToSpace (cs : List Char) : List Char := cs.map fun c => if c = '+' then ' ' else c

def decodeText? (cs : List Char) : Option String :=
  Utf8.decode? (Percent.decode (plusToSpace cs))

/-- What is in front of the first equals sign, and what is behind it. -/
def decodePair? (cs : List Char) : Option (String × String) := do
  let name ← decodeText? (cs.takeWhile (· != '='))
  let value ← decodeText? ((cs.dropWhile (· != '=')).drop 1)
  pure (name, value)

/-- **The pairs of a query**; stretches that hold nothing are passed over. -/
def decode? (query : List Char) : Option (List (String × String)) :=
  ((Text.parts '&' query).filter (!·.isEmpty)).mapM decodePair?

end AssetGraph.Form
