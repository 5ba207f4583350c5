import AssetGraph.Text.Decimal
import AssetGraph.Text.Split
import AssetGraph.Url.Form
/-!
# URLs

A URL with a path of segments, each kept in its encoded form.  `render` writes it; `addSegments` and
`setQuery` build the address of something below it.  A segment never holds a slash, so the path that
is written splits into the segments that were put in.
-/
namespace AssetGraph

/-- **Who serves a URL.**  All parts are in their encoded form. -/
structure Authority where
  /-- What stands in front of the at sign. -/
  userinfo : List Char := []
  host : List Char
  port : Option Nat := none
deriving DecidableEq, Repr

/-- **A URL.** -/
structure Url where
  scheme : List Char
  authority : Option Authority
  path : List (List Char)
  query : Option (List Char) := none
  fragment : Option (List Char) := none
deriving DecidableEq, Repr

/-- The schemes whose URLs have an authority and a path by nature. -/
def isSpecialScheme (scheme : List Char) : Bool :=
  [['h', 't', 't', 'p'], ['h', 't', 't', 'p', 's'], ['w', 's'], ['w', 's', 's'], ['f', 't', 'p'],
    ['f', 'i', 'l', 'e']].contains scheme

/-- The port that goes without saying. -/
def defaultPort? (scheme : List Char) : Option Nat :=
  List.lookup scheme
    [(['h', 't', 't', 'p'], 80), (['w', 's'], 80), (['h', 't', 't', 'p', 's'], 443),
      (['w', 's', 's'], 443), (['f', 't', 'p'], 21)]

namespace Authority

def render (a : Authority) : List Char :=
  (if a.userinfo.isEmpty then [] else a.userinfo ++ ['@']) ++ a.host ++
    match a.port with
    | some p => ':' :: Decimal.digits p
    | none => []

end Authority

namespace Url

def isSpecial (u : Url) : Bool := isSpecialScheme u.scheme

/-- The path as it is written: a slash in front of each segment. -/
def pathChars (u : Url) : List Char := u.path.flatMap ('/' :: ·)

/-- What keeps a path without an authority from looking like one with. -/
def pathGuard (u : Url) : List Char :=
  match u.authority, u.path with
  | none, [] :: _ :: _ => ['/', '.']
  | _, _ => []

def authorityChars (u : Url) : List Char :=
  match u.authority with
  | some a => '/' :: '/' :: a.render
  | none => []

def queryChars (u : Url) : List Char :=
  match u.query with
  | some q => '?' :: q
  | none => []

def fragmentChars (u : Url) : List Char :=
  match u.fragment with
  | some f => '#' :: f
  | none => []

/-- **The written form.** -/
def renderChars (u : Url) : List Char :=
  u.scheme ++ ':' ::
    (u.authorityChars ++ u.pathGuard ++ u.pathChars ++ u.queryChars ++ u.fragmentChars)

def render (u : Url) : String := String.ofList u.renderChars

/-- The path alone. -/
def pathText (u : Url) : String := String.ofList u.pathChars

/-! ## Paths -/

/-- Tabs and line ends, which a URL does not hold. -/
def isIgnored (c : Char) : Bool := c == '\t' || c == '\n' || c == '\r'

/-- A segment that stands for the path itself, with its dot encoded or not. -/
def isSingleDot (cs : List Char) : Bool :=
  [['.'], ['%', '2', 'e']].contains (cs.map Char.toLower)

/-- A segment that stands for the path above. -/
def isDoubleDot (cs : List Char) : Bool :=
  [['.', '.'], ['.', '%', '2', 'e'], ['%', '2', 'e', '.'],
    ['%', '2', 'e', '%', '2', 'e']].contains (cs.map Char.toLower)

/-- The name of a drive: a letter and a colon or a bar. -/
def isDrive : List Char → Bool
  | [c, d] => c.isAlpha && (d == ':' || d == '|')
  | _ => false

/-- The path above; a drive has none. -/
def parentPath (path : List (List Char)) : List (List Char) :=
  if path.getLast?.any isDrive then path else path.dropLast

/-- A path without an empty segment at its end, unless it has no other. -/
def popIfEmpty (path : List (List Char)) : List (List Char) :=
  if 1 < path.length && path.getLast? == some [] then path.dropLast else path

/-- **Appends a segment**, encoding it.  A single or double dot is passed over, but not one that comes
about as tabs and line ends are taken out: that leaves an empty segment, here or in place of the last
one.  An empty path takes the segment in place of its own. -/
def pushSegment (isSpecial : Bool) (path : List (List Char)) (segment : List Char) :
    List (List Char) :=
  if segment == ['.'] || segment == ['.', '.'] then path
  else
    let encoded := Percent.encode (Percent.segmentSet isSpecial) (segment.filter (!isIgnored ·))
    let base := if path == [[]] then [] else path
    if isDoubleDot encoded then parentPath base ++ [[]]
    else if isSingleDot encoded then base ++ [[]]
    else base ++ [encoded]

/-- **The URL with segments below its path.** -/
def addSegments (u : Url) (segments : List (List Char)) : Url :=
  { u with path := segments.foldl (pushSegment u.isSpecial) (popIfEmpty u.path) }

/-- **The URL with a query of pairs**, or none if there are none. -/
def setQuery (u : Url) (pairs : List (String × String)) : Url :=
  { u with query := if pairs.isEmpty then none else some (Form.encode pairs) }

end Url

end AssetGraph
