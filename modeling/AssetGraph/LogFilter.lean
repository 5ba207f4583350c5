import AssetGraph.Text.Blank
import AssetGraph.Text.Split
/-!
# Log filters

What a text may say about which lines are logged: directives with commas between them.  A directive is
a level, or a target, a span in brackets or both, with an equals sign and a level behind it if need be.
-/
namespace AssetGraph.LogFilter

def levels : List String := ["trace", "debug", "info", "warn", "error", "off"]

/-- A level, by its name in any case or by a digit from 0 to 5. -/
def isLevel (cs : List Char) : Bool :=
  levels.contains (String.ofList (cs.map Char.toLower)) ||
    ['0', '1', '2', '3', '4', '5'].any (cs == [·])

def isTargetChar (c : Char) : Bool :=
  c.isAlphanum || c == '_' || c == ':' || c == '-' || (128 ≤ c.toNat && !Text.isBlank c)

/-- What follows a span whose opening bracket is read. -/
def afterSpan? (cs : List Char) : Option (List Char) :=
  match cs.dropWhile (· != ']') with
  | ']' :: rest => some rest
  | _ => none

/-- What follows a target or a span. -/
def afterName? : List Char → Option (List Char)
  | '[' :: cs => afterSpan? cs
  | c :: cs => if isTargetChar c then some (cs.dropWhile isTargetChar) else none
  | [] => none

/-- A level behind an equals sign, or nothing. -/
def isEnding : List Char → Bool
  | [] => true
  | ['='] => true
  | '=' :: level => isLevel level
  | _ => false

/-- **Whether a text is a directive.** -/
def isDirective (cs : List Char) : Bool :=
  isLevel cs ||
    match afterName? cs with
    | none => false
    | some rest => isEnding rest || (afterName? rest).any isEnding

/-- **Whether a text is a filter.** -/
def isValid (s : String) : Bool :=
  ((Text.parts ',' s.toList).filter (!·.isEmpty)).all isDirective

end AssetGraph.LogFilter
