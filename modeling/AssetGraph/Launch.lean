import AssetGraph.Inventory.Routes
import AssetGraph.LogFilter
import AssetGraph.Settings
/-!
# Launching the indexer

What happens before the first message: the environment is read, along with a file of `NAME=value` lines
that fills in what it lacks, then the log filter, the settings and the inventory's endpoint.  The first
that cannot be used stops the launch.
-/
namespace AssetGraph.Launch

open Settings (Lookup)

/-! ## The file of variables -/

def isNameStart (c : Char) : Bool := c.isAlpha || c == '_'

def isNameChar (c : Char) : Bool := c.isAlphanum || c == '_' || c == '.'

def isGap (c : Char) : Bool := c == ' ' || c == '\t'

/-- Nothing but a comment. -/
def isComment (cs : List Char) : Bool :=
  match cs.dropWhile isGap with
  | [] => true
  | c :: _ => c == '#'

/-- Where a value stands: bare, or between quotes that take everything as it is, or between quotes that
take a backslash for an escape. -/
inductive Quote where
  | bare | strong | weak
deriving DecidableEq

/-- What a backslash and a character stand for. -/
def escaped? (c : Char) : Option Char :=
  if c == 'n' then some '\n'
  else if ['\\', '\'', '"', '$', ' '].contains c then some c
  else none

/-- A value; behind a gap only a comment may follow. -/
def value? : Quote → List Char → Option (List Char)
  | .bare, [] => some []
  | _, [] => none
  | .strong, c :: cs => if c == '\'' then value? .bare cs else (c :: ·) <$> value? .strong cs
  | .weak, '\\' :: c :: cs => do
    let e ← escaped? c
    (e :: ·) <$> value? .weak cs
  | .weak, c :: cs => if c == '"' then value? .bare cs else (c :: ·) <$> value? .weak cs
  | .bare, '\\' :: c :: cs => do
    let e ← escaped? c
    (e :: ·) <$> value? .bare cs
  | .bare, c :: cs =>
    if c == '\'' then value? .strong cs
    else if c == '"' then value? .weak cs
    else if isGap c then (if isComment cs then some [] else none)
    else (c :: ·) <$> value? .bare cs

/-- The name that a line begins with, and what follows. -/
def name? (cs : List Char) : Option (List Char × List Char) :=
  if cs.head?.any isNameStart then some (cs.takeWhile isNameChar, cs.dropWhile isNameChar) else none

/-- A variable of a line: its name and its value. -/
def assignment? (cs : List Char) : Option (String × String) := do
  let (name, rest) ← name? cs
  match rest.dropWhile isGap with
  | '=' :: rest => do
    let rest := rest.dropWhile isGap
    let value ← if isComment rest then some [] else value? .bare rest
    pure (String.ofList name, String.ofList value)
  | _ => none

/-- The variables of lines, up to one that is neither a variable nor a comment. -/
def assignments : List (List Char) → List (String × String)
  | [] => []
  | line :: lines =>
    let line := Text.trim line
    if isComment line then assignments lines
    else
      match assignment? line with
      | some a => a :: assignments lines
      | none => []

/-- **The variables of a file**, in their order. -/
def entries (file : String) : List (String × String) := assignments (Text.parts '\n' file.toList)

/-- **The environment, filled in from a file**: what is set stays, and the first of several counts. -/
def filledIn (env : Lookup) (file : String) : Lookup := fun name =>
  env name <|> (entries file).lookup name

/-! ## The launch -/

/-- The filter of log lines: one variable if it holds a filter, else another, else the default. -/
def logFilter (env : Lookup) : Except ConfigFault String :=
  match (env "RUST_LOG").filter LogFilter.isValid with
  | some f => .ok f
  | none =>
    let f := (env "LOG_LEVEL").getD "info"
    if LogFilter.isValid f then .ok f else .error (.logLevel "invalid filter directive")

/-- **The endpoint of the settings.** -/
def endpoint (s : Settings) : Except ConfigFault Endpoint :=
  match Endpoint.parse s.inventory.endpoint with
  | .ok e => .ok e
  | .error e => .error (.inventory e)

/-- **What is ready when the launch succeeds.** -/
structure Ready where
  logFilter : String
  settings : Settings
  endpoint : Endpoint

/-- **Launches the indexer**, as far as that needs neither broker nor inventory. -/
def prepare (env : Lookup) (file : String) : Except ConfigFault Ready := do
  let env := filledIn env file
  let logFilter ← logFilter env
  let settings ← Settings.ofLookup env
  let endpoint ← endpoint settings
  pure { logFilter, settings, endpoint }

/-- The report of a launch that was stopped. -/
def report (fault : ConfigFault) : String :=
  let shown := Text.quoted fault.message
  s!"Error: ConfigError({shown})"

end AssetGraph.Launch
