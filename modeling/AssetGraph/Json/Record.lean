import AssetGraph.Json.Parser
import AssetGraph.Json.Text
import AssetGraph.Instant.Rfc3339
/-!
# Reading records

A record is an object with named fields, or an array that lists them in order.  Fields of other names
are passed over; a known one must not be repeated; an array may be short but not long.  `Record.get?`
is what one field holds, and the readers below it turn that into a text, a truth value, an instant or
a list, or say why they cannot (`Fault`).
-/
namespace AssetGraph.Json

/-- **Why a JSON text is not the record that was asked for.** -/
inductive Fault where
  | malformed
  | badText
  | wrongKind (wanted : String)
  | missing (field : String)
  | repeated (field : String)
  | overlong (fields : Nat)
  | badInstant (text : String)
deriving DecidableEq, Repr

def Fault.message : Fault → String
  | malformed => "malformed JSON text"
  | badText => "a string that is no text"
  | wrongKind wanted => s!"{wanted} expected"
  | missing field => s!"missing field {field}"
  | repeated field => s!"repeated field {field}"
  | overlong fields => s!"more than {fields} fields"
  | badInstant text => s!"not an instant: {text}"

/-- The known fields of a record, each at most once. -/
abbrev Record := List (String × Json)

/-- What a field holds. -/
def Record.get? (r : Record) (field : String) : Option Json := r.lookup field

/-- The members with their names as texts. -/
def namedMembers : List (Bytes × Json) → Except Fault (List (String × Json))
  | [] => .ok []
  | (k, v) :: ms =>
    match text? k with
    | none => .error .badText
    | some name => ((name, v) :: ·) <$> namedMembers ms

/-- The first of the names that is given more than once. -/
def repeated? (names : List String) (ms : List (String × Json)) : Option String :=
  names.find? fun name => decide (1 < (ms.filter (fun m => m.1 == name)).length)

/-- **The known fields of a tree that is a record.** -/
def record (names : List String) : Json → Except Fault Record
  | .object members => do
    let ms ← namedMembers members
    match repeated? names ms with
    | some name => .error (.repeated name)
    | none => .ok (ms.filter fun m => names.contains m.1)
  | .array items =>
    if names.length < items.length then .error (.overlong names.length)
    else .ok (names.zip items)
  | _ => .error (.wrongKind "a record")

def asText : Json → Except Fault String
  | .string raw =>
    match text? raw with
    | some s => .ok s
    | none => .error .badText
  | _ => .error (.wrongKind "a string")

def asBool : Json → Except Fault Bool
  | .bool b => .ok b
  | _ => .error (.wrongKind "a truth value")

def asInstant (j : Json) : Except Fault Instant := do
  let s ← asText j
  match Instant.parse? s with
  | some i => .ok i
  | none => .error (.badInstant s)

/-- Nothing for `null`. -/
def asOptional {α : Type} (read : Json → Except Fault α) : Json → Except Fault (Option α)
  | .null => .ok none
  | j => some <$> read j

/-- Every item of a list, read in order. -/
def readAll {α : Type} (read : Json → Except Fault α) : List Json → Except Fault (List α)
  | [] => .ok []
  | j :: js => do
    let a ← read j
    let as ← readAll read js
    .ok (a :: as)

def asList {α : Type} (read : Json → Except Fault α) : Json → Except Fault (List α)
  | .array items => readAll read items
  | _ => .error (.wrongKind "a list")

/-- A field that must be there. -/
def Record.require {α : Type} (r : Record) (field : String) (read : Json → Except Fault α) :
    Except Fault α :=
  match r.get? field with
  | some j => read j
  | none => .error (.missing field)

/-- A field that has a value when it is not there. -/
def Record.orElse {α : Type} (r : Record) (field : String) (default : α)
    (read : Json → Except Fault α) : Except Fault α :=
  match r.get? field with
  | some j => read j
  | none => .ok default

/-- The value that a JSON text stands for, by a reader of trees. -/
def decodeWith {α : Type} (read : Json → Except Fault α) (s : Bytes) : Except Fault α :=
  match parse? s with
  | some j => read j
  | none => .error .malformed

/-! ## Writing -/

/-- An object of named fields. -/
def ofFields (fields : List (String × Json)) : Json :=
  .object (fields.map fun (name, v) => (escape name, v))

def ofInstant (i : Instant) : Json := ofText i.render

/-- A field that is left out when it holds nothing. -/
def optionalField {α : Type} (name : String) (write : α → Json) : Option α → List (String × Json)
  | some a => [(name, write a)]
  | none => []

end AssetGraph.Json
