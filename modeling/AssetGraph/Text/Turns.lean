import AssetGraph.Text.Split
/-!
# Tables of code points

A property of code points is kept as the places at which it changes, in ascending order, and looked up
by halving.  A table is written as numbers in base sixteen with blanks between them, each the distance
from the one before; where a property has more than two values the value follows behind a point.
-/
namespace AssetGraph.Text

/-- How many entries of a sorted array are at most `n`, found by halving `[lo, hi)`. -/
def countUpTo (turns : Array Nat) (n : Nat) : (fuel lo hi : Nat) → Nat
  | 0, lo, _ => lo
  | fuel + 1, lo, hi =>
    if lo < hi then
      let mid := (lo + hi) / 2
      if turns.getD mid 0 ≤ n then countUpTo turns n fuel (mid + 1) hi
      else countUpTo turns n fuel lo mid
    else lo

/-- How many entries of a sorted array are at most `n`. -/
def rank (turns : Array Nat) (n : Nat) : Nat := countUpTo turns n (turns.size + 1) 0 turns.size

/-- **Whether a property that begins and ends at the turns holds.** -/
def isInside (turns : Array Nat) (n : Nat) : Bool := rank turns n % 2 == 1

/-! ## Written tables -/

/-- A number in base sixteen, in lower case. -/
def ofHex (cs : List Char) : Nat :=
  cs.foldl (fun n c => 16 * n + (if c.isDigit then c.toNat - 48 else c.toNat - 87)) 0

/-- The rows of a line of a table: numbers with points between them. -/
def tableRows (s : String) : List (List Nat) :=
  (parts ' ' s.toList).map fun row => (parts '.' row).map ofHex

/-- Turns each leading number, a distance, into the place that it reaches. -/
def placed (base : Nat) : List (List Nat) → List (Nat × List Nat)
  | [] => []
  | [] :: rows => placed base rows
  | (gap :: rest) :: rows => (base + gap, rest) :: placed (base + gap) rows

/-- The rows of a table by place. -/
def tableOf (lines : List String) : Array (Nat × List Nat) :=
  (placed 0 (lines.flatMap tableRows)).toArray

/-- The last row of a table whose place is at most `n`. -/
def lastRow? (places : Array Nat) (rows : Array (Nat × List Nat)) (n : Nat) :
    Option (Nat × List Nat) :=
  match rank places n with
  | 0 => none
  | i + 1 => rows[i]?

/-- **A table ready for look-up.** -/
structure CodeTable where
  rows : Array (Nat × List Nat)
  places : Array Nat := rows.map (·.1)

def CodeTable.ofLines (lines : List String) : CodeTable := { rows := tableOf lines }

/-- The row that decides about a code point. -/
def CodeTable.row? (t : CodeTable) (n : Nat) : Option (Nat × List Nat) := lastRow? t.places t.rows n

/-- The value of a property at a code point; zero below the first turn. -/
def CodeTable.value (t : CodeTable) (n : Nat) : Nat :=
  match t.row? n with
  | some (_, v :: _) => v
  | _ => 0

/-- Whether a property that begins and ends at the places holds. -/
def CodeTable.holds (t : CodeTable) (n : Nat) : Bool := isInside t.places n

end AssetGraph.Text
