import AssetGraph.Instant.Basic
import AssetGraph.Instant.Calendar
import AssetGraph.Text.Blank
import AssetGraph.Text.Decimal
/-!
# Written instants

Instants as RFC 3339 writes them.  `render` writes UTC with the fewest of 0, 3, 6 or 9 fraction digits
that lose nothing, `renderSeconds` cuts the fraction off.  `parse?` reads a generous form: fields may
be shorter than their width, blanks may stand around them, a blank may replace the `T`, the offset may
lack its colon, and a leap second may be given.  What the calendar or the clock does not have is
refused.
-/
namespace AssetGraph.Instant

open Text (trimStart isBlank)

/-! ## Writing -/

/-- A year: four digits from 0 to 9999, else a sign and at least four digits. -/
def yearText (y : Int) : List Char :=
  if 0 ≤ y ∧ y ≤ 9999 then Decimal.padded 4 y.toNat
  else (if y < 0 then '-' else '+') :: Decimal.padded 4 y.natAbs

/-- The fewest of 0, 3, 6 or 9 digits that a fraction of a second needs, with their point. -/
def fractionText (nano : Nat) : List Char :=
  if nano = 0 then []
  else if nano % 1000000 = 0 then '.' :: Decimal.padded 3 (nano / 1000000)
  else if nano % 1000 = 0 then '.' :: Decimal.padded 6 (nano / 1000)
  else '.' :: Decimal.padded 9 nano

abbrev secondsPerDay : Nat := 86400

def date (i : Instant) : Date := Date.ofDays (i.second / secondsPerDay)

/-- The second of its day. -/
def secondOfDay (i : Instant) : Nat := (i.second % secondsPerDay).toNat

def dateText (d : Date) : List Char :=
  yearText d.year ++ '-' :: (Decimal.padded 2 d.month ++ '-' :: Decimal.padded 2 d.day)

/-- Hours, minutes and seconds; a leap second counts as second 60. -/
def clockText (second : Nat) (leap : Bool) : List Char :=
  Decimal.padded 2 (second / 3600) ++ ':' :: (Decimal.padded 2 (second / 60 % 60) ++ ':' ::
    Decimal.padded 2 (second % 60 + if leap then 1 else 0))

abbrev nanosPerSecond : Nat := 1000000000

def isLeap (i : Instant) : Bool := nanosPerSecond ≤ i.nano

def fraction (i : Instant) : Nat := i.nano % nanosPerSecond

/-- The instant up to its second, without the mark for UTC. -/
def stem (i : Instant) : List Char :=
  dateText i.date ++ 'T' :: clockText i.secondOfDay i.isLeap

/-- **The written form**, in UTC. -/
def renderChars (i : Instant) : List Char := i.stem ++ (fractionText i.fraction ++ ['Z'])

def render (i : Instant) : String := String.ofList i.renderChars

/-- **The written form without a fraction.** -/
def renderSeconds (i : Instant) : String := String.ofList (i.stem ++ ['Z'])

/-! ## Reading -/

/-- The digits in front, at most `width` of them, and what follows. -/
def spanDigits : (width : Nat) → List Char → List Char × List Char
  | 0, cs => ([], cs)
  | _ + 1, [] => ([], [])
  | width + 1, c :: cs =>
    if c.isDigit then
      let (ds, rest) := spanDigits width cs
      (c :: ds, rest)
    else ([], c :: cs)

/-- A number of one digit or more, at most `width`, and what follows. -/
def number? (width : Nat) (cs : List Char) : Option (Nat × List Char) :=
  match spanDigits width cs with
  | ([], _) => none
  | (ds, rest) => some (Decimal.ofDigits ds, rest)

/-- A field of a date or clock: blanks, then a number of at most two digits. -/
def field? (cs : List Char) : Option (Nat × List Char) := number? 2 (trimStart cs)

/-- A year: at most four digits, or a sign and any number of them. -/
def year? (cs : List Char) : Option (Int × List Char) :=
  match trimStart cs with
  | '-' :: r => (number? r.length r).map fun (n, r) => (-(n : Int), r)
  | '+' :: r => (number? r.length r).map fun (n, r) => ((n : Int), r)
  | r => (number? 4 r).map fun (n, r) => ((n : Int), r)

/-- Blanks, then the given character. -/
def mark? (c : Char) (cs : List Char) : Option (List Char) :=
  match trimStart cs with
  | d :: r => if d = c then some r else none
  | [] => none

/-- A fraction of a second, where there is one: up to nine digits count, more are passed over. -/
def fraction? (cs : List Char) : Option (Nat × List Char) :=
  match cs with
  | '.' :: r =>
    match spanDigits 9 r with
    | ([], _) => none
    | (ds, rest) =>
      some (Decimal.ofDigits (ds ++ List.replicate (9 - ds.length) '0'), rest.dropWhile Char.isDigit)
  | _ => some (0, cs)

/-- The letters `UTC` in either case, less them. -/
def withoutUtc? : List Char → Option (List Char)
  | a :: b :: c :: r =>
    if a.toLower = 'u' ∧ b.toLower = 't' ∧ c.toLower = 'c' then some r else none
  | _ => none

/-- Hours and minutes of an offset, in seconds; the colon between them may be missing or repeated. -/
def offsetAmount? : List Char → Option (Nat × List Char)
  | a :: b :: r =>
    if a.isDigit && b.isDigit then
      match r.dropWhile (fun c => c == ':' || isBlank c) with
      | c :: d :: r =>
        if c.isDigit && d.isDigit && Decimal.digitValue c < 6 then
          some (Decimal.ofDigits [a, b] * 3600 + Decimal.ofDigits [c, d] * 60, r)
        else none
      | _ => none
    else none
  | _ => none

/-- An offset from UTC in seconds: `Z`, `UTC`, or a signed amount below a day. -/
def offset? (cs : List Char) : Option (Int × List Char) :=
  match withoutUtc? cs with
  | some r => some (0, r)
  | none =>
    match cs with
    | 'Z' :: r | 'z' :: r => some (0, r)
    | '+' :: r => (offsetAmount? r).map fun (n, r) => ((n : Int), r)
    | '-' :: r | '\u2212' :: r => (offsetAmount? r).map fun (n, r) => (-(n : Int), r)
    | _ => none

/-- The years that a written instant may name. -/
def isYear (y : Int) : Bool := -262143 ≤ y && y ≤ 262142

/-- The instant of a local date, clock and offset, where calendar and clock have them, here and in
UTC. -/
def ofFields? (d : Date) (hour minute second nano : Nat) (offset : Int) : Option Instant :=
  if d.isValid && isYear d.year && hour < 24 && minute < 60 && second ≤ 60 &&
      decide (offset.natAbs < secondsPerDay) then
    let leap := second = 60
    let total := nano + if leap then nanosPerSecond else 0
    if h : total < 2000000000 then
      let i : Instant :=
        { second := d.toDays * secondsPerDay + (hour * 3600 + minute * 60 + second : Nat) -
            (if leap then 1 else 0) - offset
          nano := total
          nano_lt := h }
      if isYear i.date.year then some i else none
    else none
  else none

/-- **Reading a written instant.** -/
def parseChars? (cs : List Char) : Option Instant := do
  let (year, cs) ← year? cs
  let cs ← mark? '-' cs
  let (month, cs) ← field? cs
  let cs ← mark? '-' cs
  let (day, cs) ← field? cs
  let cs ← match cs with
    | 'T' :: r | 't' :: r | ' ' :: r => some r
    | _ => none
  let (hour, cs) ← field? cs
  let cs ← mark? ':' cs
  let (minute, cs) ← field? cs
  let cs ← mark? ':' cs
  let (second, cs) ← field? cs
  let (nano, cs) ← fraction? cs
  let (offset, cs) ← offset? (trimStart cs)
  if trimStart cs = [] then ofFields? ⟨year, month, day⟩ hour minute second nano offset else none

def parse? (s : String) : Option Instant := parseChars? s.toList

end AssetGraph.Instant
