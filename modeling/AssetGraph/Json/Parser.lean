import AssetGraph.Json.Basic
/-!
# Reading JSON

`parse?` reads one tree and nothing behind it but blanks.  Strings are checked for their quotes,
escapes and control characters, not for what they stand for; a tree may be of any depth.  The parsers
take a bound that each of their steps lowers; `parse?` sets it to one more than there are bytes, and
no step but the last leaves the bytes as they are.
-/
namespace AssetGraph.Json

def isSpace (b : UInt8) : Bool :=
  b == ascii ' ' || b == ascii '\n' || b == ascii '\t' || b == ascii '\r'

def skipSpaces (s : Bytes) : Bytes := s.dropWhile isSpace

def isDigit (b : UInt8) : Bool := ascii '0' ≤ b && b ≤ ascii '9'

def isHexDigit (b : UInt8) : Bool :=
  isDigit b || (ascii 'a' ≤ b && b ≤ ascii 'f') || (ascii 'A' ≤ b && b ≤ ascii 'F')

/-- The letters that may follow a backslash, `u` apart. -/
def isShortEscape (b : UInt8) : Bool :=
  b == ascii '"' || b == ascii '\\' || b == ascii '/' || b == ascii 'b' || b == ascii 'f' ||
    b == ascii 'n' || b == ascii 'r' || b == ascii 't'

/-- The raw bytes of a string whose opening quote is read, and what follows its closing one. -/
def rawString? : Bytes → Option (Bytes × Bytes)
  | [] => none
  | b :: r =>
    if b == ascii '"' then some ([], r)
    else if b == ascii '\\' then
      match r with
      | [] => none
      | e :: r =>
        if e == ascii 'u' then
          match r with
          | p :: q :: s :: t :: r =>
            if isHexDigit p && isHexDigit q && isHexDigit s && isHexDigit t then
              (fun (raw, rest) => (b :: e :: p :: q :: s :: t :: raw, rest)) <$> rawString? r
            else none
          | _ => none
        else if isShortEscape e then
          (fun (raw, rest) => (b :: e :: raw, rest)) <$> rawString? r
        else none
    else if b < 32 then none
    else (fun (raw, rest) => (b :: raw, rest)) <$> rawString? r

/-- One digit or more. -/
def digits? (s : Bytes) : Option (Bytes × Bytes) :=
  let (ds, rest) := s.span isDigit
  if ds.isEmpty then none else some (ds, rest)

/-- The part of a number before point and exponent: no zero in front of another digit. -/
def integer? : Bytes → Option (Bytes × Bytes)
  | [] => none
  | b :: r =>
    if b == ascii '0' then
      match r with
      | c :: _ => if isDigit c then none else some ([b], r)
      | [] => some ([b], r)
    else digits? (b :: r)

/-- The point and the digits behind it, where there is a point. -/
def fraction? : Bytes → Option (Bytes × Bytes)
  | b :: r =>
    if b == ascii '.' then (digits? r).map fun (ds, rest) => (b :: ds, rest) else some ([], b :: r)
  | [] => some ([], [])

/-- The exponent, where there is one. -/
def exponent? : Bytes → Option (Bytes × Bytes)
  | b :: r =>
    if b == ascii 'e' || b == ascii 'E' then
      match r with
      | c :: r' =>
        if c == ascii '+' || c == ascii '-' then
          (digits? r').map fun (ds, rest) => (b :: c :: ds, rest)
        else (digits? r).map fun (ds, rest) => (b :: ds, rest)
      | [] => none
    else some ([], b :: r)
  | [] => some ([], [])

def number? (s : Bytes) : Option (Bytes × Bytes) := do
  let (sign, s) := match s with
    | b :: r => if b == ascii '-' then ([b], r) else ([], s)
    | [] => ([], [])
  let (int, s) ← integer? s
  let (frac, s) ← fraction? s
  let (exp, s) ← exponent? s
  pure (sign ++ int ++ frac ++ exp, s)

/-- What follows the given letters. -/
def after? (letters : List Char) (s : Bytes) : Option Bytes :=
  if (asciiBytes letters).isPrefixOf s then some (s.drop letters.length) else none

mutual

/-- A tree, blanks in front of it, and what follows. -/
def value? : (bound : Nat) → Bytes → Option (Json × Bytes)
  | 0, _ => none
  | bound + 1, s =>
    match skipSpaces s with
    | [] => none
    | b :: r =>
      if b == ascii '"' then (rawString? r).map fun (raw, rest) => (.string raw, rest)
      else if b == ascii '[' then
        match skipSpaces r with
        | [] => none
        | c :: r' =>
          if c == ascii ']' then some (.array [], r')
          else (items? bound (c :: r')).map fun (vs, rest) => (.array vs, rest)
      else if b == ascii '\x7b' then
        match skipSpaces r with
        | [] => none
        | c :: r' =>
          if c == ascii '\x7d' then some (.object [], r')
          else (members? bound (c :: r')).map fun (ms, rest) => (.object ms, rest)
      else if b == ascii 'n' then
        (after? ['u', 'l', 'l'] r).map fun rest => (.null, rest)
      else if b == ascii 't' then
        (after? ['r', 'u', 'e'] r).map fun rest => (.bool true, rest)
      else if b == ascii 'f' then
        (after? ['a', 'l', 's', 'e'] r).map fun rest => (.bool false, rest)
      else (number? (b :: r)).map fun (raw, rest) => (.number raw, rest)

/-- The items of an array, one at least, up to and with its closing bracket. -/
def items? : (bound : Nat) → Bytes → Option (List Json × Bytes)
  | 0, _ => none
  | bound + 1, s =>
    match value? bound s with
    | none => none
    | some (v, r) =>
      match skipSpaces r with
      | [] => none
      | b :: r =>
        if b == ascii ',' then (items? bound r).map fun (vs, rest) => (v :: vs, rest)
        else if b == ascii ']' then some ([v], r)
        else none

/-- The members of an object, one at least, up to and with its closing brace. -/
def members? : (bound : Nat) → Bytes → Option (List (Bytes × Json) × Bytes)
  | 0, _ => none
  | bound + 1, s =>
    match skipSpaces s with
    | [] => none
    | b :: r =>
      if b == ascii '"' then
        match rawString? r with
        | none => none
        | some (k, r) =>
          match skipSpaces r with
          | [] => none
          | c :: r =>
            if c == ascii ':' then
              match value? bound r with
              | none => none
              | some (v, r) =>
                match skipSpaces r with
                | [] => none
                | d :: r =>
                  if d == ascii ',' then
                    (members? bound r).map fun (ms, rest) => ((k, v) :: ms, rest)
                  else if d == ascii '\x7d' then some ([(k, v)], r)
                  else none
            else none
      else none

end

/-- **The tree of a JSON text.** -/
def parse? (s : Bytes) : Option Json :=
  match value? (s.length + 1) s with
  | some (v, rest) => if skipSpaces rest = [] then some v else none
  | none => none

end AssetGraph.Json
