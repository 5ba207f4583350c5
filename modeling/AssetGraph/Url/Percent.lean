import AssetGraph.Text.Utf8
/-!
# Percent encoding

A character that may not stand for itself is written as a percent sign and two digits of base sixteen
for each of its bytes.  `encode` is given the ASCII characters that are written so; all others outside
ASCII are.  `decode` gives the bytes back, and leaves a percent sign alone that has no two digits.
-/
namespace AssetGraph.Percent

/-- A digit of base sixteen, in upper case. -/
def hexDigit (n : Nat) : Char := Char.ofNat (if n < 10 then 48 + n else 55 + n)

/-- The value of a digit of base sixteen, in either case. -/
def hexValue? (c : Char) : Option Nat :=
  let n := c.toNat
  if 48 ≤ n ∧ n ≤ 57 then some (n - 48)
  else if 97 ≤ n ∧ n ≤ 102 then some (n - 87)
  else if 65 ≤ n ∧ n ≤ 70 then some (n - 55)
  else none

def encodeByte (b : UInt8) : List Char := ['%', hexDigit (b.toNat / 16), hexDigit (b.toNat % 16)]

/-- A character, encoded if it is in the set or no ASCII character. -/
def encodeChar (set : Char → Bool) (c : Char) : List Char :=
  if c.toNat < 128 && !set c then [c] else (Utf8.encodeChar c).flatMap encodeByte

/-- **A text with the characters of a set encoded.** -/
def encode (set : Char → Bool) (cs : List Char) : List Char := cs.flatMap (encodeChar set)

/-- **The bytes of an encoded text.** -/
def decode : List Char → Bytes
  | [] => []
  | [c] => Utf8.encodeChar c
  | [c, d] => Utf8.encodeChar c ++ Utf8.encodeChar d
  | c :: x :: y :: r =>
    if c = '%' then
      match hexValue? x, hexValue? y with
      | some h, some l => UInt8.ofNat (16 * h + l) :: decode r
      | _, _ => Utf8.encodeChar c ++ decode (x :: y :: r)
    else Utf8.encodeChar c ++ decode (x :: y :: r)

/-! ## Sets -/

def isControl (c : Char) : Bool := c.toNat < 32 || c.toNat == 127

/-- What a fragment does not hold bare. -/
def fragmentSet (c : Char) : Bool :=
  isControl c || c == ' ' || c == '"' || c == '<' || c == '>' || c == '\x60'

/-- What a path does not hold bare. -/
def pathSet (c : Char) : Bool :=
  fragmentSet c || c == '#' || c == '?' || c == '\x7b' || c == '\x7d'

/-- What user information does not hold bare. -/
def userinfoSet (c : Char) : Bool :=
  pathSet c || c == '/' || c == ':' || c == ';' || c == '=' || c == '@' || c == '[' || c == '\\' ||
    c == ']' || c == '^' || c == '|'

/-- What one segment of a path does not hold bare; a backslash separates segments where the scheme is
special. -/
def segmentSet (isSpecial : Bool) (c : Char) : Bool :=
  pathSet c || c == '/' || c == '%' || (isSpecial && c == '\\')

theorem hexValue?_hexDigit {n : Nat} (h : n < 16) : hexValue? (hexDigit n) = some n := by
  have hall : ∀ m ∈ List.range 16, hexValue? (hexDigit m) = some m := by decide
  exact hall n (List.mem_range.2 h)

/-- An encoded byte is read back, whatever follows. -/
theorem decode_encodeByte (b : UInt8) (r : List Char) :
    decode (encodeByte b ++ r) = b :: decode r := by
  have hb : b.toNat < 256 := b.toNat_lt
  have hd : 16 * (b.toNat / 16) + b.toNat % 16 = b.toNat := by omega
  simp [encodeByte, decode, hexValue?_hexDigit (show b.toNat / 16 < 16 by omega),
    hexValue?_hexDigit (show b.toNat % 16 < 16 by omega), hd]

end AssetGraph.Percent
