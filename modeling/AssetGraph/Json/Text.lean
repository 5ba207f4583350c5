import AssetGraph.Json.Basic
import AssetGraph.Text.Decimal
/-!
# JSON strings

The bytes between a string's quotes and the text that they stand for.  `escape` writes short escapes
for quote, backslash and five control characters, `\u00` and two digits for the other control
characters, and all else as it is; `unescape?` reads every escape that JSON has, a pair of surrogates
as one character and a lone one not at all.
-/
namespace AssetGraph.Json

/-! ## Writing -/

/-- A digit of base sixteen, in lower case. -/
def hexDigit (n : Nat) : UInt8 := UInt8.ofNat (if n < 10 then 48 + n else 87 + n)

/-- The raw form of one character. -/
def escapeChar (c : Char) : Bytes :=
  if c = '"' then [ascii '\\', ascii '"']
  else if c = '\\' then [ascii '\\', ascii '\\']
  else if c = '\x08' then [ascii '\\', ascii 'b']
  else if c = '\t' then [ascii '\\', ascii 't']
  else if c = '\n' then [ascii '\\', ascii 'n']
  else if c = '\x0c' then [ascii '\\', ascii 'f']
  else if c = '\r' then [ascii '\\', ascii 'r']
  else if c.toNat < 32 then
    [ascii '\\', ascii 'u', ascii '0', ascii '0', hexDigit (c.toNat / 16), hexDigit (c.toNat % 16)]
  else Utf8.encodeChar c

def escape (s : String) : Bytes := s.toList.flatMap escapeChar

/-- **A text as a JSON string.** -/
def ofText (s : String) : Json := .string (escape s)

/-! ## Reading -/

/-- The value of a digit of base sixteen, in either case. -/
def hexValue? (b : UInt8) : Option Nat :=
  let n := b.toNat
  if 48 ≤ n ∧ n ≤ 57 then some (n - 48)
  else if 97 ≤ n ∧ n ≤ 102 then some (n - 87)
  else if 65 ≤ n ∧ n ≤ 70 then some (n - 55)
  else none

/-- The number that four digits of base sixteen stand for. -/
def hexQuad? (a b c d : UInt8) : Option Nat := do
  let a ← hexValue? a
  let b ← hexValue? b
  let c ← hexValue? c
  let d ← hexValue? d
  pure (((a * 16 + b) * 16 + c) * 16 + d)

/-- What the letter behind a backslash stands for, `u` apart. -/
def shortEscape? (b : UInt8) : Option UInt8 :=
  if b == ascii '"' || b == ascii '\\' || b == ascii '/' then some b
  else if b == ascii 'b' then some 8
  else if b == ascii 'f' then some 12
  else if b == ascii 'n' then some 10
  else if b == ascii 'r' then some 13
  else if b == ascii 't' then some 9
  else none

/-- The code point of a pair of surrogates. -/
def joinSurrogates (high low : Nat) : Nat := 0x10000 + (high - 0xD800) * 0x400 + (low - 0xDC00)

/-- The bytes that raw ones stand for. -/
def unescape? : Bytes → Option Bytes
  | [] => some []
  | b :: r =>
    if b == ascii '\\' then
      match r with
      | [] => none
      | e :: r =>
        if e == ascii 'u' then
          match r with
          | a :: b :: c :: d :: r =>
            match hexQuad? a b c d with
            | none => none
            | some n =>
              if 0xD800 ≤ n ∧ n < 0xDC00 then
                match r with
                | s :: u :: a :: b :: c :: d :: r =>
                  if s == ascii '\\' && u == ascii 'u' then
                    match hexQuad? a b c d with
                    | none => none
                    | some m =>
                      if 0xDC00 ≤ m ∧ m < 0xE000 then
                        (Utf8.encodeChar (Char.ofNat (joinSurrogates n m)) ++ ·) <$> unescape? r
                      else none
                  else none
                | _ => none
              else if 0xDC00 ≤ n ∧ n < 0xE000 then none
              else (Utf8.encodeChar (Char.ofNat n) ++ ·) <$> unescape? r
          | _ => none
        else
          match shortEscape? e with
          | none => none
          | some x => (x :: ·) <$> unescape? r
    else (b :: ·) <$> unescape? r

/-- The text that raw bytes stand for, where they do. -/
def text? (raw : Bytes) : Option String := (unescape? raw).bind Utf8.decode?

end AssetGraph.Json
