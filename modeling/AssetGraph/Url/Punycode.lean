/-!
# Punycode

A label of any characters as letters, digits and hyphens (RFC 3492): the ASCII characters first, then
the others in ascending order, each as the distance from the one before in a numeral whose digits
weigh the less the more of them were needed lately.  Each loop ends by a measure: the distance left to
write, or the digits left to read.
-/
namespace AssetGraph.Punycode

/-- Digits: `a` to `z`, then `0` to `9`. -/
def digitChar (d : Nat) : Char := Char.ofNat (if d < 26 then 97 + d else 22 + d)

def digitValue? (c : Char) : Option Nat :=
  let n := c.toNat
  if 97 ≤ n ∧ n ≤ 122 then some (n - 97)
  else if 65 ≤ n ∧ n ≤ 90 then some (n - 65)
  else if 48 ≤ n ∧ n ≤ 57 then some (n - 22)
  else none

/-- Below this value a digit is the last one of its number. -/
def threshold (k bias : Nat) : Nat :=
  if k ≤ bias then 1 else if bias + 26 ≤ k then 26 else k - bias

theorem threshold_pos (k bias : Nat) : 1 ≤ threshold k bias := by
  unfold threshold
  split
  · omega
  · split <;> omega

/-- Divides until what is left is small, and counts the digits that this stands for. -/
def reduce (delta k : Nat) : Nat × Nat :=
  if 455 < delta then reduce (delta / 35) (k + 36) else (delta, k)
termination_by delta
decreasing_by exact Nat.div_lt_self (by omega) (by omega)

/-- The bias behind a distance. -/
def adapt (delta count : Nat) (isFirst : Bool) : Nat :=
  let damped := if isFirst then delta / 700 else delta / 2
  let (rest, k) := reduce (damped + damped / count) 0
  k + 36 * rest / (rest + 38)

/-! ## Writing -/

/-- The digits of a distance. -/
def encodeNumber (bias k q : Nat) : List Char :=
  let t := threshold k bias
  if q < t then [digitChar q]
  else digitChar (t + (q - t) % (36 - t)) :: encodeNumber bias (k + 36) ((q - t) / (36 - t))
termination_by q
decreasing_by
  have h := threshold_pos k bias
  calc (q - threshold k bias) / (36 - threshold k bias)
      ≤ q - threshold k bias := Nat.div_le_self _ _
    _ < q := by omega

structure Writer where
  delta : Nat := 0
  bias : Nat := 72
  handled : Nat
  out : List Char := []

/-- Passes over a character, or writes it if it is the one whose turn it is. -/
def Writer.visit (basic turn : Nat) (w : Writer) (c : Char) : Writer :=
  if c.toNat < turn then { w with delta := w.delta + 1 }
  else if c.toNat = turn then
    { delta := 0
      bias := adapt w.delta (w.handled + 1) (w.handled == basic)
      handled := w.handled + 1
      out := w.out ++ encodeNumber w.bias 36 w.delta }
  else w

/-- Writes all characters of each code point in turn; `next` is the first that may come. -/
def Writer.writeAll (basic : Nat) (cs : List Char) : (next : Nat) → List Nat → Writer → Writer
  | _, [], w => w
  | next, turn :: turns, w =>
    let w := { w with delta := w.delta + (turn - next) * (w.handled + 1) }
    let w := cs.foldl (Writer.visit basic turn) w
    writeAll basic cs (turn + 1) turns { w with delta := w.delta + 1 }

/-- Puts a number in its place, once. -/
def insertOnce (n : Nat) : List Nat → List Nat
  | [] => [n]
  | m :: ms => if n < m then n :: m :: ms else if n = m then m :: ms else m :: insertOnce n ms

def isBasic (c : Char) : Bool := c.toNat < 128

/-- **The written form of a label.** -/
def encode (cs : List Char) : List Char :=
  let basic := cs.filter isBasic
  let turns := ((cs.filter (!isBasic ·)).map Char.toNat).foldr insertOnce []
  let w := Writer.writeAll basic.length cs 128 turns { handled := basic.length }
  (if basic.isEmpty then [] else basic ++ ['-']) ++ w.out

/-! ## Reading -/

/-- A distance and what follows its digits; `weight` is what the next digit counts. -/
def decodeNumber? (bias : Nat) : (k weight sum : Nat) → List Char → Option (Nat × List Char)
  | _, _, _, [] => none
  | k, weight, sum, c :: cs =>
    match digitValue? c with
    | none => none
    | some d =>
      let sum := sum + d * weight
      let t := threshold k bias
      if d < t then some (sum, cs) else decodeNumber? bias (k + 36) (weight * (36 - t)) sum cs

theorem length_of_decodeNumber? {bias k weight sum n : Nat} {cs rest : List Char}
    (h : decodeNumber? bias k weight sum cs = some (n, rest)) : rest.length < cs.length := by
  induction cs generalizing k weight sum with
  | nil => simp [decodeNumber?] at h
  | cons c cs ih =>
    simp only [decodeNumber?] at h
    split at h
    · cases h
    · split at h
      · cases h
        simp
      · exact Nat.lt_succ_of_lt (ih h)

/-- The character with a code point, if there is one. -/
def charOf? (n : Nat) : Option Char :=
  if n < 0xD800 ∨ (0xDFFF < n ∧ n < 0x110000) then some (Char.ofNat n) else none

/-- Puts the characters that the distances stand for among those that are there. -/
def decodeFrom? (n i bias : Nat) (out cs : List Char) : Option (List Char) :=
  if cs.isEmpty then some out
  else
    match _h : decodeNumber? bias 36 1 i cs with
    | none => none
    | some (sum, rest) =>
      let count := out.length + 1
      let n := n + sum / count
      let place := sum % count
      match charOf? n with
      | none => none
      | some c =>
        decodeFrom? n (place + 1) (adapt (sum - i) count (i == 0)) (out.take place ++ c :: out.drop place)
          rest
termination_by cs.length
decreasing_by exact length_of_decodeNumber? _h

/-- What is in front of the last hyphen, and what is behind it. -/
def splitLast (cs : List Char) : List Char × List Char :=
  let tail := (cs.reverse.takeWhile (· != '-')).reverse
  (cs.take (cs.length - tail.length - 1), tail)

/-- **The label of a written form.** -/
def decode? (cs : List Char) : Option (List Char) :=
  let (basic, tail) := splitLast cs
  if basic.all isBasic then decodeFrom? 128 0 72 basic tail else none

end AssetGraph.Punycode
