import AssetGraph.Text.Decimal
import AssetGraph.Text.Split
/-!
# IPv4 addresses

A host whose last part is a number is an IPv4 address.  It may have up to four parts, each in base
ten, in base eight behind a zero or in base sixteen behind `0x`; the last part fills what the others
leave.  It is written as four numbers in base ten.
-/
namespace AssetGraph.Ipv4

def hexDigitValue? (c : Char) : Option Nat :=
  let n := c.toNat
  if 48 ≤ n ∧ n ≤ 57 then some (n - 48)
  else if 97 ≤ n ∧ n ≤ 102 then some (n - 87)
  else if 65 ≤ n ∧ n ≤ 70 then some (n - 55)
  else none

/-- The value of digits that are all below the base. -/
def ofDigits? (base : Nat) (cs : List Char) : Option Nat :=
  cs.foldl (fun acc c => do
    let n ← acc
    let d ← hexDigitValue? c
    if d < base then some (base * n + d) else none) (some 0)

/-- The base of a part, and its digits. -/
def baseOf : List Char → Nat × List Char
  | '0' :: 'x' :: cs => (16, cs)
  | '0' :: 'X' :: cs => (16, cs)
  | '0' :: c :: cs => (8, c :: cs)
  | cs => (10, cs)

/-- The number that a part is; a base without digits stands for zero. -/
def number? (cs : List Char) : Option Nat :=
  if cs.isEmpty then none
  else
    let (base, ds) := baseOf cs
    ofDigits? base ds

/-- The parts of a host, without an empty one at the end. -/
def hostParts (cs : List Char) : List (List Char) :=
  let ps := Text.parts '.' cs
  if ps.getLast? = some [] && 1 < ps.length then ps.dropLast else ps

/-- **Whether a host can only be an IPv4 address.** -/
def endsInNumber (cs : List Char) : Bool :=
  match (hostParts cs).getLast? with
  | none => false
  | some last => Decimal.isNumeral last || (number? last).isSome

/-- The address that numbers make within `room` addresses: the last one fills what is left. -/
def ofNumbers? : (room : Nat) → List Nat → Option Nat
  | _, [] => none
  | room, [n] => if n < room then some n else none
  | room, n :: m :: ns =>
    if n < 256 then (n * (room / 256) + ·) <$> ofNumbers? (room / 256) (m :: ns) else none

/-- **The address of a host.** -/
def parse? (cs : List Char) : Option Nat := do
  let numbers ← (hostParts cs).mapM number?
  if 4 < numbers.length then none else ofNumbers? 4294967296 numbers

/-- **The written form of an address.** -/
def render (address : Nat) : List Char :=
  Text.join '.' ([16777216, 65536, 256, 1].map fun unit => Decimal.digits (address / unit % 256))

end AssetGraph.Ipv4
