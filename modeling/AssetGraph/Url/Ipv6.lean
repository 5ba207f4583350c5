import AssetGraph.Text.Decimal
import AssetGraph.Text.Split
import AssetGraph.Url.Ipv4
/-!
# IPv6 addresses

Eight groups of up to four digits in base sixteen, with colons between them.  One double colon stands
for the groups that are missing, one at least; the last two groups may be written as four numbers in
base ten.  The written form has a double colon for the longest run of zero groups, the first one of
several.
-/
namespace AssetGraph.Ipv6

/-- A group of digits. -/
def group? (cs : List Char) : Option Nat :=
  if 1 ≤ cs.length && cs.length ≤ 4 then Ipv4.ofDigits? 16 cs else none

/-- A number from 0 to 255 without leading zeros. -/
def octet? (cs : List Char) : Option Nat :=
  if Decimal.isNumeral cs && (cs.length == 1 || cs.head? != some '0') then
    (some (Decimal.ofDigits cs)).filter (· < 256)
  else none

/-- The two groups of four numbers. -/
def dotted? (cs : List Char) : Option (List Nat) :=
  match (Text.parts '.' cs).mapM octet? with
  | some [a, b, c, d] => some [256 * a + b, 256 * c + d]
  | _ => none

/-- The groups of a text without a double colon; only at the very end they may be dotted. -/
def groups? (atEnd : Bool) (cs : List Char) : Option (List Nat) :=
  if cs.isEmpty then some [] else go (Text.parts ':' cs)
where
  go : List (List Char) → Option (List Nat)
    | [] => some []
    | [last] => if atEnd && last.contains '.' then dotted? last else (fun n => [n]) <$> group? last
    | p :: q :: ps => do
      let n ← group? p
      let ns ← go (q :: ps)
      pure (n :: ns)

/-- What is in front of the first double colon, and what is behind it. -/
def splitDouble? : List Char → Option (List Char × List Char)
  | ':' :: ':' :: r => some ([], r)
  | c :: r => (splitDouble? r).map fun (a, b) => (c :: a, b)
  | [] => none

/-- **The groups of an address.** -/
def parse? (cs : List Char) : Option (List Nat) :=
  match splitDouble? cs with
  | none => (groups? true cs).filter (·.length == 8)
  | some (a, b) => do
    let front ← groups? false a
    let back ← groups? true b
    let count := front.length + back.length
    if count < 8 then pure (front ++ List.replicate (8 - count) 0 ++ back) else none

/-- The length of the run of zeros in front. -/
def zeroRun (groups : List Nat) : Nat := (groups.takeWhile (· == 0)).length

/-- Where the first of the longest runs of zeros starts, and how long it is. -/
def longestRun (groups : List Nat) : Nat × Nat :=
  (List.range groups.length).foldl (fun (best : Nat × Nat) i =>
    let n := zeroRun (groups.drop i)
    if best.2 < n then (i, n) else best) (0, 0)

def joinGroups (groups : List Nat) : List Char := Text.join ':' (groups.map Decimal.hexDigits)

/-- **The written form of an address.** -/
def render (groups : List Nat) : List Char :=
  let (start, length) := longestRun groups
  if length < 2 then joinGroups groups
  else joinGroups (groups.take start) ++ ':' :: ':' :: joinGroups (groups.drop (start + length))

end AssetGraph.Ipv6
