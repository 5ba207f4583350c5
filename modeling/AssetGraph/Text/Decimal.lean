/-!
# Decimal numerals

Reading a numeral of ASCII digits, and writing one with leading zeros.  `bounded?_eq_some_iff_signed`
says which texts a setting or a version part may hold.
-/
namespace AssetGraph.Decimal

/-- The value of one ASCII digit. -/
def digitValue (c : Char) : Nat := c.toNat - 48

/-- The value of a numeral, the first digit the highest. -/
def ofDigits (ds : List Char) : Nat := ds.foldl (fun n c => 10 * n + digitValue c) 0

/-- **A numeral**: one ASCII digit or more and nothing else. -/
def isNumeral (cs : List Char) : Bool := !cs.isEmpty && cs.all Char.isDigit

/-- The value of a text that is a numeral. -/
def digits? (cs : List Char) : Option Nat := if isNumeral cs then some (ofDigits cs) else none

theorem digits?_eq_some_iff {cs : List Char} {n : Nat} :
    digits? cs = some n ↔ isNumeral cs = true ∧ ofDigits cs = n := by
  by_cases h : isNumeral cs <;> simp [digits?, h]

/-- One plus sign less, where the text starts with one. -/
def withoutPlus : List Char → List Char
  | '+' :: cs => cs
  | cs => cs

/-- **A bounded numeral**: an optional plus sign, then digits whose value is below the limit. -/
def bounded? (limit : Nat) (cs : List Char) : Option Nat :=
  (digits? (withoutPlus cs)).filter (· < limit)

theorem bounded?_eq_some_iff {limit n : Nat} {cs : List Char} :
    bounded? limit cs = some n ↔
      isNumeral (withoutPlus cs) = true ∧ ofDigits (withoutPlus cs) = n ∧ n < limit := by
  simp only [bounded?, Option.filter_eq_some_iff, digits?_eq_some_iff, decide_eq_true_eq, and_assoc]

theorem withoutPlus_cases (cs : List Char) : withoutPlus cs = cs ∨ cs = '+' :: withoutPlus cs := by
  match cs with
  | [] => exact .inl rfl
  | c :: cs =>
    by_cases hc : c = '+'
    · exact .inr (by rw [hc, withoutPlus])
    · refine .inl ?_
      rw [withoutPlus]
      exact fun _ he => hc (List.cons.inj he).1

/-- A numeral begins with a digit. -/
theorem exists_digit_of_isNumeral {cs : List Char} (h : isNumeral cs = true) :
    ∃ d ds, cs = d :: ds ∧ d.isDigit = true := by
  match cs with
  | [] => cases h
  | d :: ds =>
    simp only [isNumeral, Bool.and_eq_true, List.all_cons] at h
    exact ⟨d, ds, rfl, h.2.1⟩

theorem ne_of_isNumeral {ds : List Char} {c d : Char} (h : isNumeral (d :: ds) = true)
    (hc : c.isDigit = false) : d ≠ c := by
  obtain ⟨d', ds', he, hd⟩ := exists_digit_of_isNumeral h
  obtain ⟨rfl, -⟩ := List.cons.inj he
  rintro rfl
  rw [hc] at hd
  cases hd

/-- **What a bounded numeral looks like**: digits, and at most one plus sign in front of them. -/
theorem bounded?_eq_some_iff_signed {limit n : Nat} {cs : List Char} :
    bounded? limit cs = some n ↔ ∃ sign ds, cs = sign ++ ds ∧ (sign = [] ∨ sign = ['+']) ∧
      isNumeral ds = true ∧ ofDigits ds = n ∧ n < limit := by
  rw [bounded?_eq_some_iff]
  constructor
  · rintro h
    rcases withoutPlus_cases cs with hp | hp
    · exact ⟨[], cs, rfl, .inl rfl, hp ▸ h⟩
    · exact ⟨['+'], withoutPlus cs, hp, .inr rfl, h⟩
  · rintro ⟨sign, ds, rfl, rfl | rfl, hn, h⟩
    · obtain ⟨d, ds, rfl, -⟩ := exists_digit_of_isNumeral hn
      have hplus : withoutPlus (d :: ds) = d :: ds := by
        rcases withoutPlus_cases (d :: ds) with hp | hp
        · exact hp
        · exact absurd (List.cons.inj hp).1 (ne_of_isNumeral hn rfl)
      rw [List.nil_append, hplus]
      exact ⟨hn, h⟩
    · exact ⟨hn, h⟩

/-- Limits of the numbers that settings and versions hold. -/
abbrev limit32 : Nat := 4294967296

abbrev limit64 : Nat := 18446744073709551616

/-- The digits of a number, without leading zeros. -/
def digits (n : Nat) : List Char := Nat.toDigits 10 n

/-- The digits of a number, filled up with zeros in front. -/
def padded (width n : Nat) : List Char :=
  List.replicate (width - (digits n).length) '0' ++ digits n

/-- A number as text. -/
def text (n : Nat) : String := String.ofList (digits n)

/-- A signed number as text: a minus sign in front of a negative one. -/
def signedText (n : Int) : String :=
  if n < 0 then String.ofList ('-' :: digits n.natAbs) else text n.natAbs

/-- The digits of a number in base sixteen, in lower case. -/
def hexDigits (n : Nat) : List Char := Nat.toDigits 16 n

end AssetGraph.Decimal
