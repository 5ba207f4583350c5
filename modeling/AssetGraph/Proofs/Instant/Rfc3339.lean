import AssetGraph.Instant.Rfc3339
import AssetGraph.Proofs.Instant.Calendar
/-!
# Written instants are read back

An instant is read from its written form (`parse?_render`) if its year is one that a text may name and a leap second
ends a minute: `IsCivil`.  Without its fraction it is read as the beginning of its second (`parse?_renderSeconds`).  The
instants of a year from 0 to 9999 are the ones that have no sign in front: `IsWritable`.
-/
namespace AssetGraph

namespace Decimal

variable {width n : Nat}

theorem isDigit_of_mem_padded {c : Char} (h : c ∈ padded width n) : c.isDigit = true := by
  obtain h | h := List.mem_append.1 h
  · rw [List.eq_of_mem_replicate h]
    rfl
  · exact Nat.isDigit_of_mem_toDigits (by decide) (by decide) h

theorem padded_ne_nil : padded width n ≠ [] := by
  simp [padded, digits]

theorem length_padded (hwidth : 0 < width) (h : n < 10 ^ width) : (padded width n).length = width := by
  have := (Nat.length_toDigits_le_iff (b := 10) (by decide) hwidth).2 h
  rw [padded, List.length_append, List.length_replicate, digits]
  omega

theorem ofDigits_eq (ds : List Char) : ofDigits ds = Nat.ofDigitChars 10 ds 0 := rfl

theorem ofDigits_padded : ofDigits (padded width n) = n := by
  simp [ofDigits_eq, padded, digits, Nat.ofDigitChars_append]

theorem ofDigits_append_zeros (ds : List Char) (k : Nat) :
    ofDigits (ds ++ List.replicate k '0') = 10 ^ k * ofDigits ds := by
  rw [ofDigits_eq, Nat.ofDigitChars_append, Nat.ofDigitChars_replicate_zero, ofDigits_eq]

end Decimal

namespace Instant

open Text (trimStart isBlank trimStart_cons isBlank_of_isDigit)
open Decimal (padded isDigit_of_mem_padded padded_ne_nil length_padded ofDigits_padded)

/-! ## Numbers -/

variable {c : Char} {n width : Nat} {ds rest : List Char}

/-- What follows is no digit. -/
def Ends (rest : List Char) : Prop := ∀ c, rest.head? = some c → c.isDigit = false

theorem ends_cons (h : c.isDigit = false) (rest : List Char) : Ends (c :: rest) := by
  rintro d ⟨⟩
  exact h

theorem spanDigits_append (hds : ∀ c ∈ ds, c.isDigit = true) (hlength : ds.length ≤ width) (hrest : Ends rest) :
    spanDigits width (ds ++ rest) = (ds, rest) := by
  induction ds generalizing width with
  | nil =>
    cases width with
    | zero => rfl
    | succ width =>
      cases rest with
      | nil => rfl
      | cons c rest => simp [spanDigits, hrest c rfl]
  | cons d ds ih =>
    obtain ⟨hd, hds⟩ := List.forall_mem_cons.1 hds
    cases width with
    | zero => cases hlength
    | succ width => simp [spanDigits, hd, ih hds (Nat.le_of_succ_le_succ hlength)]

theorem number?_append {bound : Nat} (h : (padded width n).length ≤ bound) (hrest : Ends rest) :
    number? bound (padded width n ++ rest) = some (n, rest) := by
  rw [number?, spanDigits_append (fun c hc => isDigit_of_mem_padded hc) h hrest]
  split
  · rename_i heq
    cases padded_ne_nil (congrArg Prod.fst heq)
  · rename_i heq
    cases heq
    rw [ofDigits_padded]

theorem number?_padded (hwidth : 0 < width) (h : n < 10 ^ width) (hrest : Ends rest) :
    number? width (padded width n ++ rest) = some (n, rest) := number?_append (length_padded hwidth h).le hrest

/-- A number begins with a digit. -/
theorem exists_padded_cons (width n : Nat) : ∃ c ds, padded width n = c :: ds ∧ c.isDigit = true := by
  have hne : padded width n ≠ [] := padded_ne_nil
  obtain ⟨c, ds, h⟩ := List.exists_cons_of_ne_nil hne
  exact ⟨c, ds, h, isDigit_of_mem_padded (h ▸ List.mem_cons_self)⟩

theorem trimStart_padded (width n : Nat) (rest : List Char) :
    trimStart (padded width n ++ rest) = padded width n ++ rest := by
  obtain ⟨c, ds, h, hc⟩ := exists_padded_cons width n
  rw [h, List.cons_append, trimStart_cons, isBlank_of_isDigit hc]
  rfl

theorem field?_padded (h : n < 100) (hrest : Ends rest) : field? (padded 2 n ++ rest) = some (n, rest) := by
  rw [field?, trimStart_padded]
  exact number?_padded (by decide) h hrest

theorem year?_of_isDigit (hc : c.isDigit = true) (rest : List Char) :
    year? (c :: rest) = (number? 4 (c :: rest)).map fun (n, r) => ((n : Int), r) := by
  rw [year?, trimStart_cons, isBlank_of_isDigit hc]
  simp only [Bool.false_eq_true, if_false]
  split
  · rename_i heq
    cases heq
    cases hc
  · rename_i heq
    cases heq
    cases hc
  · rfl

/-- Behind a sign a year may have any number of digits. -/
theorem number?_signed (hrest : Ends rest) :
    number? (padded width n ++ rest).length (padded width n ++ rest) = some (n, rest) := by
  refine number?_append ?_ hrest
  rw [List.length_append]
  exact Nat.le_add_right _ _

theorem year?_yearText (y : Int) (hrest : Ends rest) : year? (yearText y ++ rest) = some (y, rest) := by
  rw [yearText]
  split_ifs with hy hneg
  · obtain ⟨c, ds, h, hc⟩ := exists_padded_cons 4 y.toNat
    have hnumber : number? 4 (padded 4 y.toNat ++ rest) = some (y.toNat, rest) :=
      number?_padded (by decide) (by omega) hrest
    rw [h, List.cons_append] at hnumber ⊢
    rw [year?_of_isDigit hc, hnumber]
    exact congrArg some (Prod.ext (Int.toNat_of_nonneg hy.1) rfl)
  · have hsign : year? ('-' :: (padded 4 y.natAbs ++ rest)) =
        (number? (padded 4 y.natAbs ++ rest).length (padded 4 y.natAbs ++ rest)).map
          fun (n, r) => (-(n : Int), r) := rfl
    rw [List.cons_append, hsign, number?_signed hrest]
    exact congrArg some (Prod.ext (by simp only; omega) rfl)
  · have hsign : year? ('+' :: (padded 4 y.natAbs ++ rest)) =
        (number? (padded 4 y.natAbs ++ rest).length (padded 4 y.natAbs ++ rest)).map fun (n, r) => ((n : Int), r) := rfl
    rw [List.cons_append, hsign, number?_signed hrest]
    exact congrArg some (Prod.ext (by simp only; omega) rfl)

theorem mark?_cons (h : isBlank c = false) (rest : List Char) : mark? c (c :: rest) = some rest := by
  simp [mark?, trimStart_cons, h]

/-! ## Fractions -/

theorem fraction?_digits (hne : ds ≠ []) (hds : ∀ c ∈ ds, c.isDigit = true) (hlength : ds.length ≤ 9)
    (hrest : Ends rest) :
    fraction? ('.' :: (ds ++ rest)) = some (10 ^ (9 - ds.length) * Decimal.ofDigits ds, rest) := by
  have hdrop : rest.dropWhile Char.isDigit = rest := by
    cases rest with
    | nil => rfl
    | cons c rest => exact List.dropWhile_cons_of_neg (by simp [hrest c rfl])
  rw [fraction?, spanDigits_append hds hlength hrest]
  split
  · rename_i heq
    cases hne (congrArg Prod.fst heq)
  · rename_i heq
    cases heq
    rw [Decimal.ofDigits_append_zeros, hdrop]

theorem fraction?_padded {width n : Nat} (hwidth : 0 < width) (hle : width ≤ 9) (h : n < 10 ^ width)
    (hrest : Ends rest) :
    fraction? ('.' :: (padded width n ++ rest)) = some (10 ^ (9 - width) * n, rest) := by
  have hlength := length_padded hwidth h
  rw [fraction?_digits padded_ne_nil (fun c hc => isDigit_of_mem_padded hc) (by omega) hrest, hlength, ofDigits_padded]

/-- A fraction loses nothing, however few digits it is written with. -/
theorem fraction?_fractionText (h : n < nanosPerSecond) :
    fraction? (fractionText n ++ ['Z']) = some (n, ['Z']) := by
  have hrest : Ends ['Z'] := ends_cons rfl []
  have hlt : n < 1000000000 := h
  rw [fractionText]
  split_ifs with hzero hthree hsix
  · rw [hzero]
    rfl
  · rw [List.cons_append, fraction?_padded (by decide) (by decide) (by omega) hrest]
    congr 2
    omega
  · rw [List.cons_append, fraction?_padded (by decide) (by decide) (by omega) hrest]
    congr 2
    omega
  · rw [List.cons_append, fraction?_padded (by decide) (by decide) hlt hrest]
    simp

/-! ## Instants -/

variable {i : Instant}

/-- A leap second, if it is one, ends a minute. -/
def IsOnClock (i : Instant) : Prop := i.isLeap = true → i.secondOfDay % 60 = 59

/-- **The instants that have a text.** -/
def IsCivil (i : Instant) : Prop := isYear i.date.year = true ∧ i.IsOnClock

/-- **The instants whose year has four digits.** -/
def IsWritable (i : Instant) : Prop := (0 ≤ i.date.year ∧ i.date.year ≤ 9999) ∧ i.IsOnClock

instance (i : Instant) : Decidable i.IsOnClock :=
  inferInstanceAs (Decidable (i.isLeap = true → i.secondOfDay % 60 = 59))

instance (i : Instant) : Decidable i.IsCivil :=
  inferInstanceAs (Decidable (isYear i.date.year = true ∧ i.IsOnClock))

instance (i : Instant) : Decidable i.IsWritable :=
  inferInstanceAs (Decidable ((0 ≤ i.date.year ∧ i.date.year ≤ 9999) ∧ i.IsOnClock))

theorem secondOfDay_lt (i : Instant) : i.secondOfDay < 86400 := by
  simp only [secondOfDay, secondsPerDay]
  omega

/-- An instant from its day and second. -/
theorem second_eq (i : Instant) : i.second = i.date.toDays * secondsPerDay + i.secondOfDay := by
  rw [date, Date.toDays_ofDays]
  simp only [secondOfDay, secondsPerDay]
  omega

theorem total_eq (i : Instant) : (i.fraction + if i.isLeap then nanosPerSecond else 0) = i.nano := by
  have hnano := i.nano_lt
  cases hleap : i.isLeap with
  | false =>
    have : i.nano < 1000000000 := by simpa [isLeap] using hleap
    simp only [fraction, nanosPerSecond, Bool.false_eq_true, if_false]
    omega
  | true =>
    have : 1000000000 ≤ i.nano := by simpa [isLeap] using hleap
    simp only [fraction, nanosPerSecond, if_true]
    omega

/-- The clock of an instant shows second 60 exactly in a leap second. -/
theorem IsOnClock.second_eq_sixty (h : i.IsOnClock) :
    i.secondOfDay % 60 + (if i.isLeap then 1 else 0) = 60 ↔ i.isLeap = true := by
  cases hleap : i.isLeap with
  | false =>
    simp only [Bool.false_eq_true, if_false, iff_false]
    omega
  | true =>
    simp only [if_true, iff_true]
    rw [h hleap]

theorem IsWritable.isCivil (h : i.IsWritable) : i.IsCivil := by
  obtain ⟨⟨hlow, hhigh⟩, hclock⟩ := h
  refine ⟨?_, hclock⟩
  simp only [isYear, Bool.and_eq_true, decide_eq_true_eq]
  omega

/-- Date and clock of an instant, with a fraction, make the instant of that second with that fraction. -/
theorem ofFields?_date {j : Instant} (h : i.IsCivil) (hsecond : j.second = i.second)
    (hnano : (n + if i.isLeap then nanosPerSecond else 0) = j.nano) :
    ofFields? i.date (i.secondOfDay / 3600) (i.secondOfDay / 60 % 60)
      (i.secondOfDay % 60 + if i.isLeap then 1 else 0) n 0 = some j := by
  obtain ⟨hyear, hclock⟩ := h
  have hday := i.secondOfDay_lt
  have hvalid : i.date.isValid = true := Date.isValid_ofDays _
  have hhour : i.secondOfDay / 3600 < 24 := by omega
  have hminute : i.secondOfDay / 60 % 60 < 60 := by omega
  have hle : i.secondOfDay % 60 + (if i.isLeap then 1 else 0) ≤ 60 := by split_ifs <;> omega
  have hsum : i.date.toDays * secondsPerDay + (i.secondOfDay / 3600 * 3600 + i.secondOfDay / 60 % 60 * 60 +
      (i.secondOfDay % 60 + if i.isLeap then 1 else 0) : Nat) - (if i.isLeap then 1 else 0) - 0 = j.second := by
    rw [hsecond, i.second_eq]
    split_ifs <;> omega
  have hdate : j.date = i.date := by rw [date, date, hsecond]
  have hyear' : isYear (Instant.date { second := j.second, nano := j.nano, nano_lt := j.nano_lt }).year = true := by
    rw [← hdate] at hyear
    exact hyear
  rw [ofFields?]
  simp only [hvalid, hyear, hhour, hminute, hle, hclock.second_eq_sixty, hnano, decide_true, Bool.and_self,
    show Int.natAbs 0 < secondsPerDay from by decide, hsum, j.nano_lt, hyear', if_true, dif_pos]

theorem ends_fractionText (n : Nat) : Ends (fractionText n ++ ['Z']) := by
  rw [fractionText]
  split_ifs <;> exact ends_cons rfl _

theorem bind_of_eq_some {α β : Type} {x : Option α} {a : α} (h : x = some a) (f : α → Option β) : x >>= f = f a := by
  rw [h]
  rfl

/-- An instant up to its second is read with the fraction that follows it. -/
theorem parseChars?_stem (i : Instant) {fraction : List Char} (hends : Ends (fraction ++ ['Z']))
    (hfraction : fraction? (fraction ++ ['Z']) = some (n, ['Z'])) :
    parseChars? (i.stem ++ (fraction ++ ['Z'])) =
      ofFields? i.date (i.secondOfDay / 3600) (i.secondOfDay / 60 % 60)
        (i.secondOfDay % 60 + if i.isLeap then 1 else 0) n 0 := by
  have hvalid : i.date.isValid = true := Date.isValid_ofDays _
  have hmonth : i.date.month < 100 := by
    simp only [Date.isValid, Bool.and_eq_true, decide_eq_true_eq] at hvalid
    omega
  have hday : i.date.day < 100 := by
    have := Date.daysIn_le i.date.year i.date.month
    simp only [Date.isValid, Bool.and_eq_true, decide_eq_true_eq] at hvalid
    omega
  have hsecond := i.secondOfDay_lt
  have hdash (rest : List Char) : Ends ('-' :: rest) := ends_cons rfl rest
  have hcolon (rest : List Char) : Ends (':' :: rest) := ends_cons rfl rest
  have hoffset : offset? (trimStart ['Z']) = some (0, []) := rfl
  have htext : i.stem ++ (fraction ++ ['Z']) = yearText i.date.year ++ '-' :: (padded 2 i.date.month ++ '-' ::
      (padded 2 i.date.day ++ 'T' :: (padded 2 (i.secondOfDay / 3600) ++ ':' :: (padded 2 (i.secondOfDay / 60 % 60) ++
        ':' :: (padded 2 (i.secondOfDay % 60 + if i.isLeap then 1 else 0) ++ (fraction ++ ['Z'])))))) := by
    simp only [stem, dateText, clockText, List.append_assoc, List.cons_append]
  rw [htext]
  refine (bind_of_eq_some (year?_yearText _ (hdash _)) _).trans ?_
  refine (bind_of_eq_some (mark?_cons rfl _) _).trans ?_
  refine (bind_of_eq_some (field?_padded hmonth (hdash _)) _).trans ?_
  refine (bind_of_eq_some (mark?_cons rfl _) _).trans ?_
  refine (bind_of_eq_some (field?_padded hday (ends_cons rfl _)) _).trans ?_
  refine (bind_of_eq_some (field?_padded (by omega) (hcolon _)) _).trans ?_
  refine (bind_of_eq_some (mark?_cons rfl _) _).trans ?_
  refine (bind_of_eq_some (field?_padded (by omega) (hcolon _)) _).trans ?_
  refine (bind_of_eq_some (mark?_cons rfl _) _).trans ?_
  refine (bind_of_eq_some (field?_padded (by split_ifs <;> omega) hends) _).trans ?_
  refine (bind_of_eq_some hfraction _).trans ?_
  exact bind_of_eq_some hoffset _

/-- **An instant is read from its written form.** -/
theorem parseChars?_renderChars (h : i.IsCivil) : parseChars? i.renderChars = some i := by
  have hfraction : i.fraction < nanosPerSecond := Nat.mod_lt _ (by decide)
  rw [renderChars, parseChars?_stem i (ends_fractionText _) (fraction?_fractionText hfraction)]
  exact ofFields?_date h rfl i.total_eq

theorem parse?_render (h : i.IsCivil) : parse? i.render = some i := by
  rw [parse?, render, String.toList_ofList]
  exact parseChars?_renderChars h

/-- The beginning of an instant's second. -/
def wholeSecond (i : Instant) : Instant :=
  { second := i.second
    nano := if i.isLeap then nanosPerSecond else 0
    nano_lt := by split <;> decide }

/-- **Without its fraction an instant is read as the beginning of its second.** -/
theorem parse?_renderSeconds (h : i.IsCivil) : parse? i.renderSeconds = some i.wholeSecond := by
  have hfraction : fraction? ([] ++ ['Z']) = some (0, ['Z']) := rfl
  have hends : Ends ([] ++ ['Z']) := ends_cons rfl []
  rw [parse?, renderSeconds, String.toList_ofList, ← List.nil_append ['Z'], parseChars?_stem i hends hfraction]
  exact ofFields?_date h rfl (Nat.zero_add _)

end Instant

end AssetGraph
