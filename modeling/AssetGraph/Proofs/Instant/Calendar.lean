import AssetGraph.Instant.Calendar
import Mathlib.Tactic.IntervalCases
/-!
# A day count and its date

Every day has a date that the calendar has (`isValid_ofDays`), and the date has its day (`toDays_ofDays`).
A day of a 400-year cycle is split into the centuries, the spans of four years and the years that are over, and
the days since (`CycleDay`); year and day that the date is made of are read off the split.
-/
namespace AssetGraph.Date

/-- **The split of a day of a cycle.**  A last day of 366 ends a fourth year, and that of a last span only in
the last century. -/
structure CycleDay (dayOfCycle century span year day : Nat) : Prop where
  eq : dayOfCycle = 36524 * century + 1461 * span + 365 * year + day
  century_le : century ≤ 3
  span_le : span ≤ 24
  year_le : year ≤ 3
  day_le : day ≤ 365
  leap : day = 365 → year = 3 ∧ (span = 24 → century = 3)

theorem exists_century {d : Nat} (h : d < cycleDays) :
    ∃ century r, d = 36524 * century + r ∧ century ≤ 3 ∧ r ≤ 36524 ∧ (r = 36524 → century = 3) := by
  by_cases hlast : d = 146096
  · exact ⟨3, 36524, by omega⟩
  · have : d < 146097 := h
    exact ⟨d / 36524, d % 36524, by omega⟩

theorem exists_cycleDay {d : Nat} (h : d < cycleDays) :
    ∃ century span year day, CycleDay d century span year day := by
  obtain ⟨century, r, rfl, hcentury, hr, hlast⟩ := exists_century h
  by_cases hleap : r % 1461 = 1460
  · exact ⟨century, r / 1461, 3, 365, by constructor <;> omega⟩
  · exact ⟨century, r / 1461, r % 1461 / 365, r % 1461 % 365, by constructor <;> omega⟩

variable {d century span year day : Nat}

theorem CycleDay.lt (h : CycleDay d century span year day) : d < cycleDays := by
  obtain ⟨rfl, hcentury, hspan, hyear, hday, hleap⟩ := h
  show _ < 146097
  omega

/-- The days beyond 1460 for each year gone by stay below two such counts. -/
theorem CycleDay.div_span (h : CycleDay d century span year day) :
    d / 1460 = 25 * century + span ∧ 24 * century + span + 365 * year + day < 1460 ∨
      d / 1460 = 25 * century + span + 1 ∧ 0 < day ∧ 1460 ≤ 24 * century + span + 365 * year + day := by
  obtain ⟨rfl, hcentury, hspan, hyear, hday, hleap⟩ := h
  have hsum : 36524 * century + 1461 * span + 365 * year + day =
      1460 * (25 * century + span) + (24 * century + span + 365 * year + day) := by omega
  rw [hsum]
  by_cases hover : 24 * century + span + 365 * year + day < 1460
  · exact .inl ⟨Nat.div_eq_of_lt_le (by omega) (by omega), hover⟩
  · exact .inr ⟨Nat.div_eq_of_lt_le (by omega) (by omega), by omega, by omega⟩

theorem CycleDay.div_century (h : CycleDay d century span year day) :
    d / 36524 = century + d / 146096 := by
  have hlt : d < 146097 := h.lt
  obtain ⟨rfl, hcentury, hspan, hyear, hday, hleap⟩ := h
  by_cases hlast : 36524 * century + 1461 * span + 365 * year + day = 146096
  · rw [hlast]
    omega
  · rw [Nat.div_eq_of_lt (show _ < 146096 by omega), Nat.div_eq_of_lt_le] <;> omega

/-- The year that the date is made of. -/
theorem CycleDay.yearOfCycle (h : CycleDay d century span year day) :
    (d - d / 1460 + d / 36524 - d / 146096) / 365 = 100 * century + 4 * span + year := by
  have hcount : d = 1460 * (25 * century + span) + (24 * century + span + 365 * year + day) := by
    have := h.eq
    omega
  have hdiv := h.div_span
  rw [h.div_century]
  obtain ⟨-, hcentury, hspan, hyear, hday, hleap⟩ := h
  generalize d / 146096 = k
  obtain ⟨hdiv, hover⟩ | ⟨hdiv, hpos, hover⟩ := hdiv
  · rw [hdiv]
    exact Nat.div_eq_of_lt_le (by omega) (by omega)
  · rw [hdiv]
    exact Nat.div_eq_of_lt_le (by omega) (by omega)

/-- The day of the year that the date is made of. -/
theorem CycleDay.dayOfYear (h : CycleDay d century span year day) {y : Nat}
    (hy : y = 100 * century + 4 * span + year) :
    d - (365 * y + y / 4 - y / 100) = day := by
  obtain ⟨rfl, hcentury, hspan, hyear, hday, hleap⟩ := h
  have hfour : y / 4 = 25 * century + span := by omega
  have hhundred : y / 100 = century := by omega
  rw [hfour, hhundred]
  omega

/-! ## The date of a day -/

/-- The date of a day of a year that begins in March. -/
def ofMarchDay (marchYear : Int) (day : Nat) : Date :=
  let monthFromMarch := (5 * day + 2) / 153
  let month := if monthFromMarch < 10 then monthFromMarch + 3 else monthFromMarch - 9
  { year := if month ≤ 2 then marchYear + 1 else marchYear
    month
    day := day - (153 * monthFromMarch + 2) / 5 + 1 }

theorem marchYear_ofMarchDay (y : Int) {day : Nat} (h : day ≤ 365) : (ofMarchDay y day).marchYear = y := by
  simp only [ofMarchDay, marchYear]
  split_ifs <;> omega

theorem dayOfMarchYear_ofMarchDay (y : Int) {day : Nat} (h : day ≤ 365) :
    (ofMarchDay y day).dayOfMarchYear = day := by
  have hmonth : (5 * day + 2) / 153 ≤ 11 := by omega
  have hstart : (153 * ((5 * day + 2) / 153) + 2) / 5 ≤ day := by omega
  simp only [ofMarchDay, dayOfMarchYear]
  generalize (5 * day + 2) / 153 = m at *
  have hm : ((if m < 10 then m + 3 else m - 9) + 9) % 12 = m := by
    split_ifs <;> omega
  rw [hm]
  omega

theorem le_daysIn_february (year : Int) : 28 ≤ daysIn year 2 := by
  cases h : isLeap year <;> simp [daysIn, h]

theorem isValid_ofMarchDay {y : Int} {day : Nat} (h : day ≤ 365) (hleap : day = 365 → isLeap (y + 1) = true) :
    (ofMarchDay y day).isValid = true := by
  obtain ⟨m, hm⟩ : ∃ m, (5 * day + 2) / 153 = m := ⟨_, rfl⟩
  have hmonth : m ≤ 11 := by omega
  simp only [ofMarchDay, isValid, hm]
  obtain hlt | rfl := Nat.lt_or_eq_of_le hmonth
  · interval_cases m <;> simp [daysIn] <;> omega
  · -- February is the last month of such a year, and the one whose length depends on it
    by_cases hlast : day = 365
    · simp [daysIn, hleap hlast, hlast]
    · have hday : day - 337 + 1 ≤ daysIn (y + 1) 2 := by
        have := le_daysIn_february (y + 1)
        omega
      simp only [Bool.and_eq_true, decide_eq_true_eq]
      exact ⟨⟨⟨by decide, by decide⟩, by omega⟩, hday⟩

/-! ## Both ways -/

theorem daysIn_le (year : Int) (month : Nat) : daysIn year month ≤ 31 := by
  rw [daysIn]
  split_ifs <;> omega

variable (n : Int)

theorem dayOfCycle_nonneg : 0 ≤ (n + epochShift) % cycleDays := Int.emod_nonneg _ (by decide)

/-- The split of a day of its cycle, and the date made of it. -/
theorem cycleDay_ofDays : ∃ century span year day,
    CycleDay ((n + epochShift) % cycleDays).toNat century span year day ∧
      ofDays n = ofMarchDay ((n + epochShift) / cycleDays * 400 + (100 * century + 4 * span + year : Nat)) day := by
  have hlt : ((n + epochShift) % cycleDays).toNat < cycleDays :=
    (Int.toNat_lt (dayOfCycle_nonneg n)).2 (Int.emod_lt_of_pos _ (by decide))
  obtain ⟨century, span, year, day, h⟩ := exists_cycleDay hlt
  refine ⟨century, span, year, day, h, ?_⟩
  simp only [ofDays, h.yearOfCycle, h.dayOfYear rfl, ofMarchDay]

/-- **A day has a date that the calendar has.** -/
theorem isValid_ofDays : (ofDays n).isValid = true := by
  obtain ⟨century, span, year, day, h, heq⟩ := cycleDay_ofDays n
  rw [heq]
  refine isValid_ofMarchDay h.day_le fun hday => ?_
  obtain ⟨hyear, hspan⟩ := h.leap hday
  have := h.century_le
  have := h.span_le
  simp [isLeap]
  omega

/-- **The date of a day has that day.** -/
theorem toDays_ofDays : (ofDays n).toDays = n := by
  obtain ⟨century, span, year, day, h, heq⟩ := cycleDay_ofDays n
  obtain ⟨hd, hcentury, hspan, hyear, hday, -⟩ := h
  have hsplit := Int.ediv_mul_add_emod (n + epochShift) cycleDays
  rw [← Int.toNat_of_nonneg (dayOfCycle_nonneg n), hd] at hsplit
  rw [heq]
  simp only [toDays, marchYear_ofMarchDay _ hday, dayOfMarchYear_ofMarchDay _ hday]
  generalize (n + epochShift) / cycleDays = c at hsplit ⊢
  generalize hy : 100 * century + 4 * span + year = y
  have hcycle : (c * 400 + (y : Int)) / 400 = c := by omega
  have hyears : (c * 400 + (y : Int)) % 400 = y := by omega
  have hfour : (y : Int) / 4 = 25 * century + span := by omega
  have hhundred : (y : Int) / 100 = century := by omega
  rw [hcycle, hyears, hfour, hhundred]
  omega

end AssetGraph.Date
