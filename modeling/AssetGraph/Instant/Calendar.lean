/-!
# The calendar

Dates of the Gregorian calendar, carried on in both directions, and the day count that an instant is
built on.  A year is taken to begin in March, so that the leap day is the last one and the months'
lengths repeat every five; 400 such years have 146097 days.
-/
namespace AssetGraph

/-- A date: year, month from 1, day from 1. -/
structure Date where
  year : Int
  month : Nat
  day : Nat
deriving DecidableEq, Repr

namespace Date

def isLeap (year : Int) : Bool := year % 4 == 0 && (year % 100 != 0 || year % 400 == 0)

def daysIn (year : Int) (month : Nat) : Nat :=
  if month == 2 then (if isLeap year then 29 else 28)
  else if month == 4 || month == 6 || month == 9 || month == 11 then 30
  else 31

/-- **A date that the calendar has.** -/
def isValid (d : Date) : Bool :=
  1 ≤ d.month && d.month ≤ 12 && 1 ≤ d.day && d.day ≤ daysIn d.year d.month

/-- Days of a 400-year cycle. -/
abbrev cycleDays : Nat := 146097

/-- Days from 1 March of year 0 to 1 January 1970. -/
abbrev epochShift : Int := 719468

/-- The year that holds the date when years begin in March. -/
def marchYear (d : Date) : Int := if d.month ≤ 2 then d.year - 1 else d.year

/-- Days since the first of March. -/
def dayOfMarchYear (d : Date) : Nat := (153 * ((d.month + 9) % 12) + 2) / 5 + d.day - 1

/-- Days from 1970 to the date. -/
def toDays (d : Date) : Int :=
  let y := d.marchYear
  let yearOfCycle := y % 400
  y / 400 * cycleDays + yearOfCycle * 365 + yearOfCycle / 4 - yearOfCycle / 100 +
    d.dayOfMarchYear - epochShift

/-- The date that lies the given number of days after 1970. -/
def ofDays (days : Int) : Date :=
  let shifted := days + epochShift
  let dayOfCycle := (shifted % cycleDays).toNat
  let yearOfCycle := (dayOfCycle - dayOfCycle / 1460 + dayOfCycle / 36524 - dayOfCycle / 146096) / 365
  let dayOfYear := dayOfCycle - (365 * yearOfCycle + yearOfCycle / 4 - yearOfCycle / 100)
  let monthFromMarch := (5 * dayOfYear + 2) / 153
  let month := if monthFromMarch < 10 then monthFromMarch + 3 else monthFromMarch - 9
  let year : Int := shifted / cycleDays * 400 + yearOfCycle
  { year := if month ≤ 2 then year + 1 else year
    month
    day := dayOfYear - (153 * monthFromMarch + 2) / 5 + 1 }

end Date

end AssetGraph
