/-
Dates of the proleptic Gregorian calendar, numbered by the days since the
first of January 2000. Years are astronomical: the year before 1 is 0. A
day number is split into cycles of 400 years of 146097 days each, counted
from the first of March, so that a leap day ends its year.
-/
namespace ParamQuery.Calendar

/-- Whether a year has a 29th of February. -/
def isLeap (year : Int) : Bool := year % 4 == 0 && (year % 100 != 0 || year % 400 == 0)

/-- The number of days of a month; none for a number that names no month. -/
def daysIn (year : Int) (month : Nat) : Nat :=
  match month with
  | 2 => if isLeap year then 29 else 28
  | 4 | 6 | 9 | 11 => 30
  | 1 | 3 | 5 | 7 | 8 | 10 | 12 => 31
  | _ => 0

/-- The first year that a date can have. -/
def firstYear : Int := -262143

/-- The last year that a date can have. -/
def lastYear : Int := 262142

/-- Whether the three numbers name a day of a year in range. -/
def isDay (year : Int) (month day : Nat) : Bool :=
  decide (firstYear ≤ year) && decide (year ≤ lastYear) && 1 ≤ day && day ≤ daysIn year month

/-- A date. -/
structure Date where
  year : Int
  month : Nat
  day : Nat
  is_day : isDay year month day = true
  deriving DecidableEq

namespace Date

/-- The date of the three numbers, if they name a day. -/
def make? (year : Int) (month day : Nat) : Option Date :=
  if h : isDay year month day = true then .some ⟨year, month, day, h⟩ else .none

/-- The first of January 1970. -/
def epoch : Date := ⟨1970, 1, 1, by decide⟩

instance : Inhabited Date := ⟨epoch⟩

/-- The days from the first of March of year 0 to the first of January 2000. -/
def march0 : Int := 730425

/-- The number of days since the first of January 2000. -/
def number (d : Date) : Int :=
  let y := if d.month ≤ 2 then d.year - 1 else d.year
  let m := if d.month ≤ 2 then d.month + 9 else d.month - 3
  365 * y + y / 4 - y / 100 + y / 400 + ((153 * m + 2) / 5 + d.day - 1 : Nat) - march0

/-- The year, counted from March, within a cycle of 400, of the day `n` of the cycle. -/
def yearOfCycle (n : Nat) : Nat := (n - n / 1460 + n / 36524 - n / 146096) / 365

/-- The date of a day number, if its year is in range. -/
def ofNumber? (n : Int) : Option Date :=
  let z := n + march0
  let doe := (z % 146097).toNat
  let yoe := yearOfCycle doe
  let doy := doe - (365 * yoe + yoe / 4 - yoe / 100)
  let mp := (5 * doy + 2) / 153
  let day := doy - (153 * mp + 2) / 5 + 1
  let month := if mp < 10 then mp + 3 else mp - 9
  let year : Int := yoe + z / 146097 * 400 + (if month ≤ 2 then 1 else 0)
  make? year month day

end Date

end ParamQuery.Calendar
