/-
The text of dates and timestamps. A year has at least four digits; outside
of 0 to 9999 it carries its sign.
-/
import ParamQuery.Calendar.Timestamp
import ParamQuery.Number.Digits

namespace ParamQuery.Calendar

open Number (padded)

/-- The text of a year. -/
def yearText (year : Int) : List Char :=
  if 0 ≤ year ∧ year ≤ 9999 then padded 4 year.toNat
  else (if year < 0 then '-' else '+') :: padded 4 year.natAbs

/-- Year, month and day, with dashes. -/
def Date.chars (d : Date) : List Char :=
  yearText d.year ++ '-' :: padded 2 d.month ++ '-' :: padded 2 d.day

/-- The text of a date. -/
def Date.text (d : Date) : String := .ofList d.chars

namespace Timestamp

/-- Hours, minutes and seconds, with colons. -/
def clock (t : Timestamp) : List Char :=
  padded 2 t.hour ++ ':' :: padded 2 t.minute ++ ':' :: padded 2 t.secondOfMinute

/-- The text of a timestamp without zone: no fraction. -/
def text (t : Timestamp) : String := .ofList (t.date.chars ++ ' ' :: t.clock)

/-- The fraction in as few groups of three digits as hold it. -/
def fractionText (t : Timestamp) : List Char :=
  let n := t.fraction
  if n = 0 then []
  else if n % 1000000 = 0 then '.' :: padded 3 (n / 1000000)
  else if n % 1000 = 0 then '.' :: padded 6 (n / 1000)
  else '.' :: padded 9 n

/-- The text of a timestamp in UTC. -/
def utcText (t : Timestamp) : String :=
  .ofList (t.date.chars ++ 'T' :: t.clock ++ t.fractionText ++ "+00:00".toList)

end Timestamp

end ParamQuery.Calendar
