/-
A date with a time of day in nanoseconds. A leap second is written as the
second before it with a thousand million nanoseconds or more; only the last
second of a minute can have one. Instants are microseconds since the
beginning of 2000.
-/
import ParamQuery.Calendar.Date

namespace ParamQuery.Calendar

/-- Nanoseconds of a second. -/
def nanosPerSecond : Nat := 1000000000

/-- Seconds of a day. -/
def secondsPerDay : Nat := 86400

/-- Whether a second of the day and its nanoseconds are a time. -/
def isTime (second nano : Nat) : Bool :=
  second < secondsPerDay && nano < 2 * nanosPerSecond &&
    (nano < nanosPerSecond || second % 60 == 59)

/-- A date and a time of day. -/
structure Timestamp where
  date : Date
  second : Nat
  nano : Nat
  is_time : isTime second nano = true
  deriving DecidableEq

namespace Timestamp

/-- The timestamp of a date, the seconds since midnight and the nanoseconds, if they are a time. -/
def make? (date : Date) (second nano : Nat) : Option Timestamp :=
  if h : isTime second nano = true then .some ⟨date, second, nano, h⟩ else .none

/-- The beginning of a day. -/
def midnight (date : Date) : Timestamp := ⟨date, 0, 0, by decide⟩

instance : Inhabited Timestamp := ⟨midnight .epoch⟩

/-- The hour. -/
def hour (t : Timestamp) : Nat := t.second / 3600

/-- The minute of the hour. -/
def minute (t : Timestamp) : Nat := t.second / 60 % 60

/-- The second of the minute, 60 in a leap second. -/
def secondOfMinute (t : Timestamp) : Nat := t.second % 60 + t.nano / nanosPerSecond

/-- The nanoseconds within the second. -/
def fraction (t : Timestamp) : Nat := t.nano % nanosPerSecond

/-- The timestamp of hours, minutes, seconds up to 60, and nanoseconds, each in its range. -/
def ofClock? (date : Date) (hour minute second nano : Nat) : Option Timestamp :=
  if hour < 24 ∧ minute < 60 ∧ second ≤ 60 ∧ nano < nanosPerSecond then
    if second = 60 then make? date (hour * 3600 + minute * 60 + 59) (nano + nanosPerSecond)
    else make? date (hour * 3600 + minute * 60 + second) nano
  else .none

/-- The microseconds since 2000, cut towards zero. -/
def micros (t : Timestamp) : Int :=
  Int.tdiv ((t.date.number * secondsPerDay + t.second) * nanosPerSecond + t.nano) 1000

/-- The timestamp of microseconds since 2000, if its year is in range. -/
def ofMicros? (us : Int) : Option Timestamp :=
  let perDay : Int := secondsPerDay * 1000000
  (Date.ofNumber? (us / perDay)).bind fun date =>
    let rest := (us % perDay).toNat
    make? date (rest / 1000000) (rest % 1000000 * 1000)

/-- The same clock, `minutes` earlier. -/
def minusMinutes? (t : Timestamp) (minutes : Int) : Option Timestamp :=
  let total := t.date.number * secondsPerDay + t.second - minutes * 60
  (Date.ofNumber? (total / secondsPerDay)).bind fun date =>
    make? date (total % secondsPerDay).toNat t.nano

end Timestamp

end ParamQuery.Calendar
