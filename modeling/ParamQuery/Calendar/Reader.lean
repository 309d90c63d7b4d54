/-
Reading dates and timestamps.

The loose form takes one-digit months, blanks before a number, a signed
year of any length, and a blank or nothing, or a `T`, between date and
clock. The strict form, which carries an offset, takes every field in full
width. Every step gives what it read and the rest of the text. In both a
second of 60 is a leap second, and digits of a fraction
behind the ninth are ignored.
-/
import ParamQuery.Calendar.Timestamp
import ParamQuery.Number.Digits
import ParamQuery.Text.Blank

namespace ParamQuery.Calendar

open Number (valueOf)
open Text (trimStart)

/-- A number of at least one digit and at most `width`. -/
def scanNumber (width : Nat) (cs : List Char) : Option (Nat × List Char) :=
  let ds := (cs.take width).takeWhile Char.isDigit
  if ds.isEmpty then .none else .some (valueOf ds, cs.drop ds.length)

/-- A number of exactly `width` digits. -/
def scanExact (width : Nat) (cs : List Char) : Option (Nat × List Char) :=
  let ds := cs.take width
  if ds.length = width && ds.all Char.isDigit then .some (valueOf ds, cs.drop width) else .none

/-- The character `c`. -/
def scanChar (c : Char) : List Char → Option (List Char)
  | d :: cs => if d == c then .some cs else .none
  | [] => .none

/-- A number behind blanks. -/
def scanField (width : Nat) (cs : List Char) : Option (Nat × List Char) := scanNumber width (trimStart cs)

/-- A year behind blanks: four digits at most, or a sign and any number of them. -/
def scanYear (cs : List Char) : Option (Int × List Char) :=
  match trimStart cs with
  | '-' :: cs => (scanNumber cs.length cs).map fun (n, r) => (-(n : Int), r)
  | '+' :: cs => (scanNumber cs.length cs).map fun (n, r) => ((n : Int), r)
  | cs => (scanNumber 4 cs).map fun (n, r) => ((n : Int), r)

/-- The nanoseconds that a fraction of up to nine digits stands for; further digits are skipped. -/
def scanNanos (cs : List Char) : Option (Nat × List Char) :=
  let ds := cs.takeWhile Char.isDigit
  let kept := ds.take 9
  if kept.isEmpty then .none
  else .some (valueOf kept * Nat.pow 10 (9 - kept.length), cs.drop ds.length)

/-- An optional fraction. -/
def scanFraction : List Char → Option (Nat × List Char)
  | '.' :: cs => scanNanos cs
  | cs => .some (0, cs)

/-! ## The loose form -/

/-- Year, month and day. -/
def scanDate (cs : List Char) : Option (Date × List Char) := do
  let (year, cs) ← scanYear cs
  let cs ← scanChar '-' cs
  let (month, cs) ← scanField 2 cs
  let cs ← scanChar '-' cs
  let (day, cs) ← scanField 2 cs
  let date ← Date.make? year month day
  .some (date, cs)

/-- What stands between date and clock. -/
inductive Separator where
  | blank
  | letter
  deriving DecidableEq, Repr

/-- Skips the separator. Blanks may be missing. -/
def Separator.skip : Separator → List Char → Option (List Char)
  | .blank, cs => .some (trimStart cs)
  | .letter, cs => scanChar 'T' cs

/-- Hours, minutes, seconds and an optional fraction, on a date. -/
def scanClock (date : Date) (cs : List Char) : Option (Timestamp × List Char) := do
  let (hour, cs) ← scanField 2 cs
  let cs ← scanChar ':' cs
  let (minute, cs) ← scanField 2 cs
  let cs ← scanChar ':' cs
  let (second, cs) ← scanField 2 cs
  let (nano, cs) ← scanFraction cs
  let t ← Timestamp.ofClock? date hour minute second nano
  .some (t, cs)

/-- What has been read, if nothing is left. -/
def whole {α : Type} : Option (α × List Char) → Option α
  | .some (a, []) => .some a
  | _ => .none

/-- Reads a date. -/
def Date.read? (cs : List Char) : Option Date := whole (scanDate cs)

namespace Timestamp

/-- Reads a date and a clock with the given separator. -/
def readWith? (sep : Separator) (cs : List Char) : Option Timestamp := do
  let (date, cs) ← scanDate cs
  let cs ← sep.skip cs
  whole (scanClock date cs)

/-- Reads a timestamp, or a date as its midnight. -/
def read? (cs : List Char) : Option Timestamp :=
  (readWith? .blank cs).or ((readWith? .letter cs).or ((Date.read? cs).map midnight))

/-! ## The strict form -/

/-- An offset in minutes: `Z`, or a sign with hours and minutes, less than a day. -/
def scanOffset : List Char → Option (Int × List Char)
  | c :: cs =>
    if c == 'Z' || c == 'z' then .some (0, cs)
    else if c == '+' || c == '-' || c == '\u2212' then do
      let (hours, cs) ← scanExact 2 cs
      let cs ← scanChar ':' cs
      let (minutes, cs) ← scanExact 2 cs
      if hours < 24 ∧ minutes < 60 then
        let n : Int := (hours * 60 + minutes : Nat)
        .some (if c == '+' then n else -n, cs)
      else .none
    else .none
  | [] => .none

/-- The letter or blank between date and clock of the strict form. -/
def scanStrictSeparator : List Char → Option (List Char)
  | c :: cs => if c == 'T' || c == 't' || c == ' ' then .some cs else .none
  | [] => .none

/-- Reads a timestamp with an offset, as the clock in UTC. -/
def readStrict? (cs : List Char) : Option Timestamp := do
  let (year, cs) ← scanExact 4 cs
  let cs ← scanChar '-' cs
  let (month, cs) ← scanExact 2 cs
  let cs ← scanChar '-' cs
  let (day, cs) ← scanExact 2 cs
  let cs ← scanStrictSeparator cs
  let (hour, cs) ← scanExact 2 cs
  let cs ← scanChar ':' cs
  let (minute, cs) ← scanExact 2 cs
  let cs ← scanChar ':' cs
  let (second, cs) ← scanExact 2 cs
  let (nano, cs) ← scanFraction cs
  let offset ← whole (scanOffset cs)
  let date ← Date.make? year month day
  let t ← ofClock? date hour minute second nano
  t.minusMinutes? offset

/-- Reads a timestamp in UTC: with an offset, or else as one without. -/
def readUtc? (cs : List Char) : Option Timestamp := (readStrict? cs).or (read? cs)

end Timestamp

end ParamQuery.Calendar
