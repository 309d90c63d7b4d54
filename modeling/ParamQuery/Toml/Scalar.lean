/-
The values of a TOML document that are single words: numbers, truth values,
dates and times.
-/
import ParamQuery.Calendar.Reader
import ParamQuery.Text.Hex
import ParamQuery.Toml.Basic

namespace ParamQuery.Toml

open Calendar (scanChar scanExact)

/-! ## Numbers -/

/-- Digits without the underscores that stand between two of them. -/
def ungroup? (isDigit : Char → Bool) : List Char → Option (List Char)
  | [] => .none
  | [c] => if isDigit c then .some [c] else .none
  | c :: '_' :: cs => if isDigit c then (ungroup? isDigit cs).map (c :: ·) else .none
  | c :: cs => if isDigit c then (ungroup? isDigit cs).map (c :: ·) else .none

/-- Decimal digits without a needless zero in front. -/
def wholeDigits? (cs : List Char) : Option (List Char) :=
  (ungroup? Char.isDigit cs).filter fun ds => ds.length = 1 || ds.head? != .some '0'

/-- A text without its sign, and whether that is a minus. -/
def takeSign : List Char → Bool × List Char
  | '+' :: cs => (false, cs)
  | '-' :: cs => (true, cs)
  | cs => (false, cs)

/-- Digits to a base. -/
def readBased? (base : Nat) (cs : List Char) : Option Int :=
  let isDigit (c : Char) := (Text.hexValue? c).any (· < base)
  (ungroup? isDigit cs).map fun ds =>
    ds.foldl (fun (n : Int) c => n * base + ((Text.hexValue? c).getD 0 : Nat)) 0

/-- The integers that have room in 128 bits, with or without sign. -/
def hasRoom (i : Int) : Bool := decide (-Int.pow 2 127 ≤ i) && decide (i < Int.pow 2 128)

/-- An integer. -/
def readInteger? (cs : List Char) : Option Int :=
  (match cs with
  | '0' :: 'x' :: ds => readBased? 16 ds
  | '0' :: 'o' :: ds => readBased? 8 ds
  | '0' :: 'b' :: ds => readBased? 2 ds
  | _ =>
    let (negative, ds) := takeSign cs
    (wholeDigits? ds).map fun ds =>
      if negative then -(Number.valueOf ds : Int) else Number.valueOf ds).filter hasRoom

/-- Cuts a text at the first character with a property. -/
def cutAt (p : Char → Bool) (cs : List Char) : List Char × Option (List Char) :=
  (cs.takeWhile (!p ·), (cs.dropWhile (!p ·)).tail?)

/-- Whether a text is a number with a fraction or an exponent, or none at all. -/
def isFloat (cs : List Char) : Bool :=
  let cs := (takeSign cs).2
  let (mantissa, exponent?) := cutAt (fun c => c == 'e' || c == 'E') cs
  let (whole, fraction?) := cutAt (· == '.') mantissa
  cs == "inf".toList || cs == "nan".toList ||
    (exponent?.isSome || fraction?.isSome) && (wholeDigits? whole).isSome &&
      fraction?.all (fun ds => (ungroup? Char.isDigit ds).isSome) &&
      exponent?.all fun ds => (ungroup? Char.isDigit (takeSign ds).2).isSome

/-! ## Dates and times -/

/-- The rest behind a date. -/
def skipDate? (cs : List Char) : Option (List Char) := do
  let (year, cs) ← scanExact 4 cs
  let cs ← scanChar '-' cs
  let (month, cs) ← scanExact 2 cs
  let cs ← scanChar '-' cs
  let (day, cs) ← scanExact 2 cs
  let _ ← Calendar.Date.make? year month day
  .some cs

/-- The rest behind the digits of a fraction, if there is a point. -/
def skipFraction? : List Char → Option (List Char)
  | '.' :: c :: cs => if c.isDigit then .some (cs.dropWhile Char.isDigit) else .none
  | '.' :: [] => .none
  | cs => .some cs

/-- The rest behind seconds, which may be left out. -/
def skipSeconds? : List Char → Option (List Char)
  | ':' :: cs => do
    let (second, cs) ← scanExact 2 cs
    if second ≤ 60 then skipFraction? cs else .none
  | cs => .some cs

/-- The rest behind hours and minutes. -/
def skipMinutes? (cs : List Char) : Option (List Char) := do
  let (hour, cs) ← scanExact 2 cs
  let cs ← scanChar ':' cs
  let (minute, cs) ← scanExact 2 cs
  if hour < 24 ∧ minute < 60 then .some cs else .none

/-- The rest behind a time. -/
def skipTime? (cs : List Char) : Option (List Char) := (skipMinutes? cs).bind skipSeconds?

/-- The rest behind an offset, if there is one. -/
def skipOffset? : List Char → Option (List Char)
  | 'Z' :: cs | 'z' :: cs => .some cs
  | '+' :: cs | '-' :: cs => skipMinutes? cs
  | cs => .some cs

/-- Whether a text is a date, a time, or both. -/
def isMoment (cs : List Char) : Bool :=
  let rest? :=
    match skipDate? cs with
    | .none => skipTime? cs
    | .some [] => .some []
    | .some (c :: cs) =>
      if c == 'T' || c == 't' || c == ' ' then (skipTime? cs).bind skipOffset? else .none
  rest? == .some []

/-! ## Words -/

/-- The characters of a word. -/
def isWordChar (c : Char) : Bool := c.isAlphanum || "_+-.:".toList.contains c

/-- A word and the rest. A space between a date and a time belongs to the word. -/
def takeWord (cs : List Char) : List Char × List Char :=
  let word := cs.takeWhile isWordChar
  let rest := cs.drop word.length
  match skipDate? word, rest with
  | .some [], ' ' :: c :: r =>
    if c.isDigit then
      let time := (c :: r).takeWhile isWordChar
      (word ++ ' ' :: time, (c :: r).drop time.length)
    else (word, rest)
  | _, _ => (word, rest)

/-- The value of a word. -/
def ofWord? (word : List Char) : Option Toml :=
  if word == "true".toList then .some (.boolean true)
  else if word == "false".toList then .some (.boolean false)
  else
    match readInteger? word with
    | .some i => .some (.integer i)
    | .none =>
      if isFloat word then .some .float
      else if isMoment word then .some .moment
      else .none

end ParamQuery.Toml
