/-
The compact text of a JSON value: no blanks; in strings only quotes,
backslashes and control characters are escaped. A number that is no integer
has a point or an exponent: it is written positionally from 0.00001 up to
below 10^16.
-/
import ParamQuery.Json.Basic
import ParamQuery.Number.Notation
import ParamQuery.Text.Hex

namespace ParamQuery.Json

open Number

/-- A character in a string. -/
def escape (c : Char) : List Char :=
  if c == '"' || c == '\\' then ['\\', c]
  else if 0x20 ≤ c.toNat then [c]
  else if c == '\n' then ['\\', 'n']
  else if c == '\r' then ['\\', 'r']
  else if c == '\t' then ['\\', 't']
  else if c.toNat == 8 then ['\\', 'b']
  else if c.toNat == 12 then ['\\', 'f']
  else ['\\', 'u', '0', '0', Text.hexDigit (c.toNat / 16), Text.hexDigit (c.toNat % 16)]

/-- A string in quotes. -/
def quoted (s : String) : List Char := '"' :: s.toList.flatMap escape ++ ['"']

/-- A decimal with at least one digit behind the point. -/
def withFraction (d : Scientific) : List Char :=
  if 0 ≤ d.exponent then d.positional ++ ".0".toList else d.positional

/-- A finite number that is no integer. -/
def floatChars (x : Binary64) : List Char :=
  x.signed <|
    if x.word = 0 then "0.0".toList
    else
      let d := BinaryFormat.double.shortest .even x.word
      if -5 ≤ d.leading ∧ d.leading < 16 then withFraction d else d.exponential

mutual

/-- The text of a value. -/
def chars : Json → List Char
  | .null => "null".toList
  | .bool b => (if b then "true" else "false").toList
  | .int i => (intText i).toList
  | .float x => floatChars x
  | .string s => quoted s
  | .array items => '[' :: itemChars items ++ [']']
  | .object members => '\x7b' :: memberChars members ++ ['\x7d']

/-- Items with commas between. -/
def itemChars : List Json → List Char
  | [] => []
  | [v] => v.chars
  | v :: vs => v.chars ++ ',' :: itemChars vs

/-- Members with commas between. -/
def memberChars : List (String × Json) → List Char
  | [] => []
  | [(n, v)] => quoted n ++ ':' :: v.chars
  | (n, v) :: ms => quoted n ++ ':' :: v.chars ++ ',' :: memberChars ms

end

/-- The text of a value. -/
def text (v : Json) : String := .ofList v.chars

end ParamQuery.Json
