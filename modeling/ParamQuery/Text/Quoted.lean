/-
Text in double quotes, with every character escaped that does not show by
itself.
-/
import ParamQuery.Number.Digits
import ParamQuery.Text.Hex
import ParamQuery.Text.Shown

namespace ParamQuery.Text

/-- The hexadecimal digits of `n`, without leading zeros. -/
def hexDigits (n : Nat) : List Char :=
  if n < 16 then [hexDigit n] else hexDigits (n / 16) ++ [hexDigit (n % 16)]
termination_by n
decreasing_by omega

/-- A character within quotes. -/
def escapeChar (c : Char) : List Char :=
  if c == '"' || c == '\\' then ['\\', c]
  else if c == '\t' then ['\\', 't']
  else if c == '\n' then ['\\', 'n']
  else if c == '\r' then ['\\', 'r']
  else if c.toNat == 0 then ['\\', '0']
  else if !isShown c then
    '\\' :: 'u' :: '\x7b' :: hexDigits c.toNat ++ ['\x7d']
  else [c]

/-- A text in quotes. -/
def quoted (s : String) : String := .ofList ('"' :: s.toList.flatMap escapeChar ++ ['"'])

/-- A named list of fields, as in `Name { a: 1, b: 2 }`. -/
def recordText (name : String) (fields : List (String × String)) : String :=
  name ++ " \x7b " ++ ", ".intercalate (fields.map fun f => f.1 ++ ": " ++ f.2) ++ " \x7d"

/-- A text that may be missing, in quotes. -/
def optionText (show_ : String → String) : Option String → String
  | .none => "None"
  | .some s => "Some(" ++ show_ s ++ ")"

end ParamQuery.Text
