/-
Universally unique identifiers: sixteen bytes, written as hexadecimal
digits in groups of 8, 4, 4, 4 and 12. They are read without the dashes or
with all of them; with dashes also in braces or behind `urn:uuid:`.
-/
import ParamQuery.Text.Ascii
import ParamQuery.Text.Hex

namespace ParamQuery

/-- Sixteen bytes. -/
structure Uuid where
  bytes : List UInt8
  length_eq : bytes.length = 16
  deriving DecidableEq

namespace Uuid

/-- The identifier of sixteen bytes. -/
def ofBytes? (bytes : List UInt8) : Option Uuid :=
  if h : bytes.length = 16 then .some ⟨bytes, h⟩ else .none

/-- All bytes zero. -/
def nil : Uuid := ⟨List.replicate 16 0, rfl⟩

instance : Inhabited Uuid := ⟨nil⟩

/-- Parts a text in groups of the given sizes with dashes between. -/
def dashed : List Nat → List Char → List Char
  | [], cs => cs
  | n :: ns, cs => cs.take n ++ '-' :: dashed ns (cs.drop n)

/-- Takes groups of the given sizes and the dashes behind them away, and gives their digits. -/
def undash? : List Nat → List Char → Option (List Char)
  | [], cs => .some cs
  | n :: ns, cs =>
    match cs.drop n with
    | '-' :: r => (undash? ns r).map (cs.take n ++ ·)
    | _ => .none

/-- The sizes of all groups but the last. -/
def groups : List Nat := [8, 4, 4, 4]

/-- The text of an identifier. -/
def text (u : Uuid) : String := .ofList (dashed groups (Text.hexOfBytes u.bytes))

/-- Reads 32 digits. -/
def readDigits? (cs : List Char) : Option Uuid := (Text.bytesOfHex? cs).bind ofBytes?

/-- What stands in braces. -/
def inBraces? : List Char → Option (List Char)
  | '\x7b' :: cs => if cs.getLast? = .some '\x7d' then .some cs.dropLast else .none
  | _ => .none

/-- What stands behind the name space, whose case does not matter. -/
def behindUrn? (cs : List Char) : Option (List Char) :=
  if (cs.take 9).map Char.toLower = "urn:uuid:".toList then .some (cs.drop 9) else .none

/-- Reads an identifier. -/
def read? (cs : List Char) : Option Uuid :=
  if cs.length = 32 then readDigits? cs
  else
    let body := if cs.length = 36 then .some cs else (inBraces? cs).or (behindUrn? cs)
    (body.bind (undash? groups)).bind readDigits?

end Uuid

end ParamQuery
