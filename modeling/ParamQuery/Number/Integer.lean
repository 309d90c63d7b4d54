/-
Integers of a fixed range and their text: one optional sign, then ASCII
digits only. A text is refused at its first character that is no digit or
that takes the number out of the range, whichever comes first.
-/
import ParamQuery.Number.Digits

namespace ParamQuery.Number

/-- A range of integers, both ends included. -/
structure IntRange where
  least : Int
  greatest : Int
  deriving DecidableEq, Repr

namespace IntRange

/-- The numbers of `bits` bits in two's complement. -/
def signed (bits : Nat) : IntRange := ⟨-Int.pow 2 (bits - 1), Int.pow 2 (bits - 1) - 1⟩

/-- The natural numbers of `bits` bits. -/
def unsigned (bits : Nat) : IntRange := ⟨0, Int.pow 2 bits - 1⟩

/-- Whether the range holds `i`. -/
def holds (r : IntRange) (i : Int) : Bool := decide (r.least ≤ i) && decide (i ≤ r.greatest)

end IntRange

/-- Why a text is no integer of its range. -/
inductive IntFault where
  | empty
  | invalidDigit
  | tooLarge
  | tooSmall
  deriving DecidableEq, Repr

/-- The text of a fault. -/
def IntFault.message : IntFault → String
  | .empty => "cannot parse integer from empty string"
  | .invalidDigit => "invalid digit found in string"
  | .tooLarge => "number too large to fit in target type"
  | .tooSmall => "number too small to fit in target type"

/-- `i`, if the range holds it. -/
def IntRange.check (r : IntRange) (i : Int) : Except IntFault Int :=
  if r.greatest < i then .error .tooLarge
  else if i < r.least then .error .tooSmall
  else .ok i

/-- Reads digits after the number `i`; `sign` is 1 or -1. -/
def readDigits (r : IntRange) (sign : Int) (i : Int) : List Char → Except IntFault Int
  | [] => .ok i
  | c :: cs =>
    if c.isDigit then
      match r.check (i * 10 + sign * digitValue c) with
      | .ok j => readDigits r sign j cs
      | .error e => .error e
    else .error .invalidDigit

/-- Reads an integer. A minus sign counts as a sign only where the range has negative numbers. -/
def readInt (r : IntRange) : List Char → Except IntFault Int
  | [] => .error .empty
  | ['+'] | ['-'] => .error .invalidDigit
  | '+' :: cs => readDigits r 1 0 cs
  | '-' :: cs => if r.least < 0 then readDigits r (-1) 0 cs else .error .invalidDigit
  | cs => readDigits r 1 0 cs

/-- Big-endian two's complement of `count` bytes. -/
def bigEndian : (count : Nat) → Int → List UInt8
  | 0, _ => []
  | n + 1, i => bigEndian n (i / 256) ++ [UInt8.ofNat (i % 256).toNat]

/-- The natural number whose big-endian bytes these are. -/
def ofBigEndian (bytes : List UInt8) : Nat := bytes.foldl (fun n b => n * 256 + b.toNat) 0

/-- The integer whose big-endian two's complement these bytes are. -/
def signedOfBigEndian (bytes : List UInt8) : Int :=
  let n := ofBigEndian bytes
  let size : Nat := Nat.pow 256 bytes.length
  if 2 * n < size then n else (n : Int) - size

end ParamQuery.Number
