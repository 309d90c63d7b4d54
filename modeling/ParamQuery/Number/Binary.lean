/-
Binary floating point numbers in the interchange formats of 32 and 64
bits. A number is kept as its bits; its magnitude is a natural number of
units, where one unit is the smallest positive number of the format. So
the exact value of every operation is a quotient of natural numbers, and
an operation is that quotient rounded once: to nearest, a half to the even
significand.
-/
import ParamQuery.Number.Rounding

namespace ParamQuery.Number

/-- A binary format: how many bits its significand has, the hidden one included, how many its
exponent has, and `2 ^ scale` units make one. -/
structure BinaryFormat where
  precision : Nat
  exponentBits : Nat
  scale : Nat
  deriving DecidableEq, Repr

namespace BinaryFormat

/-- The format of 32 bits. -/
def single : BinaryFormat := ⟨24, 8, 149⟩

/-- The format of 64 bits. -/
def double : BinaryFormat := ⟨53, 11, 1074⟩

/-- The number that the hidden bit stands for, which is also the step of the exponent field. -/
def hidden (f : BinaryFormat) : Nat := Nat.pow 2 (f.precision - 1)

/-- The word of infinity: all bits of the exponent are set. -/
def infinity (f : BinaryFormat) : Nat := (Nat.pow 2 f.exponentBits - 1) * f.hidden

/-- The significand of a finite word. -/
def significand (f : BinaryFormat) (w : Nat) : Nat :=
  if w / f.hidden = 0 then w % f.hidden else w % f.hidden + f.hidden

/-- How often the significand of a finite word is doubled. -/
def shift (f : BinaryFormat) (w : Nat) : Nat := w / f.hidden - 1

/-- The number of units of a finite word. -/
def units (f : BinaryFormat) (w : Nat) : Nat := f.significand w * Nat.pow 2 (f.shift w)

/-- The word nearest to `num / den` units. -/
def ofUnits (f : BinaryFormat) (num den : Nat) : Nat :=
  let k := (num / den).log2 + 1 - f.precision
  min (k * f.hidden + roundHalfEven num (den * Nat.pow 2 k)) f.infinity

/-- The word nearest to `num / den`. -/
def ofRatio (f : BinaryFormat) (num den : Nat) : Nat := f.ofUnits (num * Nat.pow 2 f.scale) den

/-- The word nearest to the sum of two finite ones. -/
def add (f : BinaryFormat) (v w : Nat) : Nat := f.ofUnits (f.units v + f.units w) 1

/-- The word nearest to the product of two finite ones. -/
def mul (f : BinaryFormat) (v w : Nat) : Nat := f.ofUnits (f.units v * f.units w) (Nat.pow 2 f.scale)

/-- The word nearest to the quotient of two finite ones. -/
def div (f : BinaryFormat) (v w : Nat) : Nat := f.ofUnits (f.units v * Nat.pow 2 f.scale) (f.units w)

/-- The word of the whole number nearest to a finite one; a half goes up. -/
def roundWhole (f : BinaryFormat) (w : Nat) : Nat :=
  f.ofRatio (roundHalfUp (f.units w) (Nat.pow 2 f.scale)) 1

end BinaryFormat

/-! ## Numbers of 64 bits -/

/-- A binary number of 64 bits. -/
structure Binary64 where
  bits : UInt64
  deriving DecidableEq, Repr

/-- A binary number of 32 bits. -/
structure Binary32 where
  bits : UInt32
  deriving DecidableEq, Repr

namespace Binary64

/-- The number of a sign and a word. -/
def ofWord (negative : Bool) (w : Nat) : Binary64 :=
  ⟨.ofNat ((if negative then Nat.pow 2 63 else 0) + w)⟩

/-- Whether the sign bit is set. -/
def negative (x : Binary64) : Bool := Nat.pow 2 63 ≤ x.bits.toNat

/-- The bits below the sign. -/
def word (x : Binary64) : Nat := x.bits.toNat % Nat.pow 2 63

/-- Not a number. -/
def isNaN (x : Binary64) : Bool := BinaryFormat.double.infinity < x.word

/-- Neither infinite nor "not a number". -/
def isFinite (x : Binary64) : Bool := x.word < BinaryFormat.double.infinity

/-- The quiet "not a number" without payload. -/
def nan : Binary64 := ofWord false (BinaryFormat.double.infinity + Nat.pow 2 51)

/-- Infinity of the given sign. -/
def infinity (negative : Bool) : Binary64 := ofWord negative BinaryFormat.double.infinity

/-- Zero of the given sign. -/
def zero (negative : Bool) : Binary64 := ofWord negative 0

/-- The number nearest to an integer. -/
def ofInt (i : Int) : Binary64 :=
  ofWord (decide (i < 0)) (BinaryFormat.double.ofRatio i.natAbs 1)

/-- The integer that a number is, if it is finite and whole. -/
def toInt? (x : Binary64) : Option Int :=
  let u := BinaryFormat.double.units x.word
  if x.isFinite && u % Nat.pow 2 1074 == 0 then
    .some (if x.negative then -((u / Nat.pow 2 1074 : Nat) : Int) else (u / Nat.pow 2 1074 : Nat))
  else .none

/-- The number of 32 bits nearest to `x`. "Not a number" keeps its sign and the high bits of its
payload, and becomes quiet. -/
def toBinary32 (x : Binary64) : Binary32 :=
  let sign := if x.negative then Nat.pow 2 31 else 0
  let w :=
    if x.isNaN then BinaryFormat.single.infinity + Nat.pow 2 22 + x.word % Nat.pow 2 51 / Nat.pow 2 29
    else if x.isFinite then
      BinaryFormat.single.ofRatio (BinaryFormat.double.units x.word) (Nat.pow 2 1074)
    else BinaryFormat.single.infinity
  ⟨.ofNat (sign + w)⟩

end Binary64

namespace Binary32

/-- The number of a sign and a word. -/
def ofWord (negative : Bool) (w : Nat) : Binary32 :=
  ⟨.ofNat ((if negative then Nat.pow 2 31 else 0) + w)⟩

/-- The bits below the sign. -/
def word (x : Binary32) : Nat := x.bits.toNat % Nat.pow 2 31

/-- Whether the sign bit is set. -/
def negative (x : Binary32) : Bool := Nat.pow 2 31 ≤ x.bits.toNat

/-- The number nearest to an integer. -/
def ofInt (i : Int) : Binary32 :=
  ofWord (decide (i < 0)) (BinaryFormat.single.ofRatio i.natAbs 1)

/-- The same number in 64 bits; "not a number" becomes quiet. -/
def toBinary64 (x : Binary32) : Binary64 :=
  let w :=
    if BinaryFormat.single.infinity < x.word then
      BinaryFormat.double.infinity + Nat.pow 2 51 + x.word % Nat.pow 2 22 * Nat.pow 2 29
    else if x.word < BinaryFormat.single.infinity then
      BinaryFormat.double.ofRatio (BinaryFormat.single.units x.word) (Nat.pow 2 149)
    else BinaryFormat.double.infinity
  Binary64.ofWord x.negative w

end Binary32

end ParamQuery.Number
