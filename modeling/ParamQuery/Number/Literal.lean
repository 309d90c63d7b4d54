/-
Reading a binary number: an optional sign, then `inf`, `infinity` or `nan`
in any case, or digits with at most one point and at least one digit, and
an optional exponent. The decimal is rounded once to the format asked for.
-/
import ParamQuery.Number.Binary
import ParamQuery.Number.Digits
import ParamQuery.Number.Shortest

namespace ParamQuery.Number

/-- Why a text is no floating point number. -/
inductive FloatFault where
  | empty
  | invalid
  deriving DecidableEq, Repr

/-- The text of a fault. -/
def FloatFault.message : FloatFault → String
  | .empty => "cannot parse float from empty string"
  | .invalid => "invalid float literal"

/-- What a literal denotes, apart from its sign. -/
inductive Magnitude where
  | finite (decimal : Scientific)
  | infinite
  | nan
  deriving DecidableEq, Repr

/-- A literal: its sign and what it denotes. -/
structure Literal where
  negative : Bool
  magnitude : Magnitude
  deriving DecidableEq, Repr

namespace Literal

/-- The sign in front of an exponent or a number, and what follows it. -/
def takeSign : List Char → Bool × List Char
  | '-' :: cs => (true, cs)
  | '+' :: cs => (false, cs)
  | cs => (false, cs)

/-- The exponent of a number: nothing, or `e`, an optional sign and digits. -/
def exponent? : List Char → Option Int
  | [] => .some 0
  | c :: cs =>
    if c == 'e' || c == 'E' then
      let (negative, ds) := takeSign cs
      if ds.isEmpty || !ds.all Char.isDigit then .none
      else .some (if negative then -(valueOf ds : Int) else valueOf ds)
    else .none

/-- Reads digits, an optional point with more digits, and an optional exponent. -/
def number? (cs : List Char) : Option Scientific :=
  let whole := cs.takeWhile Char.isDigit
  let rest := cs.dropWhile Char.isDigit
  let (fraction, rest) :=
    match rest with
    | '.' :: r => (r.takeWhile Char.isDigit, r.dropWhile Char.isDigit)
    | r => ([], r)
  if whole.isEmpty && fraction.isEmpty then .none
  else (exponent? rest).map fun e => ⟨valueOf (whole ++ fraction), e - fraction.length⟩

/-- Reads a number, or one of the three words. -/
def magnitude? (cs : List Char) : Option Magnitude :=
  match number? cs with
  | .some d => .some (.finite d)
  | .none =>
    let word := String.ofList (cs.map Char.toLower)
    if word = "inf" ∨ word = "infinity" then .some .infinite
    else if word = "nan" then .some .nan
    else .none

/-- Reads a literal. -/
def read (cs : List Char) : Except FloatFault Literal :=
  if cs.isEmpty then .error .empty
  else
    let (negative, rest) := takeSign cs
    match magnitude? rest with
    | .some m => .ok ⟨negative, m⟩
    | .none => .error .invalid

end Literal

/-- The word of a format nearest to a decimal. Outside of `10 ^ -330` and `10 ^ 310` the answer is
zero or infinity in both formats, and the powers are not computed. -/
def BinaryFormat.ofDecimal (f : BinaryFormat) (d : Scientific) : Nat :=
  if d.significand = 0 then 0
  else
    let top := d.exponent + (digits d.significand).length
    if 310 < top then f.infinity
    else if top < -330 then 0
    else f.ofRatio (d.significand * Nat.pow 10 d.exponent.toNat) (Nat.pow 10 (-d.exponent).toNat)

namespace Literal

/-- The number of 64 bits nearest to a literal. -/
def toBinary64 (l : Literal) : Binary64 :=
  match l.magnitude with
  | .finite d => .ofWord l.negative (BinaryFormat.double.ofDecimal d)
  | .infinite => .infinity l.negative
  | .nan => .ofWord l.negative Binary64.nan.word

/-- The number of 32 bits nearest to a literal. -/
def toBinary32 (l : Literal) : Binary32 :=
  match l.magnitude with
  | .finite d => .ofWord l.negative (BinaryFormat.single.ofDecimal d)
  | .infinite => .ofWord l.negative BinaryFormat.single.infinity
  | .nan => .ofWord l.negative (BinaryFormat.single.infinity + Nat.pow 2 22)

end Literal

end ParamQuery.Number
