/-
Between scaled decimals and binary numbers.

From binary, the significand takes over the powers of two and five one at a
time in 96 bits: a factor that finds no room costs the last bit. What is
then longer than the binary number's own precision is rounded off, place by
place. To binary, the whole and the broken part are converted apart, added,
and brought back to the grid of the decimal's places.
-/
import ParamQuery.Number.Decimal

namespace ParamQuery.Number.Decimal

/-- A magnitude with a decimal exponent. -/
structure Draft where
  magnitude : Nat
  exponent : Int
  deriving DecidableEq, Repr

namespace Draft

/-- Divides by two `steps` times, by halving where that is exact and by five tenths otherwise; with
no room for a factor of five it halves all the same. -/
def halve : (steps : Nat) → Draft → Draft
  | 0, d => d
  | n + 1, ⟨m, e⟩ =>
    if m % 2 = 0 then halve n ⟨m / 2, e + 1⟩
    else if m * 5 < Nat.pow 2 96 then halve n ⟨m * 5, e⟩
    else halve n ⟨m / 2, e + 1⟩

/-- Doubles `steps` times; with no room left it takes a tenth of ten for two. -/
def double : (steps : Nat) → Draft → Draft
  | 0, d => d
  | n + 1, ⟨m, e⟩ => if m < Nat.pow 2 95 then double n ⟨m * 2, e - 1⟩ else double n ⟨m / 5, e⟩

/-- Writes a positive exponent out. -/
def expand? : (steps : Nat) → Nat → Option Nat
  | 0, m => .some m
  | n + 1, m => if m * 10 < Nat.pow 2 96 then expand? n (m * 10) else .none

/-- Rounds off the last place, a half up. -/
def dropPlace (d : Draft) : Draft :=
  ⟨if 5 ≤ d.magnitude % 10 then d.magnitude / 10 + 1 else d.magnitude / 10, d.exponent + 1⟩

/-- Rounds off places until at most 28 are left. A number that vanishes on the way is zero. -/
def limitPlaces : (fuel : Nat) → Draft → Draft
  | 0, d => d
  | n + 1, d =>
    if d.exponent < -28 then
      if d.magnitude / 10 = 0 then ⟨0, 0⟩ else limitPlaces n d.dropPlace
    else d

/-- Rounds off places until the magnitude has at most 52 bits. -/
def limitDigits : (fuel : Nat) → Draft → Draft
  | 0, d => d
  | n + 1, d => if d.exponent < 0 && Nat.pow 2 52 ≤ d.magnitude then limitDigits n d.dropPlace else d

/-- Drops zeros at the end of the places. -/
def dropZeros : (fuel : Nat) → Draft → Draft
  | 0, d => d
  | n + 1, d =>
    if d.exponent < 0 && d.magnitude % 10 = 0 then dropZeros n ⟨d.magnitude / 10, d.exponent + 1⟩
    else d

end Draft

/-- The decimal of a finite binary number, if its whole part has room. -/
def ofBinary64? (x : Binary64) : Option Decimal :=
  if !x.isFinite then .none
  else if x.word = 0 then make? x.negative 0 0
  else
    let m := BinaryFormat.double.significand x.word
    let e : Int := BinaryFormat.double.shift x.word - 1074
    let start : Draft := ⟨m, e⟩
    let drawn := if e < 0 then start.halve (-e).toNat else start.double e.toNat
    (Draft.expand? drawn.exponent.toNat drawn.magnitude).bind fun m =>
      let d : Draft := ⟨m, min drawn.exponent 0⟩
      let d := ((d.limitPlaces 1100).limitDigits 40).dropZeros 40
      make? x.negative d.magnitude (-d.exponent).toNat

/-- The binary number of a decimal. -/
def toBinary64 (d : Decimal) : Binary64 :=
  let f := BinaryFormat.double
  if d.scale = 0 then .ofWord (d.negative && d.magnitude != 0) (f.ofRatio d.magnitude 1)
  else
    let one := Nat.pow 10 d.scale
    let whole := f.ofRatio (d.magnitude / one) 1
    let grid := f.ofRatio one 1
    let part := f.div (f.ofRatio (d.magnitude % one) 1) grid
    if part = 0 then .ofWord d.negative whole
    else .ofWord d.negative (f.div (f.roundWhole (f.mul (f.add whole part) grid)) grid)

end ParamQuery.Number.Decimal
