/-
The shortest decimal of a binary number: of all decimals that lie in the
interval of reals which round to the number, one with the fewest digits,
and of those the nearest. The search goes over decimal grids from coarse to
fine; on each grid only the two neighbours of the number can be the nearest
point in the interval.
-/
import ParamQuery.Number.Binary
import ParamQuery.Number.Digits

namespace ParamQuery.Number

/-- The decimal `significand * 10 ^ exponent`. -/
structure Scientific where
  significand : Nat
  exponent : Int
  deriving DecidableEq, Repr

/-- Which of two equally near neighbours is taken. -/
inductive Tie where
  | up
  | even
  deriving DecidableEq, Repr

/-- The greatest `e` with `10 ^ e ≤ num / den`, for positive `num` and `den`. -/
def floorLog10 (num den : Nat) : Int :=
  if den ≤ num then (digits (num / den)).length - 1
  else
    let j := (digits (den / num)).length
    if den ≤ num * Nat.pow 10 (j - 1) then -((j - 1 : Nat) : Int) else -(j : Int)

/-- The same decimal without trailing zeros in its significand. -/
def Scientific.strip : (fuel : Nat) → Scientific → Scientific
  | 0, d => d
  | fuel + 1, d =>
    if d.significand % 10 == 0 && d.significand != 0 then
      Scientific.strip fuel ⟨d.significand / 10, d.exponent + 1⟩
    else d

namespace BinaryFormat

/-- The reals that round to a word, in quarters of a unit: the ends, and whether they count. -/
structure Interval where
  low : Nat
  value : Nat
  high : Nat
  closed : Bool
  deriving DecidableEq, Repr

/-- The interval of a positive finite word. Below a power of two the numbers stand twice as
close. -/
def interval (f : BinaryFormat) (w : Nat) : Interval :=
  let m := f.significand w
  let k := Nat.pow 2 (f.shift w)
  let below := if w % f.hidden == 0 && f.hidden < w then 1 else 2
  ⟨(4 * m - below) * k, 4 * m * k, (4 * m + 2) * k, m % 2 == 0⟩

/-- The point of the grid `10 ^ e` nearest to the value, if one lies in the interval. -/
def gridPoint? (f : BinaryFormat) (tie : Tie) (i : Interval) (e : Int) : Option Nat :=
  let step := Nat.pow 2 (f.scale + 2) * Nat.pow 10 e.toNat
  let fine := Nat.pow 10 (-e).toNat
  let d := i.value * fine / step
  let rest := i.value * fine % step
  let downHit := d != 0 && (i.low * fine < d * step || (i.closed && i.low * fine == d * step))
  let upHit := (d + 1) * step < i.high * fine || (i.closed && (d + 1) * step == i.high * fine)
  let upNearer :=
    step < 2 * rest || (step == 2 * rest && (tie == .up || d % 2 == 1))
  match downHit, upHit with
  | true, true => .some (if upNearer then d + 1 else d)
  | true, false => .some d
  | false, true => .some (d + 1)
  | false, false => .none

/-- Searches the grids from `10 ^ e` on, each ten times finer than the one before. -/
def searchGrids (f : BinaryFormat) (tie : Tie) (i : Interval) : (fuel : Nat) → Int → Scientific
  | 0, e => ⟨(f.gridPoint? tie i e).getD 0, e⟩
  | fuel + 1, e =>
    match f.gridPoint? tie i e with
    | .some d => ⟨d, e⟩
    | .none => f.searchGrids tie i fuel (e - 1)

/-- The shortest decimal of a positive finite word. Seventeen digits always suffice. -/
def shortest (f : BinaryFormat) (tie : Tie) (w : Nat) : Scientific :=
  let i := f.interval w
  let d := f.searchGrids tie i 17 (floorLog10 i.value (Nat.pow 2 (f.scale + 2)))
  d.strip 20

end BinaryFormat

end ParamQuery.Number
