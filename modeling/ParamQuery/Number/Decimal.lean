/-
Scaled decimals: a magnitude of at most 96 bits, a sign, and a scale of at
most 28, which is the number of digits after the point and is kept: 1.5
and 1.50 are different values. `fit?` is how a result that is too long is
made to fit: it keeps the most places that the magnitude has room for.
-/
import ParamQuery.Number.Notation

namespace ParamQuery.Number

/-- A decimal of at most 96 bits and 28 places. -/
structure Decimal where
  negative : Bool
  magnitude : Nat
  scale : Nat
  magnitude_lt : magnitude < Nat.pow 2 96
  scale_le : scale ≤ 28
  deriving DecidableEq

namespace Decimal

/-- The most places. -/
def maxScale : Nat := 28

/-- The decimal of a sign, a magnitude and a scale, if they are in range. -/
def make? (negative : Bool) (magnitude scale : Nat) : Option Decimal :=
  if h : magnitude < Nat.pow 2 96 ∧ scale ≤ 28 then .some ⟨negative, magnitude, scale, h.1, h.2⟩
  else .none

/-- As `make?`, with a zero always positive. -/
def ofParts? (negative : Bool) (magnitude scale : Nat) : Option Decimal :=
  make? (negative && magnitude != 0) magnitude scale

/-- Zero without places. -/
def zero : Decimal := ⟨false, 0, 0, by decide, by decide⟩

instance : Inhabited Decimal := ⟨zero⟩

/-- The integer of 64 bits as a decimal. -/
def ofInt? (i : Int) : Option Decimal := make? (decide (i < 0)) i.natAbs 0

/-- The text: sign, digits, and the point with as many places as the scale says. -/
def text (d : Decimal) : String :=
  let body := withPoint (digits d.magnitude) d.scale
  .ofList (if d.negative then '-' :: body else body)

/-- Whether nothing but zeros follow the point. -/
def isWhole (d : Decimal) : Bool := d.magnitude % Nat.pow 10 d.scale == 0

/-- The number without its places. -/
def truncated (d : Decimal) : Int :=
  let n : Int := (d.magnitude / Nat.pow 10 d.scale : Nat)
  if d.negative then -n else n

/-- `magnitude` with `scale` places, less the fewest last places it takes to fit, the last one kept
rounded, a half to even. -/
def fitFrom (negative : Bool) (magnitude scale : Nat) : (dropped : Nat) → (fuel : Nat) → Option Decimal
  | _, 0 => .none
  | k, fuel + 1 =>
    match make? negative (roundHalfEven magnitude (Nat.pow 10 k)) (scale - k) with
    | .some d => .some d
    | .none => fitFrom negative magnitude scale (k + 1) fuel

/-- The decimal nearest to `magnitude / 10 ^ scale` with the most places that fit. -/
def fit? (negative : Bool) (magnitude scale : Nat) : Option Decimal :=
  fitFrom negative magnitude scale (scale - maxScale) (scale + 1)

/-- The sum of a decimal and a number of the same sign, `magnitude / 10 ^ scale`. -/
def addMagnitude? (d : Decimal) (magnitude scale : Nat) : Option Decimal :=
  let s := max d.scale scale
  fit? d.negative (d.magnitude * Nat.pow 10 (s - d.scale) + magnitude * Nat.pow 10 (s - scale)) s

/-- How many more places, at most `places`, the magnitude has room for. -/
def room (magnitude : Nat) : (places : Nat) → Nat
  | 0 => 0
  | n + 1 => if magnitude * Nat.pow 10 (n + 1) < Nat.pow 2 96 then n + 1 else room magnitude n

/-- The decimal with `scale` places, rounded, a half up. It keeps fewer where there is no room for
so many. -/
def rescale (d : Decimal) (scale : Nat) : Option Decimal :=
  let target := min scale maxScale
  if d.magnitude = 0 then make? d.negative 0 target
  else if target ≤ d.scale then
    make? d.negative (roundHalfUp d.magnitude (Nat.pow 10 (d.scale - target))) target
  else
    let more := room d.magnitude (target - d.scale)
    make? d.negative (d.magnitude * Nat.pow 10 more) (d.scale + more)

/-- The same number with another sign, or none. -/
def withSign (d : Decimal) (negative : Bool) : Decimal := { d with negative }

end Decimal

end ParamQuery.Number
