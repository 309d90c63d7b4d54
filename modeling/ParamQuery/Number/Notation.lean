/-
Two ways to write a decimal: positionally, and with an exponent. Which
numbers are written which way is for the format that uses them.
-/
import ParamQuery.Number.Shortest

namespace ParamQuery.Number

/-- Digits with a point such that `places` of them follow it; without a point for no places. -/
def withPoint (ds : List Char) (places : Nat) : List Char :=
  if places = 0 then ds
  else
    let ds := List.replicate (places + 1 - ds.length) '0' ++ ds
    ds.take (ds.length - places) ++ '.' :: ds.drop (ds.length - places)

namespace Scientific

/-- All digits of the number in their places, without an exponent. -/
def positional (d : Scientific) : List Char :=
  if 0 ≤ d.exponent then digits d.significand ++ List.replicate d.exponent.toNat '0'
  else withPoint (digits d.significand) (-d.exponent).toNat

/-- The exponent of the first digit. -/
def leading (d : Scientific) : Int := d.exponent + (digits d.significand).length - 1

/-- One digit, the point and the others if there are any, and the exponent with its sign. -/
def exponential (d : Scientific) : List Char :=
  let e := d.leading
  withPoint (digits d.significand) ((digits d.significand).length - 1) ++
    'e' :: (if e < 0 then '-' else '+') :: digits e.natAbs

end Scientific

namespace Binary64

/-- The sign, if there is one, in front of a text. -/
def signed (x : Binary64) (text : List Char) : List Char :=
  if x.negative then '-' :: text else text

/-- The text of a number: the shortest digits that read back, never with an exponent; of two
equally near ones the greater. -/
def text (x : Binary64) : String :=
  .ofList <|
    if x.isNaN then "NaN".toList
    else if !x.isFinite then x.signed "inf".toList
    else if x.word = 0 then x.signed ['0']
    else x.signed (BinaryFormat.double.shortest .up x.word).positional

end Binary64

end ParamQuery.Number
