/-
Reading a scaled decimal. Digits may be parted by underscores, and one
point may stand anywhere. The magnitude takes digits while it has room for
them; the first digit behind the point that finds no room rounds the last
one kept, and behind it there may be more digits and underscores, which
change nothing. An underscore in the place of that digit stands for a zero
while the magnitude is short, and is passed over once it is long. A text
that is not of this form is read as such a number with an exponent of at
most 28 either way; places beyond the 28th that a negative exponent asks
for are rounded off.
-/
import ParamQuery.Number.Decimal
import ParamQuery.Number.Integer

namespace ParamQuery.Number.Decimal

/-- What has been read: the sign, the digits so far, whether there were any, and the places. -/
structure Reading where
  negative : Bool
  magnitude : Nat
  anyDigit : Bool
  afterPoint : Bool
  scale : Nat
  deriving Repr

namespace Reading

/-- The decimal that has been read, if it has a digit. -/
def finish (r : Reading) : Option Decimal :=
  if r.anyDigit then ofParts? r.negative r.magnitude r.scale else .none

/-- Whether a character may stand behind the digit that rounds. -/
def isDropped (c : Char) : Bool := c.isDigit || c == '_'

/-- Rounds by the first digit that finds no room, where nothing but digits and underscores follows.
A point or an underscore in the place of that digit counts as a zero. -/
def round (r : Reading) (c : Char) (rest : List Char) : Option Decimal :=
  if (c.isDigit || c == '.' || c == '_') && rest.all isDropped then
    if c.isDigit && 5 ≤ digitValue c then
      if r.magnitude + 1 < Nat.pow 2 96 then ofParts? r.negative (r.magnitude + 1) r.scale
      else if r.scale = 0 then .none
      else ofParts? r.negative ((r.magnitude + 5) / 10) (r.scale - 1)
    else ofParts? r.negative r.magnitude r.scale
  else .none

/-- Whether all the places are taken. -/
def isFull (r : Reading) : Bool := r.afterPoint && maxScale ≤ r.scale

/-- Whether the digits before the last one are few enough for a word of 64 bits to take one more,
with 255 to spare. -/
def isShort (r : Reading) : Bool := r.magnitude / 10 + 255 < (Nat.pow 2 64 - 1) / 10

/-- Rounds by what follows the last place: a long reading passes over underscores there, if they
lead to a digit or end the text. -/
def roundFull (r : Reading) (c : Char) (rest : List Char) : Option Decimal :=
  if c == '_' && !r.isShort then
    match rest.dropWhile (· == '_') with
    | [] => r.finish
    | d :: ds => if d.isDigit then r.round d ds else .none
  else r.round c rest

/-- Reads on. -/
def run (r : Reading) : List Char → Option Decimal
  | [] => r.finish
  | c :: cs =>
    if r.isFull then r.roundFull c cs
    else if c.isDigit then
      let magnitude := r.magnitude * 10 + digitValue c
      if magnitude < Nat.pow 2 96 then
        run { r with
          magnitude, anyDigit := true
          scale := if r.afterPoint then r.scale + 1 else r.scale } cs
      else if r.afterPoint then r.round c cs
      else .none
    else if c == '.' && !r.afterPoint then run { r with afterPoint := true } cs
    else if c == '_' && r.anyDigit then run r cs
    else .none

end Reading

/-- Reads a number without an exponent. -/
def readPlain? : List Char → Option Decimal
  | '-' :: cs => Reading.run ⟨true, 0, false, false, 0⟩ cs
  | '+' :: cs => Reading.run ⟨false, 0, false, false, 0⟩ cs
  | cs => Reading.run ⟨false, 0, false, false, 0⟩ cs

/-- `d` times the power of ten that moves its point right by `e`, where `e` is more than the scale:
a whole number. -/
def shiftWhole? (d : Decimal) (e : Nat) : Option Decimal :=
  if maxScale < e then .none
  else ofParts? d.negative (d.magnitude * Nat.pow 10 (e - d.scale)) 0

/-- `d` divided by the `e`-th power of ten. If that takes more than 28 places, there are 28, the
last one rounded, a half up. -/
def shiftDown? (d : Decimal) (e : Nat) : Option Decimal :=
  if maxScale < e then .none
  else if d.scale + e ≤ maxScale then make? d.negative d.magnitude (d.scale + e)
  else make? d.negative (roundHalfUp d.magnitude (Nat.pow 10 (d.scale + e - maxScale))) maxScale

/-- `d` times the `e`-th power of ten. -/
def shiftUp? (d : Decimal) (e : Nat) : Option Decimal :=
  if e ≤ d.scale then make? d.negative d.magnitude (d.scale - e) else shiftWhole? d e

/-- Moves the point by a written exponent. -/
def shift? (d : Decimal) : List Char → Option Decimal
  | '-' :: ds =>
    match readInt (.unsigned 32) ds with
    | .ok e => shiftDown? d e.toNat
    | .error _ => .none
  | ds =>
    match readInt (.unsigned 32) ds with
    | .ok e => shiftUp? d e.toNat
    | .error _ => .none

/-- Whether a character starts an exponent. -/
def isExponentMark (c : Char) : Bool := c == 'e' || c == 'E'

/-- Reads a number with an exponent. -/
def readScientific? (cs : List Char) : Option Decimal :=
  match cs.dropWhile (!isExponentMark ·) with
  | [] => .none
  | _ :: e => (readPlain? (cs.takeWhile (!isExponentMark ·))).bind (shift? · e)

/-- Reads a number, without an exponent or with one. -/
def read? (cs : List Char) : Option Decimal := (readPlain? cs).or (readScientific? cs)

end ParamQuery.Number.Decimal
