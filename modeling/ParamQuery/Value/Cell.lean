/-
Reading a cell of a result from its binary form, by the type of its column.
-/
import ParamQuery.Value.Coercion
import ParamQuery.Value.PgType

namespace ParamQuery

open Calendar (Date Timestamp)
open Number (ofBigEndian signedOfBigEndian Binary32 Binary64 Decimal)

namespace Number.Decimal

/-- Parts bytes into numbers of two bytes each. -/
def pairs : List UInt8 → List Nat
  | a :: b :: r => (a.toNat * 256 + b.toNat) :: pairs r
  | _ => []

/-- The number with the digits to the base of ten thousand and `zeros` more of them that are zero,
if it has room. -/
def wholeOf? (digits : List Nat) (zeros : Nat) : Option Decimal :=
  make? false (digits.foldl (fun n d => n * 10000 + d) 0 * Nat.pow 10000 zeros) 0

/-- Adds the digits behind the point, the first of which stands after `skipped` zeros. Digits below
the last place round it. -/
def addPlaces? (d : Decimal) (skipped : Nat) : List Nat → Option Decimal
  | [] => .some d
  | g :: gs =>
    let places := 4 * (skipped + 1)
    let next :=
      if places ≤ maxScale then d.addMagnitude? g places
      else if places = maxScale + 4 && 5000 ≤ g then d.addMagnitude? 1 maxScale
      else .some d
    next.bind fun d => addPlaces? d (skipped + 1) gs

/-- The decimal of the database's form. Its digits are brought to the scale that is given. -/
def ofBytes? (bytes : List UInt8) : Option Decimal :=
  match pairs bytes with
  | count :: weight :: sign :: scale :: digits =>
    if digits.length < count then .none
    else
      let digits := digits.take count
      let whole : Int := (if weight < 32768 then (weight : Int) else weight - 65536) + 1
      let lead := digits.take whole.toNat
      (wholeOf? lead (whole.toNat - lead.length)).bind fun d =>
        (d.addPlaces? (-whole).toNat (digits.drop whole.toNat)).bind fun d =>
          (d.withSign (sign == 0x4000)).rescale scale
  | _ => .none

end Number.Decimal

/-- Why a cell cannot be read. -/
inductive CellError where
  | malformed
  | unsupported (typeName : String)
  deriving DecidableEq, Repr

/-- The text of a refusal. What the driver itself says of bytes that have not the form of their type is
not known here, and stands as one text. -/
def CellError.message : CellError → String
  | .malformed => "error deserializing column"
  | .unsupported name => "unsupported column type `" ++ name ++ "`"

namespace Value

/-- The value of `count` bytes, if there are as many. -/
def ofExactly (count : Nat) (data : List UInt8) (read : List UInt8 → Option Value) :
    Option Value :=
  if data.length = count then read data else .none

/-- The value of the bytes of a type that has a rule. -/
def ofCellBytes? (type : PgType) (data : List UInt8) : Option Value :=
  match type with
  | .bool => ofExactly 1 data fun b => .some (.bool (b != [0]))
  | .int2 => ofExactly 2 data fun b => .some (.int (.ofInt (signedOfBigEndian b)))
  | .int4 => ofExactly 4 data fun b => .some (.int (.ofInt (signedOfBigEndian b)))
  | .int8 => ofExactly 8 data fun b => .some (.int (.ofInt (signedOfBigEndian b)))
  | .float4 => ofExactly 4 data fun b =>
    .some (.float (Binary32.toBinary64 ⟨.ofNat (ofBigEndian b)⟩))
  | .float8 => ofExactly 8 data fun b => .some (.float ⟨.ofNat (ofBigEndian b)⟩)
  | .numeric => (Decimal.ofBytes? data).map .decimal
  | .text | .varchar | .bpchar | .name | .unknown => (Text.ofUtf8? data).map .text
  | .date => ofExactly 4 data fun b => (Date.ofNumber? (signedOfBigEndian b)).map .date
  | .timestamp => ofExactly 8 data fun b =>
    (Timestamp.ofMicros? (signedOfBigEndian b)).map .timestamp
  | .timestamptz => ofExactly 8 data fun b =>
    (Timestamp.ofMicros? (signedOfBigEndian b)).map .timestampUtc
  | .uuid => (Uuid.ofBytes? data).map .uuid
  | .json => ((Text.ofUtf8? data).bind (Json.read? ·.toList)).map .json
  | .jsonb =>
    match data with
    | 1 :: rest => ((Text.ofUtf8? rest).bind (Json.read? ·.toList)).map .json
    | _ => .none
  | .bytea => .some (.bytes data)
  | .other _ => .none

/-- The value of a cell. A type without a rule is refused even where the cell is missing. -/
def ofCell (type : PgType) (cell : Option (List UInt8)) : Except CellError Value :=
  match type, cell with
  | .other name, _ => .error (.unsupported name)
  | _, .none => .ok .null
  | type, .some data =>
    match ofCellBytes? type data with
    | .some v => .ok v
    | .none => .error .malformed

end Value

end ParamQuery
