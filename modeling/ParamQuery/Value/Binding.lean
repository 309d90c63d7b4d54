/-
The binary form in which a value is sent for a parameter. A text is read as
what the parameter's type holds, and a number is converted to a type of
numbers or of text; any other value is sent in its own form.
-/
import ParamQuery.Value.Coercion
import ParamQuery.Value.PgType

namespace ParamQuery

open Calendar (Date Timestamp)
open Number (bigEndian Binary32 Binary64 Decimal FloatFault IntFault IntRange Literal)
open Text (trim)

/-- Why a value cannot be sent. -/
inductive BindingError where
  | integer (fault : IntFault)
  | float (fault : FloatFault)
  | coercion (error : CoercionError)
  /-- The number has no decimal form. -/
  | noDecimal

/-- The text of a refusal. `noDecimal` is what the library of decimals says of a number without a
decimal form. -/
def BindingError.message (words : Words) (noDecimal : String) : BindingError → String
  | .integer f => f.message
  | .float f => f.message
  | .coercion e => e.message words
  | .noDecimal => noDecimal

/-! ## Forms -/

namespace Number.Binary64

/-- The eight bytes of a number. -/
def bytes (x : Binary64) : List UInt8 := bigEndian 8 x.bits.toNat

end Number.Binary64

namespace Number.Binary32

/-- The four bytes of a number. -/
def bytes (x : Binary32) : List UInt8 := bigEndian 4 x.bits.toNat

end Number.Binary32

namespace Number.Decimal

/-- The digits of `n` to the base of ten thousand. -/
def groups (n : Nat) : List Nat :=
  if n = 0 then [] else groups (n / 10000) ++ [n % 10000]
termination_by n
decreasing_by omega

/-- A decimal as the database writes it: the number of digits to the base of ten thousand, the
weight of the first one, the sign, the scale, and the digits. Groups of zeros behind the point are
left out at the end if there is a whole part. -/
def bytes (d : Decimal) : List UInt8 :=
  if d.magnitude = 0 then bigEndian 8 0
  else
    let all := groups (d.magnitude * Nat.pow 10 ((4 - d.scale % 4) % 4))
    let places := (d.scale + 3) / 4
    let weight : Int := (all.length : Int) - places - 1
    let kept :=
      if weight < 0 then all
      else
        let point := all.length - places
        all.take point ++ ((all.drop point).reverse.dropWhile (· == 0)).reverse
    bigEndian 2 kept.length ++ bigEndian 2 weight ++
      bigEndian 2 (if d.negative then 0x4000 else 0) ++ bigEndian 2 d.scale ++
      kept.flatMap fun (g : Nat) => bigEndian 2 g

end Number.Decimal

namespace Calendar

/-- A date: days since 2000 in four bytes. -/
def Date.bytes (d : Date) : List UInt8 := bigEndian 4 d.number

/-- A timestamp: microseconds since 2000 in eight bytes. -/
def Timestamp.bytes (t : Timestamp) : List UInt8 := bigEndian 8 t.micros

end Calendar

/-- A JSON value: its text; in the binary form of the database with a version in front. -/
def Json.bytes (v : Json) (type : PgType) : List UInt8 :=
  (if type = .jsonb then [1] else []) ++ Text.utf8 v.text

/-! ## Values -/

namespace Value

/-- A text, for a type. -/
def bindText (s : String) (type : PgType) : Except BindingError (List UInt8) :=
  let integer (bits count : Nat) :=
    match Number.readInt (.signed bits) (trim s.toList) with
    | .ok i => Except.ok (bigEndian count i)
    | .error f => .error (.integer f)
  let coerced {α : Type} (r : Except CoercionError α) (form : α → List UInt8) :=
    match r with
    | .ok a => Except.ok (form a)
    | .error e => .error (.coercion e)
  match type with
  | .bool => coerced (readBool s) fun b => [if b then 1 else 0]
  | .int2 => integer 16 2
  | .int4 => integer 32 4
  | .int8 => integer 64 8
  | .float4 =>
    match Literal.read (trim s.toList) with
    | .ok l => .ok l.toBinary32.bytes
    | .error f => .error (.float f)
  | .float8 =>
    match Literal.read (trim s.toList) with
    | .ok l => .ok l.toBinary64.bytes
    | .error f => .error (.float f)
  | .numeric => coerced (readDecimal s) (·.bytes)
  | .uuid => coerced (readUuid s) (·.bytes)
  | .date => coerced (readDate s) (·.bytes)
  | .timestamp => coerced (readTimestamp s) (·.bytes)
  | .timestamptz => coerced (readTimestampUtc s) (·.bytes)
  | .json | .jsonb => coerced (readJson s) (·.bytes type)
  | _ => .ok (Text.utf8 s)

/-- An integer, for a type. -/
def bindInt (i : Int64) (type : PgType) : Except BindingError (List UInt8) :=
  let narrow (bits count : Nat) :=
    match (IntRange.signed bits).check i.toInt with
    | .ok j => Except.ok (bigEndian count j)
    | .error f => .error (.integer f)
  match type with
  | .int2 => narrow 16 2
  | .int4 => narrow 32 4
  | .float4 => .ok (Binary32.ofInt i.toInt).bytes
  | .float8 => .ok (Binary64.ofInt i.toInt).bytes
  | .numeric => .ok (decimalOfInt i).bytes
  | _ => if type.isText then .ok (Text.utf8 (Number.intText i.toInt)) else .ok (bigEndian 8 i.toInt)

/-- A binary number, for a type. -/
def bindFloat (x : Binary64) (type : PgType) : Except BindingError (List UInt8) :=
  match type with
  | .float4 => .ok x.toBinary32.bytes
  | .numeric =>
    match Decimal.ofBinary64? x with
    | .some d => .ok d.bytes
    | .none => .error .noDecimal
  | _ => if type.isText then .ok (Text.utf8 x.text) else .ok x.bytes

/-- A decimal, for a type. -/
def bindDecimal (d : Decimal) (type : PgType) : List UInt8 :=
  match type with
  | .float8 => d.toBinary64.bytes
  | _ => if type.isText then Text.utf8 d.text else d.bytes

/-- The bytes of a value for a parameter of a type; none for the missing value. -/
def bind (v : Value) (type : PgType) : Except BindingError (Option (List UInt8)) :=
  match v with
  | .null => .ok .none
  | .bool b => .ok (.some [if b then 1 else 0])
  | .int i => (bindInt i type).map .some
  | .float x => (bindFloat x type).map .some
  | .decimal d => .ok (.some (bindDecimal d type))
  | .text s => (bindText s type).map .some
  | .date d => .ok (.some d.bytes)
  | .timestamp t | .timestampUtc t => .ok (.some t.bytes)
  | .uuid u => .ok (.some u.bytes)
  | .json v => .ok (.some (v.bytes type))
  | .bytes bs => .ok (.some bs)

end Value

end ParamQuery
