/-
Reading a field of a built-in type out of a value. The missing value gives
the default of the type, or nothing where the field may be missing; any
other value is converted if that loses nothing but precision of a broken
number, or else refused with the reason.

Identifiers and JSON are read by libraries of their own. What those say of a
text that they refuse is passed on, so the text of a refusal depends on
their words (`Words`).
-/
import ParamQuery.Calendar.Reader
import ParamQuery.Json.Reader
import ParamQuery.Number.Decimal.Approximation
import ParamQuery.Number.Decimal.Reader
import ParamQuery.Text.Blank
import ParamQuery.Text.Utf8
import ParamQuery.Value.Basic

namespace ParamQuery

open Calendar (Date Timestamp)
open Number (Binary32 Binary64 Decimal IntRange Literal)
open Text (trim trimmed)

/-- What a field holds. -/
inductive Scalar where
  | bool
  | int16
  | int32
  | int64
  | uint32
  | float32
  | float64
  | decimal
  | text
  | timestamp
  | timestampUtc
  | date
  | uuid
  | json
  | bytes
  deriving DecidableEq, Repr

/-- The kind that a description of a field states. -/
inductive ValueKind where
  | bool
  | int
  | float
  | decimal
  | text
  | date
  | timestamp
  | timestampUtc
  | uuid
  | json
  | bytes
  deriving DecidableEq, Repr

/-- The kind of what a field holds. -/
def Scalar.kind : Scalar → ValueKind
  | .bool => .bool
  | .int16 | .int32 | .int64 | .uint32 => .int
  | .float32 | .float64 => .float
  | .decimal => .decimal
  | .text => .text
  | .timestamp => .timestamp
  | .timestampUtc => .timestampUtc
  | .date => .date
  | .uuid => .uuid
  | .json => .json
  | .bytes => .bytes

/-- The type of a field: what it holds, and whether it may be missing. -/
structure FieldType where
  scalar : Scalar
  optional : Bool
  deriving DecidableEq, Repr

/-! ## Refusals -/

/-- Why a value is refused. -/
inductive CoercionError where
  /-- The kind of the value does not go with the target. -/
  | mismatch (value : Value) (target : String)
  /-- The number is too great or too small for the target. -/
  | outOfRange (value : Value) (target : String)
  /-- The text does not read as what it should be. -/
  | badText (text : String) (what : String)
  /-- The text reads as no identifier. -/
  | badUuid (text : String)
  /-- The text reads as no JSON value. -/
  | badJson (text : String)

/-- What the libraries that read identifiers and JSON say of a text that they refuse. -/
structure Words where
  uuid : String → String
  json : String → String

namespace CoercionError

/-- The text of a refusal. -/
def message (words : Words) : CoercionError → String
  | .mismatch v target =>
    "cannot convert " ++ v.label ++ " value `" ++ v.display ++ "` into " ++ target
  | .outOfRange v target => "value `" ++ v.display ++ "` out of range for " ++ target
  | .badText s what => "cannot convert text `" ++ s ++ "` into " ++ what
  | .badUuid s => words.uuid s
  | .badJson s => words.json s

end CoercionError

/-! ## Texts -/

/-- The words for yes and no, in any case and with blanks around. -/
def readBool (s : String) : Except CoercionError Bool :=
  let word := Text.asciiLower (trimmed s)
  if word ∈ ["true", "t", "1", "yes"] then .ok true
  else if word ∈ ["false", "f", "0", "no"] then .ok false
  else .error (.badText word "bool")

/-- A decimal with blanks around. -/
def readDecimal (s : String) : Except CoercionError Decimal :=
  match Decimal.read? (trim s.toList) with
  | .some d => .ok d
  | .none => .error (.badText (trimmed s) "a decimal")

/-- A date with blanks around. -/
def readDate (s : String) : Except CoercionError Date :=
  match Date.read? (trim s.toList) with
  | .some d => .ok d
  | .none => .error (.badText (trimmed s) "a date")

/-- A timestamp without offset, or a date, with blanks around. -/
def readTimestamp (s : String) : Except CoercionError Timestamp :=
  match Timestamp.read? (trim s.toList) with
  | .some t => .ok t
  | .none => .error (.badText (trimmed s) "a timestamp")

/-- A timestamp with or without offset, or a date, with blanks around. -/
def readTimestampUtc (s : String) : Except CoercionError Timestamp :=
  match Timestamp.readUtc? (trim s.toList) with
  | .some t => .ok t
  | .none => .error (.badText (trimmed s) "a timestamp")

/-- An identifier with blanks around. -/
def readUuid (s : String) : Except CoercionError Uuid :=
  match Uuid.read? (trim s.toList) with
  | .some u => .ok u
  | .none => .error (.badUuid (trimmed s))

/-- A JSON value. -/
def readJson (s : String) : Except CoercionError Json :=
  match Json.read? s.toList with
  | .some v => .ok v
  | .none => .error (.badJson s)

/-! ## Values -/

namespace Value

/-- A truth value. -/
def toBool : Value → Except CoercionError Bool
  | .null => .ok false
  | .bool b => .ok b
  | .int i => .ok (i != 0)
  | .text s => readBool s
  | v => .error (.mismatch v "bool")

/-- The integer of 64 bits that `i` is, if it is one. -/
def int64? (i : Int) : Option Int64 :=
  if (IntRange.signed 64).holds i then .some (.ofInt i) else .none

/-- The whole number that a value stands for. -/
def whole? : Value → Option Int
  | .null => .some 0
  | .int i => .some i.toInt
  | .bool b => .some (if b then 1 else 0)
  | .float x => x.toInt?
  | .decimal d => if d.isWhole then .some d.truncated else .none
  | .text s => (Number.readInt (.signed 64) (trim s.toList)).toOption
  | _ => .none

/-- An integer of 64 bits. -/
def toInt64 (v : Value) : Except CoercionError Int64 :=
  match v.whole?.bind int64? with
  | .some i => .ok i
  | .none => .error (.mismatch v "i64")

/-- An integer of a narrower range, by way of 64 bits. -/
def toNarrow (r : IntRange) (target : String) (v : Value) : Except CoercionError Int64 :=
  match v.toInt64 with
  | .ok i => if r.holds i.toInt then .ok i else .error (.outOfRange v target)
  | .error e => .error e

/-- A binary number of 64 bits. -/
def toBinary64 : Value → Except CoercionError Binary64
  | .null => .ok (.zero false)
  | .float x => .ok x
  | .int i => .ok (.ofInt i.toInt)
  | .decimal d => .ok d.toBinary64
  | .text s =>
    match Literal.read (trim s.toList) with
    | .ok l => .ok l.toBinary64
    | .error _ => .error (.mismatch (.text s) "f64")
  | v => .error (.mismatch v "f64")

/-- A binary number of 32 bits, rounded from one of 64. -/
def toBinary32 (v : Value) : Except CoercionError Binary32 := v.toBinary64.map (·.toBinary32)

/-- An integer as a decimal. -/
def decimalOfInt (i : Int64) : Decimal := (Decimal.ofInt? i.toInt).getD .zero

/-- A scaled decimal. -/
def toDecimal : Value → Except CoercionError Decimal
  | .null => .ok .zero
  | .decimal d => .ok d
  | .int i => .ok (decimalOfInt i)
  | .float x =>
    match Decimal.ofBinary64? x with
    | .some d => .ok d
    | .none => .error (.mismatch (.float x) "Decimal")
  | .text s => readDecimal s
  | v => .error (.mismatch v "Decimal")

/-- A text: of everything but bytes. -/
def toText : Value → Except CoercionError String
  | .null => .ok ""
  | .text s => .ok s
  | .bytes bs => .error (.mismatch (.bytes bs) "String")
  | v => .ok v.display

/-- A timestamp without zone. -/
def toTimestamp : Value → Except CoercionError Timestamp
  | .null => .ok (.midnight .epoch)
  | .timestamp t => .ok t
  | .timestampUtc t => .ok t
  | .date d => .ok (.midnight d)
  | .text s => readTimestamp s
  | v => .error (.mismatch v "NaiveDateTime")

/-- A timestamp in UTC. -/
def toTimestampUtc : Value → Except CoercionError Timestamp
  | .null => .ok (.midnight .epoch)
  | .timestampUtc t => .ok t
  | .timestamp t => .ok t
  | .date d => .ok (.midnight d)
  | .text s => readTimestampUtc s
  | v => .error (.mismatch v "DateTime<Utc>")

/-- A date. -/
def toDate : Value → Except CoercionError Date
  | .null => .ok .epoch
  | .date d => .ok d
  | .timestamp t => .ok t.date
  | .timestampUtc t => .ok t.date
  | .text s => readDate s
  | v => .error (.mismatch v "NaiveDate")

/-- An identifier. -/
def toUuid : Value → Except CoercionError Uuid
  | .null => .ok .nil
  | .uuid u => .ok u
  | .text s => readUuid s
  | v => .error (.mismatch v "Uuid")

/-- A JSON value. -/
def toJson : Value → Except CoercionError Json
  | .null => .ok .null
  | .json v => .ok v
  | .text s => readJson s
  | .bool b => .ok (.bool b)
  | .int i => .ok (.int i.toInt)
  | v => .error (.mismatch v "serde_json::Value")

/-- Bytes. -/
def toBytes : Value → Except CoercionError (List UInt8)
  | .null => .ok []
  | .bytes bs => .ok bs
  | .text s => .ok (Text.utf8 s)
  | v => .error (.mismatch v "Vec<u8>")

end Value

/-- Reads a field that is not missing, and gives it back as a value. -/
def Scalar.coerce : Scalar → Value → Except CoercionError Value
  | .bool, v => v.toBool.map .bool
  | .int16, v => (v.toNarrow (.signed 16) "i16").map .int
  | .int32, v => (v.toNarrow (.signed 32) "i32").map .int
  | .int64, v => v.toInt64.map .int
  | .uint32, v => (v.toNarrow (.unsigned 32) "u32").map .int
  | .float32, v => v.toBinary32.map (.float ·.toBinary64)
  | .float64, v => v.toBinary64.map .float
  | .decimal, v => v.toDecimal.map .decimal
  | .text, v => v.toText.map .text
  | .timestamp, v => v.toTimestamp.map .timestamp
  | .timestampUtc, v => v.toTimestampUtc.map .timestampUtc
  | .date, v => v.toDate.map .date
  | .uuid, v => v.toUuid.map .uuid
  | .json, v => v.toJson.map .json
  | .bytes, v => v.toBytes.map .bytes

/-- Reads a field of the type. -/
def FieldType.coerce (t : FieldType) (v : Value) : Except CoercionError Value :=
  if t.optional && v.isNull then .ok .null else t.scalar.coerce v

end ParamQuery
