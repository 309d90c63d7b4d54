/-
Values: what a statement is bound to and what a result cell holds. Every
value has a text, which is what a pattern test and a message show of it.
-/
import ParamQuery.Calendar.Printer
import ParamQuery.Json.Printer
import ParamQuery.Number.Decimal
import ParamQuery.Uuid

namespace ParamQuery

open Calendar (Date Timestamp)
open Number (Binary64 Decimal intText)

/-- A parameter or a cell. -/
inductive Value where
  | null
  | bool (b : Bool)
  | int (i : Int64)
  | float (x : Binary64)
  | decimal (d : Decimal)
  | text (s : String)
  | date (d : Date)
  | timestamp (t : Timestamp)
  | timestampUtc (t : Timestamp)
  | uuid (u : Uuid)
  | json (v : Json)
  | bytes (bs : List UInt8)

namespace Value

instance : Inhabited Value := ⟨.null⟩

/-- Whether the value is the missing one. -/
def isNull : Value → Bool
  | .null => true
  | _ => false

/-- The text that a text value holds. -/
def asText? : Value → Option String
  | .text s => .some s
  | _ => .none

/-- The name of the value's kind in messages. -/
def label : Value → String
  | .null => "NULL"
  | .bool _ => "bool"
  | .int _ => "int"
  | .float _ => "float"
  | .decimal _ => "decimal"
  | .text _ => "text"
  | .date _ => "date"
  | .timestamp _ => "timestamp"
  | .timestampUtc _ => "timestamptz"
  | .uuid _ => "uuid"
  | .json _ => "json"
  | .bytes _ => "bytes"

/-- The text of a value. Of bytes only the count is shown. -/
def display : Value → String
  | .null => "NULL"
  | .bool b => if b then "true" else "false"
  | .int i => intText i.toInt
  | .float x => x.text
  | .decimal d => d.text
  | .text s => s
  | .date d => d.text
  | .timestamp t => t.text
  | .timestampUtc t => t.utcText
  | .uuid u => u.text
  | .json v => v.text
  | .bytes bs => "<" ++ Number.natText bs.length ++ " bytes>"

end Value

end ParamQuery
