/-
A row of a result: named columns with a value each.

A column is found by its exact name, or else by the first name that differs
in case alone.
-/
import ParamQuery.Error
import ParamQuery.Text.Ascii
import ParamQuery.Value.Basic

namespace ParamQuery

/-- A row of a result. -/
structure Row where
  columns : List String
  values : List Value
  aligned : values.length = columns.length

/-- The error of a column that a result lacks. -/
def Error.absentColumn (column : String) : Error :=
  .decode column "column not present in result set"

namespace Row

/-- The row of the values, as many as there are columns: those in excess are dropped, and those
that lack are missing values. -/
def ofValues (columns : List String) (values : List Value) : Row where
  columns := columns
  values := values.take columns.length ++ List.replicate (columns.length - values.length) .null
  aligned := by simp; omega

/-- The number of columns. -/
def size (r : Row) : Nat := r.values.length

/-- The place of the first column with a property. -/
def place? (r : Row) (p : String → Bool) : Option Nat := r.columns.findIdx? p

/-- The place of a column. -/
def position? (r : Row) (column : String) : Option Nat :=
  r.place? (· == column) <|> r.place? (Text.sameIgnoringCase · column)

/-- Whether there is a column of the name. -/
def hasColumn (r : Row) (column : String) : Bool := (r.position? column).isSome

/-- The value of a column. -/
def get? (r : Row) (column : String) : Option Value :=
  (r.position? column).bind fun i => r.values[i]?

/-- The value of a column, or what is said if there is none. -/
def get (r : Row) (column : String) : Except Error Value :=
  match r.get? column with
  | .some v => .ok v
  | .none => .error (.absentColumn column)

end Row

end ParamQuery
