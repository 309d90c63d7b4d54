/-
The statements that write, and their texts. One that would touch every row
for want of a condition touches none.
-/
import ParamQuery.Filter.Predicate
import ParamQuery.Statement.Dialect

namespace ParamQuery.Write

/-- A column and the name of the parameter that it is given. -/
structure Assignment where
  column : String
  name : String
  deriving DecidableEq, Repr

/-- The text of an assignment. -/
def Assignment.text (a : Assignment) : String := a.column ++ " = " ++ marker a.name

/-- A statement that writes. -/
inductive Statement where
  | insert (table : String) (columns : List Assignment)
  | update (table : String) (sets : List Assignment) (predicates : List Filter.Predicate)
  | delete (table : String) (predicates : List Filter.Predicate)
  deriving Repr

/-- The clause of a list of predicates. It holds of no row if the list is empty. -/
def clause (ps : List Filter.Predicate) : String :=
  if ps.isEmpty then "WHERE 1=0" else Filter.render ps

namespace Statement

/-- Whether the statement inserts. -/
def isInsert : Statement → Bool
  | .insert .. => true
  | _ => false

/-- The part of an insertion in front of the values. -/
def insertHead (table : String) (columns : List Assignment) : String :=
  "INSERT INTO " ++ table ++ " (" ++ ", ".intercalate (columns.map (·.column)) ++ ")"

/-- The values of an insertion. -/
def insertValues (columns : List Assignment) : String :=
  "VALUES (" ++ ", ".intercalate (columns.map fun a => marker a.name) ++ ")"

/-- The text of an insertion, which may give back a generated key. -/
def insertText (table : String) (columns : List Assignment) (d : Dialect) :
    (key? : Option String) → String
  | .none => insertHead table columns ++ " " ++ insertValues columns
  | .some key =>
    match d with
    | .named =>
      insertHead table columns ++ " OUTPUT Inserted." ++ key ++ " " ++ insertValues columns
    | .postgres => insertHead table columns ++ " " ++ insertValues columns ++ " RETURNING " ++ key

/-- The text of a statement before blanks are normalised. -/
def rawText (d : Dialect) (key? : Option String) : Statement → String
  | .insert table columns => insertText table columns d key?
  | .update table sets ps =>
    "UPDATE " ++ table ++ " SET " ++ ", ".intercalate (sets.map Assignment.text) ++ " " ++ clause ps
  | .delete table ps => "DELETE FROM " ++ table ++ " " ++ clause ps

/-- The text of a statement, with named markers. -/
def text (s : Statement) (d : Dialect) (key? : Option String) : String :=
  Text.normalized (s.rawText d key?)

end Statement

end ParamQuery.Write
