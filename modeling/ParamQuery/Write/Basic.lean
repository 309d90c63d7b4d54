/-
Writing: statements that insert, update and delete, with their parameters.
The values that are written are allocated before those of the filter. A
write runs in a transaction, and opens one if none is open; nothing reaches
the database if the statement cannot be made.
-/
import ParamQuery.Database.Basic
import ParamQuery.Filter.Basic
import ParamQuery.Write.Statement

namespace ParamQuery

/-- A write that is ready to run. -/
structure Write where
  statement : Write.Statement
  params : Params
  /-- The generated column that an insertion can give back. -/
  key : String

namespace Write

/-! ## Making writes -/

/-- Allocates a parameter for each value, and assigns it to the column. -/
def assign (ps : Params) : List (String × Value) → List Assignment × Params
  | [] => ([], ps)
  | (field, v) :: fields =>
    let column := Text.trimmed field
    let stem := stemOf column
    let (rest, after) := assign (ps.allocate stem v) fields
    (⟨column, ps.nextName stem⟩ :: rest, after)

/-- The generated column if no other is named. -/
def defaultKey : String := "ID"

/-- Inserts a row into a table. -/
def insert (table : String) (fields : List (String × Value)) : Except Error Write :=
  if fields.isEmpty then .error (.configuration "You have to specify the fields to insert.")
  else
    let (columns, ps) := assign [] fields
    .ok ⟨.insert (Text.trimmed table) columns, ps, defaultKey⟩

/-- An update without filter. -/
structure Update where
  table : String
  sets : List Assignment
  params : Params

namespace Update

/-- An update of a table that writes nothing yet. -/
def ofTable (table : String) : Update := ⟨Text.trimmed table, [], []⟩

/-- Says what is written, if that is not said yet. -/
def set (u : Update) (fields : List (String × Value)) : Update :=
  if u.sets.isEmpty then
    let (sets, ps) := assign u.params fields
    { u with sets := sets, params := ps }
  else u

/-- Restricts the update to the rows that a filter keeps. -/
def restrict (u : Update) (steps : List Filter.Step) : Except Error Write :=
  if u.sets.isEmpty then
    .error (.configuration "You have to specify the fields to update with field_values(...).")
  else
    let f := (Filter.continuing u.params).run steps
    .ok ⟨.update u.table u.sets f.predicates, f.params, defaultKey⟩

end Update

/-- Deletes the rows of a table that a filter keeps. -/
def delete (table : String) (steps : List Filter.Step) : Write :=
  let f := Filter.empty.run steps
  ⟨.delete (Text.trimmed table) f.predicates, f.params, defaultKey⟩

/-- Names the generated column. -/
def withKey (w : Write) (column : String) : Write := { w with key := Text.trimmed column }

/-! ## Running writes -/

/-- The text with named markers. -/
def sql (w : Write) : String := w.statement.text .named .none

/-- The statement that is run for the number of rows. -/
def bound (w : Write) (d : Dialect) : Except Error BoundStatement :=
  d.bind (w.statement.text d .none) w.params

/-- The generated column, if the statement gives it back. -/
def returned? (w : Write) : Option String := if w.statement.isInsert then .some w.key else .none

/-- The statement that is run for a value. -/
def boundScalar (w : Write) (d : Dialect) : Except Error BoundStatement :=
  d.bind (w.statement.text d w.returned?) w.params

/-- The first value of the first row, or the missing value. -/
def firstCell (rows : List Row) : Value := (rows.head?.bind (·.values.head?)).getD .null

variable {σ α : Type} [Database σ]

/-- Runs a statement that could be made. -/
def runBound (action : BoundStatement → σ → Except Error α × σ) (db : σ) :
    Except Error BoundStatement → Outcome α × σ
  | .error e => (.raised "Could not execute the command." e, db)
  | .ok s =>
    let (answer, db) := Database.within (action s) db
    (.captured "Could not execute the command." answer, db)

/-- Runs the write for the number of rows that it changes. -/
def execute (w : Write) (db : σ) : Outcome Nat × σ :=
  runBound Database.execute db (w.bound (Database.dialect db))

/-- Runs the write for the first value that it gives back. -/
def executeScalar (w : Write) (db : σ) : Outcome Value × σ :=
  let (outcome, db) := runBound Database.query db (w.boundScalar (Database.dialect db))
  (outcome.map firstCell, db)

end Write

end ParamQuery
