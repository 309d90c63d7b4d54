/-
Dialects, and how a statement and its parameters are made ready to run.

A statement is written with named markers. For PostgreSQL each marker of a
known parameter becomes its number, counted by first appearance; text in
single quotes is left alone, and parameters that never appear are not sent.
-/
import ParamQuery.Error
import ParamQuery.Statement.Markers
import ParamQuery.Statement.Params

namespace ParamQuery

/-- How statements are written. -/
inductive Dialect where
  /-- Named markers, `TOP`, and `OUTPUT` for a generated key. -/
  | named
  /-- Numbered markers, `LIMIT`, and `RETURNING` for a generated key. -/
  | postgres
  deriving DecidableEq, Repr

/-- A text and the values of its markers in order. -/
structure BoundStatement where
  sql : String
  params : List Value

/-- The error of a statement in which two parameters have one name. -/
def Error.duplicateName : Error := .configuration "duplicate parameter name in statement"

/-- The value of the parameter with a name. -/
def Params.lookup? (ps : Params) (name : String) : Option Value :=
  (ps.find? (·.name = name)).map (·.value)

/-- Writes a statement with numbers for its markers. -/
def bindNumbered (sql : String) (ps : Params) : Except Error BoundStatement :=
  if ps.names.Nodup then
    let (text, names) := Markers.numbered ps.names [] (Markers.pieces false sql.toList)
    .ok ⟨.ofList text, names.filterMap ps.lookup?⟩
  else .error .duplicateName

/-- Makes a statement ready to run. -/
def Dialect.bind (d : Dialect) (sql : String) (ps : Params) : Except Error BoundStatement :=
  match d with
  | .named => .ok ⟨sql, ps.values⟩
  | .postgres => bindNumbered sql ps

end ParamQuery
