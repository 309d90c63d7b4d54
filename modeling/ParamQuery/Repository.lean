/-
Repositories: the statements of one entity on one table.
-/
import ParamQuery.Select.Query
import ParamQuery.Write.Basic

namespace ParamQuery

/-- The items of an entity in a table. -/
structure Repository (α : Type) where
  entity : Entity α
  table : String

namespace Repository

open Select (Query)

variable {α : Type}

/-- The repository of a table. -/
def ofTable (e : Entity α) (table : String) : Repository α := ⟨e, Text.trimmed table⟩

/-- The repository of the declared table, if there is one. -/
def ofDefaultTable? (e : Entity α) : Option (Repository α) := e.table?.map (ofTable e)

/-- Selects from the table. -/
def select (r : Repository α) (distinct : Bool) : Query α :=
  (Query.ofColumns r.entity distinct).after (.fromTable r.table)

/-- Selects fields from the table. -/
def selectFields (r : Repository α) (fields : List String) (distinct : Bool) : Query α :=
  (Query.ofFields r.entity fields distinct).after (.fromTable r.table)

/-- Selects at most `n` rows from the table. -/
def selectTop (r : Repository α) (n : Nat) : Query α := (r.select false).after (.top n)

/-- Selects fields of at most `n` rows from the table. -/
def selectTopFields (r : Repository α) (n : Nat) (fields : List String) : Query α :=
  (r.selectFields fields false).after (.top n)

/-- Inserts a row into the table. -/
def insert (r : Repository α) (fields : List (String × Value)) : Except Error Write :=
  Write.insert r.table fields

/-- Updates the table. -/
def update (r : Repository α) : Write.Update := .ofTable r.table

/-- Deletes rows of the table. -/
def delete (r : Repository α) (steps : List Filter.Step) : Write := .delete r.table steps

end Repository

end ParamQuery
