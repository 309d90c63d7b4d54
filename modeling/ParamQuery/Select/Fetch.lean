/-
Running a SELECT statement: the rows that come back become items.
-/
import ParamQuery.Database.Basic
import ParamQuery.Select.Query

namespace ParamQuery

namespace Select.Prepared

variable {α σ : Type} [Database σ]

/-- Runs the statement and makes its rows items. -/
def fetch (p : Prepared α) (db : σ) : Except Error (List α) × σ :=
  let (rows, db) := Database.query p.bound db
  (rows.bind p.routing.items, db)

/-- All items. -/
def list (p : Prepared α) (db : σ) : Outcome (List α) × σ :=
  let (items, db) := p.fetch db
  (listOutcome items, db)

/-- The only item. -/
def one (p : Prepared α) (db : σ) : Outcome α × σ :=
  let (items, db) := p.fetch db
  (oneOutcome items, db)

end Select.Prepared

end ParamQuery
