/-
What a database connection can do. It has at most one open transaction.
Every action gives its answer and the connection as it is afterwards.
-/
import ParamQuery.Outcome
import ParamQuery.Row
import ParamQuery.Statement.Dialect

namespace ParamQuery

/-- A connection of which the states are `σ`. -/
class Database (σ : Type) where
  /-- How statements are written for it. -/
  dialect : σ → Dialect
  /-- Whether a transaction is open. -/
  inTransaction : σ → Bool
  /-- Runs a statement for its rows. -/
  query : BoundStatement → σ → Except Error (List Row) × σ
  /-- Runs a statement for the number of rows that it changes. -/
  execute : BoundStatement → σ → Except Error Nat × σ
  /-- Opens a transaction. -/
  begin : σ → Except Error Unit × σ
  /-- Makes the changes of the transaction last, unless a statement in it failed. -/
  commit : σ → Except Error Unit × σ
  /-- Takes the changes of the transaction back. -/
  rollback : σ → Except Error Unit × σ

/-! ## Transactions that are not as they must be -/

namespace Error

/-- There is a transaction where none must be. -/
def alreadyOpen : Error := .transaction "a transaction is already open"

/-- There is no transaction where one must be. -/
def noneOpen : Error := .transaction "no open transaction"

/-- The transaction cannot last. -/
def aborted : Error :=
  .transaction "a statement failed inside the transaction; changes were rolled back"

end Error

namespace Database

variable {σ : Type} [Database σ]

/-- Runs `action` in the open transaction; one is opened if there is none. -/
def within {α : Type} (action : σ → Except Error α × σ) (db : σ) : Except Error α × σ :=
  if inTransaction db then action db
  else
    match begin db with
    | (.ok _, db) => action db
    | (.error e, db) => (.error e, db)

/-- Commits what was written since the transaction was opened. -/
def save (db : σ) : Outcome Unit × σ :=
  if inTransaction db then
    let (answer, db) := commit db
    (.captured "Could not save the changes." answer, db)
  else (.failed "There are no pending changes to save.", db)

/-- Takes back what was written since the transaction was opened, if one is open. -/
def discard (db : σ) : Outcome Unit × σ :=
  if inTransaction db then
    let (answer, db) := rollback db
    (.captured "Could not discard the changes." answer, db)
  else (.success (), db)

end Database

end ParamQuery
