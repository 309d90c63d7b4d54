/-
A connection to a PostgreSQL server. Once a statement of a transaction has
failed, or its rows could not be read, the transaction is not committed but
rolled back.
-/
import ParamQuery.Database.Basic
import ParamQuery.Database.Server
import ParamQuery.Settings.Basic
import ParamQuery.Value.Cell

namespace ParamQuery

open Server (Cell Fault Reply)

/-- The error that a refusal becomes. -/
def Server.Refusal.error (r : Server.Refusal) : Error :=
  let broken := r.constraint?.getD "unknown" ++ ": " ++ r.message
  if r.code = "23505" then .uniqueViolation broken
  else if r.code = "23503" then .foreignKeyViolation broken
  else .query r.message

/-- The error that a missing answer becomes. Parameters that do not go with a statement are refused by the
driver, in words of its own for which one text stands here. -/
def Server.Fault.error : Fault → Error
  | .refused r => r.error
  | .closed => .connection "connection closed"
  | .badParameters => .query "the parameters do not go with the statement"

namespace Row

/-- Reads the cells of a row by their columns. -/
def readCells : List (String × PgType) → List Cell → Except Error (List Value)
  | (name, type) :: columns, cell :: cells =>
    match Value.ofCell type cell with
    | .ok v => (readCells columns cells).map (v :: ·)
    | .error e => .error (.decode name e.message)
  | _, _ => .ok []

/-- Reads rows. -/
def readRows (columns : List (String × PgType)) : List (List Cell) → Except Error (List Row)
  | [] => .ok []
  | cells :: rows =>
    match readCells columns cells with
    | .ok values => (readRows columns rows).map (ofValues (columns.map (·.1)) values :: ·)
    | .error e => .error e

end Row

/-- The rows of a reply. -/
def Server.Reply.records (r : Reply) : Except Error (List Row) :=
  if r.columns.isEmpty then .ok [] else Row.readRows r.columns r.rows

/-- The state of a connection, and of the server at its other end. -/
structure Postgres where
  server : Server
  inTransaction : Bool
  /-- Whether a statement of the open transaction failed. -/
  failed : Bool

namespace Postgres

/-- A new connection. -/
def connected (s : Server) : Postgres := ⟨s, false, false⟩

/-- Runs a statement and reads the reply. -/
def run {α : Type} (read : Reply → Except Error α) (s : BoundStatement) (p : Postgres) :
    Except Error α × Postgres :=
  let (reply, server) := p.server.statement s.sql s.params
  let result :=
    match reply with
    | .ok r => read r
    | .error fault => .error fault.error
  let failed :=
    match result with
    | .ok _ => p.failed
    | .error _ => p.failed || p.inTransaction
  (result, { p with server := server, failed := failed })

/-- Sends a command. -/
def command (c : Server.Command) (p : Postgres) : Except Error Unit × Postgres :=
  let (answer, server) := p.server.command c
  let p := { p with server := server }
  match answer with
  | .ok _ => (.ok (), p)
  | .error fault => (.error fault.error, p)

/-- The connection with or without a transaction, in which no statement has failed. -/
def settled (p : Postgres) (inTransaction : Bool) : Postgres :=
  { p with inTransaction := inTransaction, failed := false }

/-- Opens a transaction, if the server does. -/
def begin (p : Postgres) : Except Error Unit × Postgres :=
  if p.inTransaction then (.error .alreadyOpen, p)
  else
    match p.command .begin with
    | (.ok _, p) => (.ok (), p.settled true)
    | (.error e, p) => (.error e, p)

/-- Ends the transaction and takes its changes back. It is over even if the server does not
agree. -/
def rollback (p : Postgres) : Except Error Unit × Postgres :=
  if !p.inTransaction then (.error .noneOpen, p) else (p.settled false).command .rollback

/-- Ends the transaction. If a statement in it failed it is rolled back; if the server does not
commit it stays open. -/
def commit (p : Postgres) : Except Error Unit × Postgres :=
  if !p.inTransaction then (.error .noneOpen, p)
  else if p.failed then
    match (p.settled false).command .rollback with
    | (.ok _, p) => (.error .aborted, p)
    | (.error e, p) => (.error e, p)
  else
    match p.command .commit with
    | (.ok _, p) => (.ok (), p.settled false)
    | (.error e, p) => (.error e, p)

/-- The error of a connection by settings that reach no server. The words about the attempt are the
driver's, and one text stands for them. -/
def unreachable (s : Settings) : Error :=
  match s.connectionString with
  | .ok _ => .connection "no server is reached"
  | .error e => e

instance : Database Postgres where
  dialect _ := .postgres
  inTransaction := inTransaction
  query := run Reply.records
  execute := run fun r => .ok r.affected
  begin := begin
  commit := commit
  rollback := rollback

end Postgres

end ParamQuery
