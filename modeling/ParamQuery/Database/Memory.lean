/-
A connection to nothing: it answers from a list of responses, one for each
statement, and keeps the statements it was given. Without a response a
statement has no rows and changes none.
-/
import ParamQuery.Database.Basic

namespace ParamQuery

namespace Memory

/-- The answer to a statement. -/
inductive Response where
  | rows (rows : List Row)
  | affected (count : Nat)
  | fault (error : Error)

end Memory

/-- The state of a connection that answers from memory. -/
structure Memory where
  dialect : Dialect
  /-- The answers to come. -/
  responses : List Memory.Response
  /-- The statements received. -/
  statements : List BoundStatement
  inTransaction : Bool
  /-- Whether a statement of the open transaction failed. -/
  failed : Bool
  commits : Nat
  rollbacks : Nat

namespace Memory

/-- A new connection. -/
def fresh (d : Dialect) : Memory := ⟨d, [], [], false, false, 0, 0⟩

/-- Adds an answer behind those to come. -/
def respond (m : Memory) (r : Response) : Memory := { m with responses := m.responses ++ [r] }

/-- Receives a statement, and finds its answer by `read`. -/
def answer {α : Type} (read : Option Response → Except Error α) (s : BoundStatement) (m : Memory) :
    Except Error α × Memory :=
  let result := read m.responses.head?
  let failed :=
    match result with
    | .ok _ => m.failed
    | .error _ => m.failed || m.inTransaction
  (result, { m with
    responses := m.responses.tail
    statements := m.statements ++ [s]
    failed := failed })

/-- The rows of a response. -/
def rowsOf : Option Response → Except Error (List Row)
  | .none | .some (.affected _) => .ok []
  | .some (.rows rows) => .ok rows
  | .some (.fault e) => .error e

/-- The number of rows that a response says were changed. -/
def countOf : Option Response → Except Error Nat
  | .none => .ok 0
  | .some (.affected n) => .ok n
  | .some (.rows rows) => .ok rows.length
  | .some (.fault e) => .error e

/-- Opens a transaction. -/
def begin (m : Memory) : Except Error Unit × Memory :=
  if m.inTransaction then (.error .alreadyOpen, m)
  else (.ok (), { m with inTransaction := true, failed := false })

/-- The connection without a transaction. -/
def closed (m : Memory) : Memory := { m with inTransaction := false, failed := false }

/-- Ends the transaction; if a statement in it failed its changes are taken back. -/
def commit (m : Memory) : Except Error Unit × Memory :=
  if !m.inTransaction then (.error .noneOpen, m)
  else if m.failed then (.error .aborted, { m.closed with rollbacks := m.rollbacks + 1 })
  else (.ok (), { m.closed with commits := m.commits + 1 })

/-- Ends the transaction and takes its changes back. -/
def rollback (m : Memory) : Except Error Unit × Memory :=
  if !m.inTransaction then (.error .noneOpen, m)
  else (.ok (), { m.closed with rollbacks := m.rollbacks + 1 })

instance : Database Memory where
  dialect := dialect
  inTransaction := inTransaction
  query := answer rowsOf
  execute := answer countOf
  begin := begin
  commit := commit
  rollback := rollback

/-- A failure in an open transaction is kept in mind, and none is forgotten. -/
theorem failed_answer {α : Type} (read : Option Response → Except Error α) (s : BoundStatement)
    (m : Memory) :
    (m.answer read s).2.failed = (m.failed || (m.inTransaction && !(m.answer read s).1.isOk)) := by
  simp only [answer]
  split
  · rename_i hread
    simp [hread, Except.isOk, Except.toBool]
  · rename_i hread
    simp [hread, Except.isOk, Except.toBool]

end Memory

end ParamQuery
