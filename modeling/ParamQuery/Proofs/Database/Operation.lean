/-
What is asked of a connection, as data: the operations of a repository,
which read, write, save and discard, and the actions of the connection
itself.

`Respected.after`: a map between connections that respects the actions
respects every operation. So a connection can be watched: what is true of
the watched one is true of the one inside.
`Kept.after`: what every action keeps, every operation keeps.
-/
import ParamQuery.Select.Fetch
import ParamQuery.Write.Basic

namespace ParamQuery

/-- What is asked of a connection. -/
inductive Operation where
  /-- Reads all items. -/
  | list {α : Type} (p : Select.Prepared α)
  /-- Reads the only item. -/
  | one {α : Type} (p : Select.Prepared α)
  /-- Writes, for the number of rows. -/
  | execute (w : Write)
  /-- Writes, for a value. -/
  | executeScalar (w : Write)
  | save
  | discard
  /-- Runs a statement for its rows, whatever it is. -/
  | query (s : BoundStatement)
  /-- Runs a statement for the number of rows, whatever it is. -/
  | run (s : BoundStatement)
  | begin
  | commit
  | rollback

namespace Operation

/-- Whether the operation is a write. -/
def isWrite : Operation → Bool
  | .execute _ | .executeScalar _ => true
  | _ => false

/-- The connection after an operation. -/
def after {σ : Type} [Database σ] (db : σ) : Operation → σ
  | .list p => (p.list db).2
  | .one p => (p.one db).2
  | .execute w => (w.execute db).2
  | .executeScalar w => (w.executeScalar db).2
  | .save => (Database.save db).2
  | .discard => (Database.discard db).2
  | .query s => (Database.query s db).2
  | .run s => (Database.execute s db).2
  | .begin => (Database.begin db).2
  | .commit => (Database.commit db).2
  | .rollback => (Database.rollback db).2

end Operation

/-! ## Maps between connections -/

/-- A map between connections that respects the actions: each gives the same answer on both sides,
and leaves connections behind that go with each other. -/
structure Respected {σ τ : Type} [Database σ] [Database τ] (f : σ → τ) : Prop where
  dialect : ∀ db, Database.dialect (f db) = Database.dialect db
  inTransaction : ∀ db, Database.inTransaction (f db) = Database.inTransaction db
  query : ∀ s db, Database.query s (f db) = (Database.query s db).map id f
  execute : ∀ s db, Database.execute s (f db) = (Database.execute s db).map id f
  begin : ∀ db, Database.begin (f db) = (Database.begin db).map id f
  commit : ∀ db, Database.commit (f db) = (Database.commit db).map id f
  rollback : ∀ db, Database.rollback (f db) = (Database.rollback db).map id f

namespace Respected

variable {σ τ : Type} [Database σ] [Database τ] {f : σ → τ}

theorem within (hf : Respected f) {α : Type} {action : σ → Except Error α × σ}
    {action' : τ → Except Error α × τ} (h : ∀ db, action' (f db) = (action db).map id f) (db : σ) :
    Database.within action' (f db) = (Database.within action db).map id f := by
  simp only [Database.within, hf.inTransaction, hf.begin]
  split
  · exact h db
  · cases hb : Database.begin db with
    | mk answer db' =>
      cases answer with
      | ok _ => exact h db'
      | error e => rfl

theorem save (hf : Respected f) (db : σ) :
    Database.save (f db) = (Database.save db).map id f := by
  simp only [Database.save, hf.inTransaction, hf.commit]
  split
  · rfl
  · rfl

theorem discard (hf : Respected f) (db : σ) :
    Database.discard (f db) = (Database.discard db).map id f := by
  simp only [Database.discard, hf.inTransaction, hf.rollback]
  split
  · rfl
  · rfl

theorem runBound (hf : Respected f) {α : Type} {action : BoundStatement → σ → Except Error α × σ}
    {action' : BoundStatement → τ → Except Error α × τ}
    (h : ∀ s db, action' s (f db) = (action s db).map id f) (db : σ) (s : Except Error BoundStatement) :
    Write.runBound action' (f db) s = (Write.runBound action db s).map id f := by
  cases s with
  | error e => rfl
  | ok s => simp only [Write.runBound, hf.within (h s), Prod.map, id]

theorem fetch (hf : Respected f) {α : Type} (p : Select.Prepared α) (db : σ) :
    p.fetch (f db) = (p.fetch db).map id f := by
  simp only [Select.Prepared.fetch, hf.query, Prod.map, id]

/-- **Every operation is respected.** -/
theorem after (hf : Respected f) (db : σ) (op : Operation) :
    op.after (f db) = f (op.after db) := by
  cases op with
  | list p => simp only [Operation.after, Select.Prepared.list, hf.fetch, Prod.map]
  | one p => simp only [Operation.after, Select.Prepared.one, hf.fetch, Prod.map]
  | execute w =>
    simp only [Operation.after, Write.execute, hf.dialect, hf.runBound hf.execute, Prod.map]
  | executeScalar w =>
    simp only [Operation.after, Write.executeScalar, hf.dialect, hf.runBound hf.query, Prod.map, id]
  | save => simp only [Operation.after, hf.save, Prod.map]
  | discard => simp only [Operation.after, hf.discard, Prod.map]
  | query s => simp only [Operation.after, hf.query, Prod.map]
  | run s => simp only [Operation.after, hf.execute, Prod.map]
  | begin => simp only [Operation.after, hf.begin, Prod.map]
  | commit => simp only [Operation.after, hf.commit, Prod.map]
  | rollback => simp only [Operation.after, hf.rollback, Prod.map]

end Respected

/-! ## What is kept -/

section

variable {σ α : Type} [Database σ] {P Q : σ → Prop} {db : σ}

/-- What opening a transaction keeps, and the action in an open one, is kept. Here `Q` says what holds
of a connection with an open transaction. -/
theorem Database.kept_within {action : σ → Except Error α × σ} (h : P db)
    (hopen : Database.inTransaction db = true → Q db) (hbegin : P (Database.begin db).2)
    (hbegun : (Database.begin db).1.isOk = true → Q (Database.begin db).2)
    (haction : ∀ {db}, P db → Q db → P (action db).2) : P (Database.within action db).2 := by
  unfold Database.within
  split
  · rename_i hin
    exact haction h (hopen hin)
  · split
    · rename_i u db' heq
      rw [heq] at hbegin hbegun
      exact haction hbegin (hbegun rfl)
    · rename_i e db' heq
      rwa [heq] at hbegin

theorem Database.kept_save (h : P db) (hcommit : P (Database.commit db).2) : P (Database.save db).2 := by
  unfold Database.save
  split
  · exact hcommit
  · exact h

theorem Database.kept_discard (h : P db) (hrollback : P (Database.rollback db).2) :
    P (Database.discard db).2 := by
  unfold Database.discard
  split
  · exact hrollback
  · exact h

end

/-- A condition on a connection that every action keeps. -/
structure Kept {σ : Type} [Database σ] (P : σ → Prop) : Prop where
  query : ∀ s {db}, P db → P (Database.query s db).2
  execute : ∀ s {db}, P db → P (Database.execute s db).2
  begin : ∀ {db}, P db → P (Database.begin db).2
  commit : ∀ {db}, P db → P (Database.commit db).2
  rollback : ∀ {db}, P db → P (Database.rollback db).2

namespace Kept

variable {σ α : Type} [Database σ] {P : σ → Prop} {db : σ}

theorem runBound (hP : Kept P) {action : BoundStatement → σ → Except Error α × σ}
    (haction : ∀ s {db}, P db → P (action s db).2) (h : P db) (s : Except Error BoundStatement) :
    P (Write.runBound action db s).2 := by
  cases s with
  | error e => exact h
  | ok s =>
    exact Database.kept_within (Q := fun _ => True) h (fun _ => trivial) (hP.begin h) (fun _ => trivial)
      fun h _ => haction s h

theorem after (hP : Kept P) (h : P db) (op : Operation) : P (op.after db) := by
  cases op with
  | list p | one p => exact hP.query p.bound h
  | execute w => exact hP.runBound hP.execute h _
  | executeScalar w => exact hP.runBound hP.query h _
  | save => exact Database.kept_save h (hP.commit h)
  | discard => exact Database.kept_discard h (hP.rollback h)
  | query s => exact hP.query s h
  | run s => exact hP.execute s h
  | begin => exact hP.begin h
  | commit => exact hP.commit h
  | rollback => exact hP.rollback h

end Kept

end ParamQuery
