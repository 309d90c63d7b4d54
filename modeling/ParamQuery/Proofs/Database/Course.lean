/-
How a write goes.

A write that cannot be made leaves no trace. One for which no transaction
can be opened is not handed to the connection, which knows of its
transaction what it knew before. Every other write is handed over once,
while a transaction is open (`Write.carryOut_course`).

What is handed over is noted by watching the connection, which changes
nothing (`respected_connection`). What becomes of it there is said beside
it, as a server that hung up receives nothing.
-/
import ParamQuery.Database.Memory
import ParamQuery.Proofs.Database.Journal

namespace ParamQuery

open Server (Event Reply)

/-! ## Running a write -/

namespace Write

/-- What a write is run for. -/
inductive Aim where
  /-- The number of rows that it changes. -/
  | count
  /-- The first value that it gives back. -/
  | value
  deriving DecidableEq, Repr

/-- The statement that is run. -/
def boundFor (w : Write) (d : Dialect) : Aim → Except Error BoundStatement
  | .count => w.bound d
  | .value => w.boundScalar d

/-- What is said of a write that failed. -/
def complaint : String := "Could not execute the command."

section

variable {σ : Type} [Database σ]

/-- Runs the write. Of what it gives back, only how it ended is kept. -/
def carryOut (w : Write) (db : σ) : Aim → Outcome Unit × σ
  | .count => (w.execute db).map Outcome.discard id
  | .value => (w.executeScalar db).map Outcome.discard id

/-- How the connection is asked to run a statement. -/
def Aim.action (aim : Aim) (s : BoundStatement) (db : σ) : Except Error Unit × σ :=
  match aim with
  | .count => (Database.execute s db).map (·.map fun _ => ()) id
  | .value => (Database.query s db).map (·.map fun _ => ()) id

end

end Write

namespace Database

variable {σ : Type} [Database σ]

/-- The connection with a transaction: the one that is open, or one that is opened. -/
def opened (db : σ) : Except Error Unit × σ := if inTransaction db then (.ok (), db) else begin db

theorem opened_of_open {db : σ} (h : inTransaction db = true) : opened db = (.ok (), db) := if_pos h

theorem opened_of_closed {db : σ} (h : inTransaction db = false) : opened db = begin db :=
  if_neg (by simp [h])

theorem within_of_opened {α : Type} {action : σ → Except Error α × σ} {db db' : σ}
    (h : opened db = (.ok (), db')) : within action db = action db' := by
  unfold opened at h
  unfold within
  split
  · rename_i hopen
    rw [if_pos hopen] at h
    rw [(Prod.mk.inj h).2]
  · rename_i hopen
    rw [if_neg hopen] at h
    rw [h]

theorem within_of_refused {α : Type} {action : σ → Except Error α × σ} {db db' : σ} {e : Error}
    (h : opened db = (.error e, db')) : within action db = (.error e, db') := by
  unfold opened at h
  unfold within
  split
  · rename_i hopen
    simp [hopen] at h
  · rename_i hopen
    rw [if_neg hopen] at h
    rw [h]

end Database

namespace Write

theorem discard_captured {α : Type} (message : String) (r : Except Error α) :
    (Outcome.captured message r).discard = .captured message (r.map fun _ => ()) := by
  cases r <;> rfl

theorem discard_map {α β : Type} (f : α → β) (o : Outcome α) : (o.map f).discard = o.discard := by
  cases o <;> rfl

/-- Only a name that two parameters share keeps a statement from being made. -/
theorem eq_duplicateName_of_bind {d : Dialect} {sql : String} {ps : Params} {e : Error}
    (h : d.bind sql ps = .error e) : e = .duplicateName := by
  cases d with
  | named => cases h
  | postgres =>
    simp only [Dialect.bind, bindNumbered] at h
    split at h
    · cases h
    · exact (Except.error.inj h).symm

theorem eq_duplicateName_of_boundFor {w : Write} {d : Dialect} {aim : Aim} {e : Error}
    (h : w.boundFor d aim = .error e) : e = .duplicateName := by
  cases aim with
  | count => exact eq_duplicateName_of_bind h
  | value => exact eq_duplicateName_of_bind h

section

variable {σ : Type} [Database σ]

theorem runBound_map {α : Type} (action : BoundStatement → σ → Except Error α × σ) (db : σ)
    (s : Except Error BoundStatement) :
    (runBound action db s).map Outcome.discard id =
      runBound (fun s db => (action s db).map (·.map fun _ => ()) id) db s := by
  cases s with
  | error e => rfl
  | ok s =>
    simp only [runBound, Database.within, Prod.map, discard_captured, id]
    split
    · rfl
    · split <;> rfl

/-- Both ways to run a write are one, but for what the connection is asked. -/
theorem carryOut_eq (w : Write) (db : σ) (aim : Aim) :
    w.carryOut db aim = runBound aim.action db (w.boundFor (Database.dialect db) aim) := by
  cases aim with
  | count => exact runBound_map Database.execute db _
  | value =>
    have hmap : w.carryOut db .value =
        (runBound Database.query db (w.boundScalar (Database.dialect db))).map Outcome.discard id := by
      simp only [carryOut, executeScalar, Prod.map, discard_map]
    exact hmap.trans (runBound_map Database.query db _)

theorem carryOut_of_unbound {w : Write} {db : σ} {aim : Aim} {e : Error}
    (hbound : w.boundFor (Database.dialect db) aim = .error e) :
    w.carryOut db aim = (.exception complaint e, db) := by
  rw [carryOut_eq, hbound]
  rfl

theorem carryOut_of_refused {w : Write} {db db' : σ} {aim : Aim} {s : BoundStatement} {e : Error}
    (hbound : w.boundFor (Database.dialect db) aim = .ok s)
    (hopened : Database.opened db = (.error e, db')) :
    w.carryOut db aim = (.exception complaint e, db') := by
  rw [carryOut_eq, hbound, runBound, Database.within_of_refused hopened]
  rfl

theorem carryOut_of_opened {w : Write} {db db' : σ} {aim : Aim} {s : BoundStatement}
    (hbound : w.boundFor (Database.dialect db) aim = .ok s)
    (hopened : Database.opened db = (.ok (), db')) :
    w.carryOut db aim = (aim.action s db').map (Outcome.captured complaint) id := by
  rw [carryOut_eq, hbound, runBound, Database.within_of_opened hopened]
  rfl

end

end Write

/-! ## Watching a connection -/

/-- A connection and the statements that it was handed, each with whether a transaction was open. -/
structure Watched (σ : Type) where
  connection : σ
  handed : List (BoundStatement × Bool)

namespace Watched

section

variable {σ : Type} [Database σ]

/-- Hands a statement to the connection. -/
def hand {α : Type} (action : BoundStatement → σ → Except Error α × σ) (s : BoundStatement)
    (r : Watched σ) : Except Error α × Watched σ :=
  (action s r.connection).map id (⟨·, r.handed ++ [(s, Database.inTransaction r.connection)]⟩)

/-- Lets the connection do anything else. -/
def pass (action : σ → Except Error Unit × σ) (r : Watched σ) : Except Error Unit × Watched σ :=
  (action r.connection).map id (⟨·, r.handed⟩)

instance : Database (Watched σ) where
  dialect r := Database.dialect r.connection
  inTransaction r := Database.inTransaction r.connection
  query := hand Database.query
  execute := hand Database.execute
  begin := pass Database.begin
  commit := pass Database.commit
  rollback := pass Database.rollback

/-- Watching changes nothing. -/
theorem respected_connection : Respected (σ := Watched σ) connection where
  dialect _ := rfl
  inTransaction _ := rfl
  query _ _ := rfl
  execute _ _ := rfl
  begin _ := rfl
  commit _ := rfl
  rollback _ := rfl

theorem opened_eq (r : Watched σ) :
    Database.opened r = (Database.opened r.connection).map id (⟨·, r.handed⟩) := by
  by_cases h : Database.inTransaction r.connection = true
  · rw [Database.opened_of_open h]
    exact Database.opened_of_open h
  · rw [Bool.not_eq_true] at h
    rw [Database.opened_of_closed h]
    exact Database.opened_of_closed h

theorem action_eq (aim : Write.Aim) (s : BoundStatement) (r : Watched σ) :
    aim.action s r = (aim.action s r.connection).map id
      (⟨·, r.handed ++ [(s, Database.inTransaction r.connection)]⟩) := by
  cases aim <;> rfl

/-- What a write leaves: what there was, or what a refusal to open a transaction leaves, or what a
statement in a transaction leaves, which was handed over. -/
theorem carryOut_cases (w : Write) (aim : Write.Aim) (r : Watched σ) :
    (w.carryOut r aim).2 = r ∨
      (w.carryOut r aim).2 = ⟨(Database.opened r.connection).2, r.handed⟩ ∨
      ∃ s c, Database.opened r.connection = (.ok (), c) ∧
        (w.carryOut r aim).2 = ⟨(aim.action s c).2, r.handed ++ [(s, Database.inTransaction c)]⟩ := by
  cases hbound : w.boundFor (Database.dialect r) aim with
  | error e => exact .inl (by rw [Write.carryOut_of_unbound hbound])
  | ok s =>
    refine .inr ?_
    have hopened := opened_eq r
    cases hc : Database.opened r.connection with
    | mk answer c =>
      rw [hc] at hopened
      cases answer with
      | error e => exact .inl (by rw [Write.carryOut_of_refused hbound hopened])
      | ok u =>
        refine .inr ⟨s, c, rfl, ?_⟩
        rw [Write.carryOut_of_opened hbound hopened, action_eq]
        rfl

end

/-- The statements that were handed over between two states. -/
def between {σ : Type} (before after : Watched σ) : List BoundStatement :=
  (after.handed.drop before.handed.length).map (·.1)

end Watched

/-! ## What can be relied on -/

/-- How a connection keeps its flags, of which `failed` tells of a failed statement. A transaction
that is opened is open; one that is refused changes no flag; and a statement opens and ends none. -/
structure Database.IsSteady {σ : Type} [Database σ] (failed : σ → Bool) : Prop where
  accepted : ∀ db : σ, (begin db).1 = .ok () → inTransaction (begin db).2 = true
  refused : ∀ (db : σ) (e : Error), (begin db).1 = .error e →
    inTransaction (begin db).2 = inTransaction db ∧ failed (begin db).2 = failed db
  query : ∀ (s : BoundStatement) (db : σ), inTransaction (query s db).2 = inTransaction db
  execute : ∀ (s : BoundStatement) (db : σ), inTransaction (execute s db).2 = inTransaction db

section

variable {σ : Type} [Database σ] {failed : σ → Bool}

theorem Database.IsSteady.action (hsteady : IsSteady failed) (aim : Write.Aim) (s : BoundStatement)
    (db : σ) : inTransaction (aim.action s db).2 = inTransaction db := by
  cases aim with
  | count => exact hsteady.execute s db
  | value => exact hsteady.query s db

/-- A transaction to be had is had without a statement being handed over. -/
theorem Watched.exists_opened (hsteady : Database.IsSteady failed) {db : Watched σ}
    (h : Database.inTransaction db = true ∨ (Database.begin db).1 = .ok ()) :
    ∃ c : σ, Database.opened db = (.ok (), ⟨c, db.handed⟩) ∧ Database.inTransaction c = true := by
  cases hopen : Database.inTransaction db with
  | true => exact ⟨db.connection, Database.opened_of_open hopen, hopen⟩
  | false =>
    have hbegin : (Database.begin db).1 = .ok () := by simpa [hopen] using h
    refine ⟨(Database.begin db.connection).2, ?_, hsteady.accepted db.connection hbegin⟩
    rw [Database.opened_of_closed hopen, ← hbegin]
    rfl

end

theorem Memory.isSteady : Database.IsSteady Memory.failed where
  accepted m h := by
    cases hopen : m.inTransaction with
    | true => simp [Database.begin, begin, hopen] at h
    | false => simp [Database.begin, begin, hopen, Database.inTransaction]
  refused m e h := by
    cases hopen : m.inTransaction with
    | true => simp [Database.begin, begin, hopen]
    | false => simp [Database.begin, begin, hopen] at h
  query _ _ := rfl
  execute _ _ := rfl

theorem Postgres.isSteady : Database.IsSteady Postgres.failed where
  accepted p h := by
    simp only [Database.begin, begin] at h ⊢
    split at h
    · cases h
    · rename_i hopen
      rw [if_neg hopen]
      cases hc : p.command .begin with
      | mk answer q =>
        cases answer with
        | ok u => rfl
        | error e => simp [hc] at h
  refused p e h := by
    simp only [Database.begin, begin] at h ⊢
    split at h
    · rename_i hopen
      simp [hopen]
    · rename_i hopen
      rw [if_neg hopen]
      simp only [command] at h ⊢
      cases hc : p.server.command .begin with
      | mk answer server =>
        cases answer with
        | ok u => simp [hc] at h
        | error f => exact ⟨rfl, rfl⟩
  query _ _ := rfl
  execute _ _ := rfl

/-! ## The course of a write -/

namespace Write

variable {σ : Type} [Database σ]

/-- How a write goes on a connection, of which `failed` tells of a failed statement. -/
structure Course (failed : σ → Bool) (w : Write) (aim : Aim) (db : Watched σ) : Prop where
  /-- Without a statement nothing is done. -/
  unbound : ∀ e, w.boundFor (Database.dialect db) aim = .error e →
    e.isConfiguration = true ∧ w.carryOut db aim = (.exception complaint e, db)
  /-- Without a transaction the statement is kept back, and no flag changes. -/
  unstarted : ∀ s e, w.boundFor (Database.dialect db) aim = .ok s →
    Database.inTransaction db = false → (Database.begin db).1 = .error e →
    (w.carryOut db aim).1 = .exception complaint e ∧
      (w.carryOut db aim).2.handed = db.handed ∧
      Database.inTransaction (w.carryOut db aim).2 = Database.inTransaction db ∧
      failed (w.carryOut db aim).2.connection = failed db.connection
  /-- In a transaction the statement is handed over once, and the transaction goes on. -/
  started : ∀ s, w.boundFor (Database.dialect db) aim = .ok s →
    (Database.inTransaction db = true ∨ (Database.begin db).1 = .ok ()) →
    (w.carryOut db aim).2.handed = db.handed ++ [(s, true)] ∧
      Database.inTransaction (w.carryOut db aim).2 = true

theorem course_of_isSteady {failed : σ → Bool} (hsteady : Database.IsSteady failed) (w : Write)
    (aim : Aim) (db : Watched σ) : Course failed w aim db where
  unbound e hbound := by
    refine ⟨?_, carryOut_of_unbound hbound⟩
    rw [eq_duplicateName_of_boundFor hbound]
    rfl
  unstarted s e hbound hclosed hbegin := by
    have hopened : Database.opened db = (.error e, (Database.begin db).2) := by
      rw [Database.opened_of_closed hclosed, ← hbegin]
    obtain ⟨hopen, hfailed⟩ := hsteady.refused db.connection e hbegin
    rw [carryOut_of_refused hbound hopened]
    exact ⟨rfl, rfl, hopen, hfailed⟩
  started s hbound hstart := by
    obtain ⟨c, hopened, hopen⟩ := Watched.exists_opened hsteady hstart
    rw [carryOut_of_opened hbound hopened, Watched.action_eq]
    refine ⟨by simp [Prod.map, hopen], ?_⟩
    exact (hsteady.action aim s c).trans hopen

end Write

/-! ## What becomes of what is handed over -/

@[simp] theorem Watched.between_same {σ : Type} (before : Watched σ) (c : σ) :
    before.between ⟨c, before.handed⟩ = [] := by
  simp [between]

@[simp] theorem Watched.between_append {σ : Type} (before : Watched σ) (c : σ) (s : BoundStatement)
    (b : Bool) : before.between ⟨c, before.handed ++ [(s, b)]⟩ = [s] := by
  simp [between]

/-- A connection that answers from memory keeps every statement that it is handed and uses up a
response for each. It ends no transaction. -/
structure Memory.Recorded (before after : Watched Memory) : Prop where
  statements : after.connection.statements = before.connection.statements ++ before.between after
  responses : after.connection.responses =
    before.connection.responses.drop (before.between after).length
  commits : after.connection.commits = before.connection.commits
  rollbacks : after.connection.rollbacks = before.connection.rollbacks

/-- The texts of the statements that a server received. -/
def Server.prepared (s : Server) : List String :=
  s.log.filterMap fun
    | .prepare sql => .some sql
    | _ => .none

/-- A server that has not hung up receives the texts of the statements that are handed over and
uses up a reply for each. -/
structure Postgres.Arrived (before after : Watched Postgres) : Prop where
  prepared : after.connection.server.prepared = before.connection.server.prepared ++
    if before.connection.server.isOpen then (before.between after).map (·.sql) else []
  replies : after.connection.server.replies =
    if before.connection.server.isOpen then
      before.connection.server.replies.drop (before.between after).length
    else before.connection.server.replies

/-- Whether a transaction is open, and whether a statement in it failed, is all that opening one
changes. -/
theorem Memory.exists_opened_eq (m : Memory) :
    ∃ b b', (Database.opened m).2 = { m with inTransaction := b, failed := b' } := by
  cases hopen : m.inTransaction with
  | true => exact ⟨true, m.failed, by simp [Database.opened, Database.inTransaction, ← hopen]⟩
  | false =>
    exact ⟨true, false, by
      simp [Database.opened, Database.inTransaction, Database.begin, begin, hopen]⟩

theorem Memory.recorded (w : Write) (aim : Write.Aim) (m : Watched Memory) :
    Recorded m (w.carryOut m aim).2 := by
  obtain ⟨b, b', hopened⟩ := Memory.exists_opened_eq m.connection
  obtain h | h | ⟨s, c, hc, h⟩ := Watched.carryOut_cases w aim m
  · rw [h]
    exact ⟨by simp [Watched.between], by simp [Watched.between], rfl, rfl⟩
  · rw [h, hopened]
    exact ⟨by simp, by simp, rfl, rfl⟩
  · rw [hc] at hopened
    rw [h, show c = _ from hopened]
    cases aim <;> exact ⟨by simp; rfl, by simp; rfl, rfl, rfl⟩

/-- A command leaves the texts and the replies as they are, and an obeyed one leaves the server. -/
theorem Server.command_prepared (s : Server) (c : Server.Command) :
    (s.command c).2.prepared = s.prepared ∧ (s.command c).2.replies = s.replies ∧
      ((s.command c).1 = .ok () → (s.command c).2.isOpen = s.isOpen) := by
  refine ⟨?_, ?_, ?_⟩
  · rw [prepared, s.log_command c, List.filterMap_append]
    split <;> simp [prepared]
  · unfold Server.command
    split
    · rfl
    · split <;> rfl
  · unfold Server.command
    split
    · rintro ⟨⟩
    · split <;> rintro ⟨⟩
      rfl

/-- A statement brings its text and uses up a reply. -/
theorem Server.statement_prepared (s : Server) (sql : String) (values : List Value) :
    (s.statement sql values).2.prepared = s.prepared ++ (if s.isOpen then [sql] else []) ∧
      (s.statement sql values).2.replies = if s.isOpen then s.replies.tail else s.replies := by
  refine ⟨?_, ?_⟩
  · obtain ⟨cells?, hlog⟩ := s.log_statement sql values
    rw [prepared, hlog, List.filterMap_append]
    split
    · cases cells? <;> simp [prepared]
    · simp [prepared]
  · unfold Server.statement
    cases s.isOpen with
    | false => rfl
    | true =>
      -- The reply is used up before anything is known of it.
      simp only [Bool.not_true, Bool.false_eq_true, if_false, if_true]
      split
      · rfl
      · split
        · rfl
        · split
          · rfl
          · split <;> rfl

theorem Postgres.opened_server (p : Postgres) :
    (Database.opened p).2.server.prepared = p.server.prepared ∧
      (Database.opened p).2.server.replies = p.server.replies ∧
      ((Database.opened p).1 = .ok () → (Database.opened p).2.server.isOpen = p.server.isOpen) := by
  cases hopen : p.inTransaction with
  | true => simp [Database.opened, Database.inTransaction, hopen]
  | false =>
    obtain ⟨hprepared, hreplies, hisOpen⟩ := p.server.command_prepared .begin
    rw [Database.opened_of_closed hopen]
    simp only [Database.begin, begin, hopen, command]
    cases hc : p.server.command .begin with
    | mk answer server =>
      rw [hc] at hprepared hreplies hisOpen
      cases answer with
      | ok u => exact ⟨hprepared, hreplies, fun _ => hisOpen rfl⟩
      | error f => exact ⟨hprepared, hreplies, fun h => by simp at h⟩

theorem Postgres.arrived (w : Write) (aim : Write.Aim) (p : Watched Postgres) :
    Arrived p (w.carryOut p aim).2 := by
  obtain ⟨hprepared, hreplies, hisOpen⟩ := Postgres.opened_server p.connection
  obtain h | h | ⟨s, c, hc, h⟩ := Watched.carryOut_cases w aim p
  · rw [h]
    exact ⟨by simp [Watched.between], by simp [Watched.between]⟩
  · rw [h]
    exact ⟨by simp [hprepared], by simp [hreplies]⟩
  · rw [hc] at hprepared hreplies hisOpen
    have hserver : (aim.action s c).2.server = (c.server.statement s.sql s.params).2 := by
      cases aim <;> rfl
    obtain ⟨hsent, hused⟩ := c.server.statement_prepared s.sql s.params
    rw [h]
    refine ⟨?_, ?_⟩
    · rw [hserver, hsent, hprepared, hisOpen rfl]
      simp
    · rw [hserver, hused, hreplies, hisOpen rfl]
      simp

/-! ## Both connections -/

/-- **A write that is not started leaves no trace**, and one that is started is handed over once and
in a transaction, on a connection of either kind and in any state. -/
theorem Write.carryOut_course (w : Write) (aim : Write.Aim) :
    (∀ m : Watched Memory,
        w.Course Memory.failed aim m ∧ Memory.Recorded m (w.carryOut m aim).2) ∧
      ∀ p : Watched Postgres,
        w.Course Postgres.failed aim p ∧ Postgres.Arrived p (w.carryOut p aim).2 :=
  ⟨fun m => ⟨w.course_of_isSteady Memory.isSteady aim m, Memory.recorded w aim m⟩,
    fun p => ⟨w.course_of_isSteady Postgres.isSteady aim p, Postgres.arrived w aim p⟩⟩

/-- Saving hands nothing over. -/
theorem Watched.handed_save {σ : Type} [Database σ] (r : Watched σ) : (Database.save r).2.handed = r.handed := by
  unfold Database.save
  split <;> rfl

/-- A delete without a condition. -/
def Write.idle : Write := .delete "t" []

/-- A server that does not let transactions begin. -/
def Server.refusing : Server :=
  { Server.fresh with commandReplies := [.refuse ⟨"57P01", "shutting down", .none⟩] }

/-- A delete that fails, after which the transaction is rolled back, and one that is committed: each opens a
transaction and is handed over in it. Where `BEGIN` is refused nothing is handed over. -/
theorem Write.carryOut_course_retried :
    let m : Watched Memory := ⟨(Memory.fresh .named).respond (.fault (.query "syntax")), []⟩
    let failed := (Write.idle.carryOut m .count).2
    let saved := (Database.save failed).2
    let succeeded := (Write.idle.carryOut saved .value).2
    (∃ s, failed.handed = [(s, true)] ∧ failed.connection.failed = true ∧ saved.connection.rollbacks = 1 ∧
      ∃ s', succeeded.handed = [(s, true), (s', true)] ∧ (Database.save succeeded).2.connection.commits = 1) ∧
    (Write.idle.carryOut (⟨.connected .refusing, []⟩ : Watched Postgres) .count).2.handed = [] := by
  intro m failed saved succeeded
  have hbound : ∀ d aim, ∃ s, Write.idle.boundFor d aim = .ok s := by
    intro d aim
    have hsome : (Write.idle.boundFor d aim).toOption.isSome = true := by
      cases d <;> cases aim <;> decide +kernel
    cases hresult : Write.idle.boundFor d aim with
    | ok s => exact ⟨s, rfl⟩
    | error e =>
      rw [hresult] at hsome
      simp [Except.toOption] at hsome
  obtain ⟨s, hs⟩ := hbound .named .count
  obtain ⟨s', hs'⟩ := hbound .named .value
  obtain ⟨t, ht⟩ := hbound .postgres .count
  have hfailed := ((Write.carryOut_course Write.idle .count).1 m).1.started s hs (.inr rfl)
  have hclosed : saved.connection.inTransaction = false := by decide +kernel
  have hbegun : (Database.begin saved).1 = .ok () := by
    simp [Database.begin, Watched.pass, Memory.begin, hclosed]
  have hsucceeded := ((Write.carryOut_course Write.idle .value).1 saved).1.started s' hs' (.inr hbegun)
  have hrefused := ((Write.carryOut_course Write.idle .count).2 ⟨.connected .refusing, []⟩).1.unstarted
    t _ ht rfl rfl
  refine ⟨⟨s, hfailed.1, by decide +kernel, by decide +kernel, s', ?_, by decide +kernel⟩, hrefused.2.1⟩
  rw [hsucceeded.1, failed.handed_save, hfailed.1]
  rfl

end ParamQuery
