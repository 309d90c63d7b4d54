/-
A connection to a PostgreSQL server with a journal of what passes: the
commands and statements that the server receives, whether it obeys the
commands, and how the statements end.

Nothing is made up: what the server received is read off its log, whether
it obeys a command is its own answer, and how a statement ended is what the
connection gives back. `respected_connection`: keeping a journal changes
nothing. The `_cases` lemmas say all that an action can do.
-/
import ParamQuery.Database.Postgres
import ParamQuery.Proofs.Database.Operation

namespace ParamQuery

open Server (Command CommandReply Event Reply)

/-- What is noted of a connection. -/
inductive Entry where
  /-- The server received a command, and obeyed or not. -/
  | command (c : Command) (obeyed : Bool)
  /-- The server received a statement, from a write or not. -/
  | statement (sql : String) (write : Bool)
  /-- A statement was to be run for its rows or their number, and was or was not with success. -/
  | call (succeeded : Bool)
  deriving DecidableEq, Repr

/-- What is noted of something that `s` received. The parameters of a statement are not noted. -/
def Entry.ofEvent? (s : Server) (write : Bool) : Event → Option Entry
  | .command c => .some (.command c (s.command c).1.isOk)
  | .prepare sql => .some (.statement sql write)
  | .execute _ => .none

/-- A connection with its journal. -/
structure Recorder where
  connection : Postgres
  /-- Whether what is done now is done for a write. -/
  writing : Bool
  journal : List Entry

namespace Recorder

/-- A new connection. -/
def connected (s : Server) : Recorder := ⟨.connected s, false, []⟩

/-- What is noted while the server becomes `s`. -/
def received (r : Recorder) (s : Server) : List Entry :=
  (s.log.drop r.connection.server.log.length).filterMap
    (Entry.ofEvent? r.connection.server r.writing)

/-- The recorder after the connection became `p` and `es` were noted. -/
def becomes (r : Recorder) (p : Postgres) (es : List Entry) : Recorder :=
  { r with connection := p, journal := r.journal ++ es }

/-- Lets the connection do something for which it sends one command at most. -/
def control (action : Postgres → Except Error Unit × Postgres) (r : Recorder) :
    Except Error Unit × Recorder :=
  let (answer, p) := action r.connection
  (answer, r.becomes p (r.received p.server))

/-- Lets the connection run a statement. -/
def call {α : Type} (action : Postgres → Except Error α × Postgres) (r : Recorder) :
    Except Error α × Recorder :=
  let (answer, p) := action r.connection
  (answer, r.becomes p (r.received p.server ++ [.call answer.isOk]))

instance : Database Recorder where
  dialect r := Database.dialect r.connection
  inTransaction r := r.connection.inTransaction
  query s := call (Database.query s)
  execute s := call (Database.execute s)
  begin := control Postgres.begin
  commit := control Postgres.commit
  rollback := control Postgres.rollback

/-- Keeping a journal changes nothing. -/
theorem respected_connection : Respected connection where
  dialect _ := rfl
  inTransaction _ := rfl
  query _ _ := rfl
  execute _ _ := rfl
  begin _ := rfl
  commit _ := rfl
  rollback _ := rfl

end Recorder

/-! ## What the server receives -/

theorem Server.log_command (s : Server) (c : Command) :
    (s.command c).2.log = s.log ++ if s.isOpen then [.command c] else [] := by
  unfold Server.command
  split
  · rename_i h
    simp only [Bool.not_eq_true'] at h
    simp [h]
  · rename_i h
    simp only [Bool.not_eq_true', Bool.not_eq_false] at h
    split <;> simp [h, Server.note, Server.gone]

theorem Server.not_isOk_command {s : Server} (h : s.isOpen = false) (c : Command) :
    (s.command c).1.isOk = false := by
  simp [Server.command, h, Except.isOk, Except.toBool]

theorem Server.log_statement (s : Server) (sql : String) (values : List Value) :
    ∃ cells? : Option (List Server.Cell),
      (s.statement sql values).2.log =
        s.log ++ if s.isOpen then .prepare sql :: cells?.toList.map .execute else [] := by
  unfold Server.statement
  split
  · rename_i h
    simp only [Bool.not_eq_true'] at h
    exact ⟨.none, by simp [h]⟩
  · rename_i h
    simp only [Bool.not_eq_true', Bool.not_eq_false] at h
    dsimp only
    split
    · exact ⟨.none, by simp [h, Server.note, Server.gone]⟩
    · split
      · exact ⟨.none, by simp [h, Server.note]⟩
      · split
        · exact ⟨.none, by simp [h, Server.note]⟩
        · rename_i cells _
          refine ⟨.some cells, ?_⟩
          split <;> simp [h, Server.note]

namespace Recorder

theorem received_same (r : Recorder) : r.received r.connection.server = [] := by
  simp [received]

/-- A command is obeyed and noted so; or it is not obeyed, and noted if it arrives. -/
theorem command_cases (r : Recorder) {p : Postgres} (hp : p.server = r.connection.server)
    (c : Command) :
    (∃ s, p.command c = (.ok (), { p with server := s }) ∧ r.received s = [.command c true]) ∨
      ∃ e s, p.command c = (.error e, { p with server := s }) ∧
        (r.received s = [] ∨ r.received s = [.command c false]) := by
  have hlog := Server.log_command r.connection.server c
  have hclosed := @Server.not_isOk_command r.connection.server
  have hnoted : r.received (r.connection.server.command c).2 =
      if r.connection.server.isOpen then [.command c (r.connection.server.command c).1.isOk]
      else [] := by
    rw [received, hlog, List.drop_left]
    split <;> rfl
  unfold Postgres.command
  rw [hp]
  cases hs : r.connection.server.command c with
  | mk answer s =>
    rw [hs] at hnoted
    cases answer with
    | ok u =>
      refine .inl ⟨s, rfl, ?_⟩
      cases hopen : r.connection.server.isOpen with
      | false =>
        have := hclosed hopen c
        simp [hs, Except.isOk, Except.toBool] at this
      | true =>
        rw [hnoted, hopen]
        rfl
    | error e =>
      refine .inr ⟨_, s, rfl, ?_⟩
      cases hopen : r.connection.server.isOpen with
      | false => exact .inl (by simpa [hopen] using hnoted)
      | true =>
        rw [hnoted, hopen]
        exact .inr rfl

/-- A statement is noted if it arrives. -/
theorem received_statement (r : Recorder) (sql : String) (values : List Value) :
    r.received (r.connection.server.statement sql values).2 = [] ∨
      r.received (r.connection.server.statement sql values).2 = [.statement sql r.writing] := by
  obtain ⟨cells?, hlog⟩ := r.connection.server.log_statement sql values
  rw [received, hlog, List.drop_left]
  split
  · refine .inr ?_
    cases cells? <;> simp [Entry.ofEvent?]
  · exact .inl rfl

/-! ## What an action can do -/

/-- Whether a transaction is open, and whether a statement in it failed. -/
def status (r : Recorder) : Bool × Bool := (r.connection.inTransaction, r.connection.failed)

/-- A transaction is opened if none is open and the server obeys. -/
theorem begin_cases (r : Recorder) :
    ((Database.begin r).1.isOk = false ∧ (Database.begin r).2.status = r.status ∧
        ((Database.begin r).2.journal = r.journal ∨
          r.status.1 = false ∧
            (Database.begin r).2.journal = r.journal ++ [.command .begin false])) ∨
      ((Database.begin r).1.isOk = true ∧ (Database.begin r).2.status = (true, false) ∧
        (Database.begin r).2.journal = r.journal ++ [.command .begin true]) := by
  simp only [Database.begin, control, Postgres.begin]
  split
  · exact .inl ⟨rfl, rfl, .inl (by simp [becomes, received_same])⟩
  · rename_i hopen
    rcases r.command_cases rfl .begin with ⟨s, hs, hsent⟩ | ⟨e, s, hs, hsent⟩
    · rw [hs]
      exact .inr ⟨rfl, rfl, by simp [becomes, Postgres.settled, hsent]⟩
    · rw [hs]
      refine .inl ⟨rfl, rfl, ?_⟩
      rcases hsent with hsent | hsent
      · exact .inl (by simp [becomes, hsent])
      · exact .inr ⟨by simpa [status] using hopen, by simp [becomes, hsent]⟩

/-- A transaction in which nothing failed is committed, and is over if the server obeys; one in
which something failed is rolled back, and is over. -/
theorem commit_cases (r : Recorder) :
    ((Database.commit r).1.isOk = false ∧ (Database.commit r).2.journal = r.journal ∧
        ((Database.commit r).2.status = r.status ∨ (Database.commit r).2.status.1 = false)) ∨
      (r.status = (true, true) ∧ (Database.commit r).1.isOk = false ∧
        (Database.commit r).2.status.1 = false ∧
        ∃ b, (Database.commit r).2.journal = r.journal ++ [.command .rollback b]) ∨
      (r.status = (true, false) ∧ (Database.commit r).1.isOk = false ∧
        (Database.commit r).2.status = r.status ∧
        (Database.commit r).2.journal = r.journal ++ [.command .commit false]) ∨
      (r.status = (true, false) ∧ (Database.commit r).1.isOk = true ∧
        (Database.commit r).2.status.1 = false ∧
        (Database.commit r).2.journal = r.journal ++ [.command .commit true]) := by
  simp only [Database.commit, control, Postgres.commit]
  split
  · exact .inl ⟨rfl, by simp [becomes, received_same], .inl rfl⟩
  · rename_i hopen
    simp only [Bool.not_eq_true', Bool.not_eq_false] at hopen
    split
    · rename_i hfailed
      have hstatus : r.status = (true, true) := by simp [status, hopen, hfailed]
      have hp : (r.connection.settled false).server = r.connection.server := rfl
      rcases r.command_cases hp .rollback with ⟨s, hs, hsent⟩ | ⟨e, s, hs, hsent⟩
      · rw [hs]
        exact .inr (.inl ⟨hstatus, rfl, rfl, true, by simp [becomes, hsent]⟩)
      · rw [hs]
        rcases hsent with hsent | hsent
        · exact .inl ⟨rfl, by simp [becomes, hsent], .inr rfl⟩
        · exact .inr (.inl ⟨hstatus, rfl, rfl, false, by simp [becomes, hsent]⟩)
    · rename_i hfailed
      have hstatus : r.status = (true, false) := by simp [status, hopen, hfailed]
      rcases r.command_cases rfl .commit with ⟨s, hs, hsent⟩ | ⟨e, s, hs, hsent⟩
      · rw [hs]
        exact .inr (.inr (.inr ⟨hstatus, rfl, rfl, by simp [becomes, Postgres.settled, hsent]⟩))
      · rw [hs]
        rcases hsent with hsent | hsent
        · exact .inl ⟨rfl, by simp [becomes, hsent], .inl rfl⟩
        · exact .inr (.inr (.inl ⟨hstatus, rfl, rfl, by simp [becomes, hsent]⟩))

/-- A transaction that is rolled back is over. -/
theorem rollback_cases (r : Recorder) :
    ((Database.rollback r).2.journal = r.journal ∨
        ∃ b, (Database.rollback r).2.journal = r.journal ++ [.command .rollback b]) ∧
      (Database.rollback r).2.status.1 = false := by
  simp only [Database.rollback, control, Postgres.rollback]
  split
  · rename_i hopen
    exact ⟨.inl (by simp [becomes, received_same]), by simpa [status, becomes] using hopen⟩
  · have hp : (r.connection.settled false).server = r.connection.server := rfl
    rcases r.command_cases hp .rollback with ⟨s, hs, hsent⟩ | ⟨e, s, hs, hsent⟩
    · rw [hs]
      exact ⟨.inr ⟨true, by simp [becomes, hsent]⟩, rfl⟩
    · rw [hs]
      rcases hsent with hsent | hsent
      · exact ⟨.inl (by simp [becomes, hsent]), rfl⟩
      · exact ⟨.inr ⟨false, by simp [becomes, hsent]⟩, rfl⟩

/-- A statement that is run opens and ends no transaction, and its failure is kept if one is open. -/
theorem run_status {α : Type} (read : Reply → Except Error α) (s : BoundStatement) (p : Postgres) :
    (p.run read s).2.inTransaction = p.inTransaction ∧
      (p.run read s).2.failed = (p.failed || (p.inTransaction && !(p.run read s).1.isOk)) := by
  refine ⟨rfl, ?_⟩
  unfold Postgres.run
  dsimp only
  split
  · rename_i h
    simp [h, Except.isOk, Except.toBool]
  · rename_i h
    simp [h, Except.isOk, Except.toBool]

/-- A call is noted with how it ended, behind its statement if that arrives. -/
theorem call_cases {α : Type} (read : Reply → Except Error α) (s : BoundStatement) (r : Recorder) :
    ∃ ok : Bool,
      (call (Postgres.run read s) r).2.status = (r.status.1, r.status.2 || (r.status.1 && !ok)) ∧
        ((call (Postgres.run read s) r).2.journal = r.journal ++ [.call ok] ∨
          (call (Postgres.run read s) r).2.journal =
            r.journal ++ [.statement s.sql r.writing, .call ok]) := by
  refine ⟨(r.connection.run read s).1.isOk, ?_, ?_⟩
  · obtain ⟨hopen, hfailed⟩ := run_status read s r.connection
    simp only [call, status, becomes, hopen, hfailed]
  · have hserver : (r.connection.run read s).2.server =
        (r.connection.server.statement s.sql s.params).2 := rfl
    simp only [call, becomes, hserver]
    rcases r.received_statement s.sql s.params with hsent | hsent
    · exact .inl (by rw [hsent]; rfl)
    · exact .inr (by rw [hsent]; rfl)

/-! ## Turns -/

/-- What happens next: the server has more replies to give, or something is asked of the connection.
No operation sends more than one command and one statement, so replies that arrive between
operations make every sequence of them. -/
inductive Turn where
  | reply (commands : List CommandReply) (statements : List Reply)
  | ask (op : Operation)

/-- The connection after its server has more replies to give. -/
def hearing (p : Postgres) (commands : List CommandReply) (statements : List Reply) : Postgres :=
  { p with server := { p.server with
      commandReplies := p.server.commandReplies ++ commands
      replies := p.server.replies ++ statements } }

/-- A connection after a turn. -/
def bareTurn (p : Postgres) : Turn → Postgres
  | .reply commands statements => hearing p commands statements
  | .ask op => op.after p

/-- The recorder after a turn. -/
def turn (r : Recorder) : Turn → Recorder
  | .reply commands statements => { r with connection := hearing r.connection commands statements }
  | .ask op => op.after { r with writing := op.isWrite }

/-- The recorder after turns, in order. -/
def run (r : Recorder) (turns : List Turn) : Recorder := turns.foldl turn r

theorem connection_turn (r : Recorder) (t : Turn) :
    (r.turn t).connection = bareTurn r.connection t := by
  cases t with
  | reply commands statements => rfl
  | ask op => exact (respected_connection.after { r with writing := op.isWrite } op).symm

/-- The connection inside is what the turns make of a connection without a journal. -/
theorem connection_run (r : Recorder) (turns : List Turn) :
    (r.run turns).connection = turns.foldl bareTurn r.connection := by
  induction turns generalizing r with
  | nil => rfl
  | cons t turns ih => rw [run, List.foldl_cons, ← run, ih, connection_turn, List.foldl_cons]

end Recorder

end ParamQuery
