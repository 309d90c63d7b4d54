/-
A connection that answers from memory stands in for one to a server.

Both take the same actions. If the server accepts every command that it is
sent, and every statement succeeds on both sides or fails on both, then
after every step the two agree on whether a transaction is open, on how the
action ended and on the errors of transactions that they raise, and the
COMMITs and ROLLBACKs that the server accepted are as many as the memory
counts (`mirrored_run`).

`Mirrors` is what every action keeps, whichever order the two change their
flags in.
-/
import ParamQuery.Database.Memory
import ParamQuery.Proofs.Database.Journal

namespace ParamQuery

open Server (Command CommandReply Reply)

/-! ## Actions -/

/-- What is asked of a connection itself. -/
inductive Action where
  | query (s : BoundStatement)
  | execute (s : BoundStatement)
  | begin
  | commit
  | rollback

namespace Action

/-- Whether the action runs a statement. -/
def isStatement : Action → Bool
  | .query _ | .execute _ => true
  | .begin | .commit | .rollback => false

/-- Takes an action. Of what a statement gives back, only its error is kept. -/
def take {σ : Type} [Database σ] : Action → σ → Except Error Unit × σ
  | .query s, db => ((Database.query s db).1.map fun _ => (), (Database.query s db).2)
  | .execute s, db => ((Database.execute s db).1.map fun _ => (), (Database.execute s db).2)
  | .begin, db => Database.begin db
  | .commit, db => Database.commit db
  | .rollback, db => Database.rollback db

/-- The command that the action sends to the server, if it sends one. -/
def command? (p : Postgres) : Action → Option Command
  | .query _ | .execute _ => .none
  | .begin => if p.inTransaction then .none else .some .begin
  | .commit => if p.inTransaction then .some (if p.failed then .rollback else .commit) else .none
  | .rollback => if p.inTransaction then .some .rollback else .none

/-- Whether the server accepts the command that the action sends. -/
def isObeyed (p : Postgres) (a : Action) : Bool := (a.command? p).all fun c => (p.server.command c).1.isOk

end Action

/-! ## Errors of statements -/

theorem map_ne_error {α β : Type} {e : Error} (f : α → β) {x : Except Error α} (h : x ≠ .error e) :
    x.map f ≠ .error e := by
  cases x with
  | ok a => simp [Except.map]
  | error d => simpa [Except.map] using h

/-- What a server refuses is no error of a transaction. -/
theorem Server.Fault.error_ne_transaction (f : Server.Fault) (message : String) :
    f.error ≠ .transaction message := by
  cases f with
  | refused r =>
    simp only [Fault.error, Refusal.error]
    split
    · simp
    · split
      · simp
      · simp
  | closed => simp [Fault.error]
  | badParameters => simp [Fault.error]

theorem isOk_map {α β : Type} (f : α → β) (x : Except Error α) : (x.map f).isOk = x.isOk := by
  cases x <;> rfl

theorem Row.readCells_ne_transaction (columns : List (String × PgType)) (cells : List Server.Cell)
    (message : String) : readCells columns cells ≠ .error (.transaction message) := by
  fun_induction readCells columns cells with
  | case1 name type columns cell cells v hv ih => exact map_ne_error _ ih
  | case2 => simp
  | case3 => simp

theorem Row.readRows_ne_transaction (columns : List (String × PgType)) (rows : List (List Server.Cell))
    (message : String) : readRows columns rows ≠ .error (.transaction message) := by
  induction rows with
  | nil => simp [readRows]
  | cons cells rows ih =>
    simp only [readRows]
    split
    · exact map_ne_error _ ih
    · rename_i e he
      have := readCells_ne_transaction columns cells message
      simpa [he] using this

theorem Postgres.run_ne_transaction {α : Type} {read : Reply → Except Error α} {message : String}
    (hread : ∀ r, read r ≠ .error (.transaction message)) (s : BoundStatement) (p : Postgres) :
    (p.run read s).1 ≠ .error (.transaction message) := by
  simp only [Postgres.run]
  split
  · exact hread _
  · simpa using Server.Fault.error_ne_transaction _ message

/-- A statement that is sent to a server raises no error of a transaction. -/
theorem Action.take_ne_transaction {a : Action} (ha : a.isStatement = true) (p : Postgres)
    (message : String) : (a.take p).1 ≠ .error (.transaction message) := by
  cases a with
  | query s =>
    have hrecords : ∀ r : Reply, r.records ≠ .error (.transaction message) := by
      intro r
      unfold Server.Reply.records
      split
      · simp
      · exact Row.readRows_ne_transaction _ _ _
    exact map_ne_error _ (Postgres.run_ne_transaction hrecords s p)
  | execute s => exact map_ne_error _ (Postgres.run_ne_transaction (by simp) s p)
  | begin | commit | rollback => simp [isStatement] at ha

/-! ## The two sides -/

/-- Whether a transaction is open, and whether a statement in it failed. -/
def Memory.status (m : Memory) : Bool × Bool := (m.inTransaction, m.failed)

/-- How often the server received a command and accepted it. -/
def Recorder.accepted (r : Recorder) (c : Command) : Nat := r.journal.count (.command c true)

/-- The two know the same of their transactions, and count the same. -/
structure Mirrors (m : Memory) (r : Recorder) : Prop where
  status : r.status = m.status
  commits : r.accepted .commit = m.commits
  rollbacks : r.accepted .rollback = m.rollbacks

@[simp] theorem Recorder.accepted_becomes (r : Recorder) (p : Postgres) (es : List Entry) (c : Command) :
    (r.becomes p es).accepted c = r.accepted c + es.count (.command c true) := by
  simp [accepted, becomes]

/-- A command that the server accepts is noted so. -/
theorem Recorder.command_of_isOk (r : Recorder) {p : Postgres} (hp : p.server = r.connection.server)
    {c : Command} (h : (r.connection.server.command c).1.isOk = true) :
    ∃ s, p.command c = (.ok (), { p with server := s }) ∧ r.received s = [.command c true] := by
  rcases r.command_cases hp c with hobeyed | ⟨e, s, hs, -⟩
  · exact hobeyed
  · -- An answer that is no error is passed on as none.
    exfalso
    rw [← hp] at h
    simp only [Postgres.command] at hs
    cases ha : p.server.command c with
    | mk answer s' => cases answer <;> simp_all [Except.isOk, Except.toBool]

namespace Mirrors

variable {m : Memory} {r : Recorder}

theorem inTransaction (h : Mirrors m r) : r.connection.inTransaction = m.inTransaction :=
  congrArg Prod.fst h.status

theorem failed (h : Mirrors m r) : r.connection.failed = m.failed := congrArg Prod.snd h.status

/-- Both open a transaction, or both refuse because one is open. -/
theorem begin (h : Mirrors m r) (hobeyed : Action.begin.isObeyed r.connection = true) :
    (Database.begin r.connection).1 = (Database.begin m).1 ∧
      Mirrors (Database.begin m).2 (Database.begin r).2 := by
  cases hopen : m.inTransaction with
  | true =>
    have hopen' : r.connection.inTransaction = true := h.inTransaction.trans hopen
    simp only [Database.begin, Recorder.control, Postgres.begin, Memory.begin, hopen, hopen', if_true]
    refine ⟨trivial, ?_⟩
    simpa [Recorder.becomes, Recorder.received_same] using h
  | false =>
    have hopen' : r.connection.inTransaction = false := h.inTransaction.trans hopen
    simp only [Action.isObeyed, Action.command?, hopen', Bool.false_eq_true, if_false, Option.all_some]
      at hobeyed
    obtain ⟨s, hs, hsent⟩ := r.command_of_isOk rfl hobeyed
    simp only [Database.begin, Recorder.control, Postgres.begin, Memory.begin, hopen, hopen',
      Bool.false_eq_true, if_false, hs]
    exact ⟨trivial, rfl, by simpa [Postgres.settled, hsent] using h.commits,
      by simpa [Postgres.settled, hsent] using h.rollbacks⟩

/-- Both commit, both roll back and say why, or both refuse because no transaction is open. -/
theorem commit (h : Mirrors m r) (hobeyed : Action.commit.isObeyed r.connection = true) :
    (Database.commit r.connection).1 = (Database.commit m).1 ∧
      Mirrors (Database.commit m).2 (Database.commit r).2 := by
  cases hopen : m.inTransaction with
  | false =>
    have hopen' : r.connection.inTransaction = false := h.inTransaction.trans hopen
    simp only [Database.commit, Recorder.control, Postgres.commit, Memory.commit, hopen, hopen',
      Bool.not_false, if_true]
    refine ⟨trivial, ?_⟩
    simpa [Recorder.becomes, Recorder.received_same] using h
  | true =>
    have hopen' : r.connection.inTransaction = true := h.inTransaction.trans hopen
    simp only [Action.isObeyed, Action.command?, hopen', if_true, Option.all_some] at hobeyed
    cases hfailed : m.failed with
    | true =>
      have hfailed' : r.connection.failed = true := h.failed.trans hfailed
      rw [hfailed', if_pos rfl] at hobeyed
      have hserver : (r.connection.settled false).server = r.connection.server := rfl
      obtain ⟨s, hs, hsent⟩ := r.command_of_isOk hserver hobeyed
      simp only [Database.commit, Recorder.control, Postgres.commit, Memory.commit, hopen, hopen', hfailed,
        hfailed', Bool.not_true, Bool.false_eq_true, if_false, if_true, hs]
      exact ⟨trivial, rfl, by simpa [Memory.closed, hsent] using h.commits,
        by simpa [hsent] using h.rollbacks⟩
    | false =>
      have hfailed' : r.connection.failed = false := h.failed.trans hfailed
      rw [hfailed', if_neg (by simp)] at hobeyed
      obtain ⟨s, hs, hsent⟩ := r.command_of_isOk rfl hobeyed
      simp only [Database.commit, Recorder.control, Postgres.commit, Memory.commit, hopen, hopen', hfailed,
        hfailed', Bool.not_true, Bool.false_eq_true, if_false, hs]
      exact ⟨trivial, rfl, by simpa [Postgres.settled, hsent] using h.commits,
        by simpa [Postgres.settled, Memory.closed, hsent] using h.rollbacks⟩

/-- Both roll back, or both refuse because no transaction is open. -/
theorem rollback (h : Mirrors m r) (hobeyed : Action.rollback.isObeyed r.connection = true) :
    (Database.rollback r.connection).1 = (Database.rollback m).1 ∧
      Mirrors (Database.rollback m).2 (Database.rollback r).2 := by
  cases hopen : m.inTransaction with
  | false =>
    have hopen' : r.connection.inTransaction = false := h.inTransaction.trans hopen
    simp only [Database.rollback, Recorder.control, Postgres.rollback, Memory.rollback, hopen, hopen',
      Bool.not_false, if_true]
    refine ⟨trivial, ?_⟩
    simpa [Recorder.becomes, Recorder.received_same] using h
  | true =>
    have hopen' : r.connection.inTransaction = true := h.inTransaction.trans hopen
    simp only [Action.isObeyed, Action.command?, hopen', if_true, Option.all_some] at hobeyed
    have hserver : (r.connection.settled false).server = r.connection.server := rfl
    obtain ⟨s, hs, hsent⟩ := r.command_of_isOk hserver hobeyed
    simp only [Database.rollback, Recorder.control, Postgres.rollback, Memory.rollback, hopen, hopen',
      Bool.not_true, Bool.false_eq_true, if_false, hs]
    exact ⟨trivial, rfl, by simpa [Memory.closed, hsent] using h.commits,
      by simpa [hsent] using h.rollbacks⟩

/-- A statement that ends alike on both sides opens and ends no transaction, and both know of its
failure if one is open. -/
theorem statement {α : Type} (h : Mirrors m r) {read : Reply → Except Error α}
    {read' : Option Memory.Response → Except Error α} {s : BoundStatement}
    (halike : (m.answer read' s).1.isOk = (r.connection.run read s).1.isOk) :
    Mirrors (Memory.answer read' s m).2 (Recorder.call (Postgres.run read s) r).2 := by
  obtain ⟨hopen, hfailed⟩ := Recorder.run_status read s r.connection
  have hcount : ∀ c b, (r.received (r.connection.run read s).2.server).count (.command c b) = 0 := by
    intro c b
    rcases r.received_statement s.sql s.params with hsent | hsent
    · exact (congrArg (List.count _) hsent).trans rfl
    · exact (congrArg (List.count _) hsent).trans (by simp)
  refine ⟨?_, ?_, ?_⟩
  · simp only [Recorder.call, Recorder.status, Recorder.becomes, Memory.status, m.failed_answer, hopen, hfailed,
      halike, h.inTransaction, h.failed]
    rfl
  · simpa [Recorder.call, Memory.answer, hcount] using h.commits
  · simpa [Recorder.call, Memory.answer, hcount] using h.rollbacks

/-- **Every action keeps it**, and opening and ending a transaction ends in the same way. -/
theorem take (h : Mirrors m r) {a : Action} (hobeyed : a.isObeyed r.connection = true)
    (halike : a.isStatement = true → (a.take m).1.isOk = (a.take r.connection).1.isOk) :
    Mirrors (a.take m).2 (a.take r).2 ∧
      (a.isStatement = false → (a.take r.connection).1 = (a.take m).1) := by
  cases a with
  | query s =>
    have hended := halike rfl
    simp only [Action.take, isOk_map] at hended
    exact ⟨h.statement hended, by simp [Action.isStatement]⟩
  | execute s =>
    have hended := halike rfl
    simp only [Action.take, isOk_map] at hended
    exact ⟨h.statement hended, by simp [Action.isStatement]⟩
  | begin => exact ⟨(h.begin hobeyed).2, fun _ => (h.begin hobeyed).1⟩
  | commit => exact ⟨(h.commit hobeyed).2, fun _ => (h.commit hobeyed).1⟩
  | rollback => exact ⟨(h.rollback hobeyed).2, fun _ => (h.rollback hobeyed).1⟩

end Mirrors

/-- A statement that is answered from memory raises an error of a transaction only if it is told to. -/
theorem Action.eq_fault_of_take {a : Action} (ha : a.isStatement = true) {m : Memory} {e : Error}
    (h : (a.take m).1 = .error e) : m.responses.head? = .some (.fault e) := by
  cases a with
  | query s =>
    simp only [take, Database.query, Memory.answer] at h
    cases hresponse : m.responses.head? with
    | none => simp [hresponse, Memory.rowsOf, Except.map] at h
    | some response => cases response <;> simp_all [Memory.rowsOf, Except.map]
  | execute s =>
    simp only [take, Database.execute, Memory.answer] at h
    cases hresponse : m.responses.head? with
    | none => simp [hresponse, Memory.countOf, Except.map] at h
    | some response => cases response <;> simp_all [Memory.countOf, Except.map]
  | begin | commit | rollback => simp [isStatement] at ha

/-! ## Runs -/

/-- What happens next: the memory has another answer to give, the server has more replies to give, or
both are asked for the same. -/
inductive Move where
  | respond (r : Memory.Response)
  | reply (commands : List CommandReply) (statements : List Reply)
  | ask (a : Action)

/-- The memory after a move. -/
def Memory.after (m : Memory) : Move → Memory
  | .respond r => m.respond r
  | .reply _ _ => m
  | .ask a => (a.take m).2

/-- The connection to the server after a move. -/
def Postgres.after (p : Postgres) : Move → Postgres
  | .respond _ => p
  | .reply commands statements => Recorder.hearing p commands statements
  | .ask a => (a.take p).2

/-- The connection with its journal after a move. -/
def Recorder.after (r : Recorder) : Move → Recorder
  | .respond _ => r
  | .reply commands statements => r.turn (.reply commands statements)
  | .ask a => (a.take r).2

/-- Whether a move is one that the two must bear alike: the server accepts the command that it is sent,
and a statement succeeds on both sides or fails on both. -/
def Move.isFair (m : Memory) (p : Postgres) : Move → Bool
  | .respond _ | .reply _ _ => true
  | .ask a => a.isObeyed p && (!a.isStatement || (a.take m).1.isOk == (a.take p).1.isOk)

/-- Whether all moves are, one after the other. -/
def Move.areFair (m : Memory) (p : Postgres) : List Move → Bool
  | [] => true
  | move :: moves => move.isFair m p && Move.areFair (m.after move) (p.after move) moves

theorem Recorder.connection_after (r : Recorder) (move : Move) :
    (r.after move).connection = r.connection.after move := by
  cases move with
  | respond response | reply commands statements => rfl
  | ask a => cases a <;> rfl

theorem Recorder.connection_foldl_after (r : Recorder) (moves : List Move) :
    (moves.foldl after r).connection = moves.foldl Postgres.after r.connection := by
  induction moves generalizing r with
  | nil => rfl
  | cons move moves ih => rw [List.foldl_cons, ih, connection_after, List.foldl_cons]

namespace Mirrors

variable {m : Memory} {r : Recorder}

theorem after (h : Mirrors m r) {move : Move} (hfair : move.isFair m r.connection = true) :
    Mirrors (m.after move) (r.after move) := by
  cases move with
  | respond response => exact ⟨h.status, h.commits, h.rollbacks⟩
  | reply commands statements => exact ⟨h.status, h.commits, h.rollbacks⟩
  | ask a =>
    simp only [Move.isFair, Bool.and_eq_true] at hfair
    exact (h.take hfair.1 fun ha => by simpa [ha] using hfair.2).1

/-- Fair moves keep it, and the rest of them stay fair. -/
theorem run (h : Mirrors m r) {before rest : List Move}
    (hfair : Move.areFair m r.connection (before ++ rest) = true) :
    Mirrors (before.foldl Memory.after m) (before.foldl Recorder.after r) ∧
      Move.areFair (before.foldl Memory.after m) (before.foldl Postgres.after r.connection) rest = true := by
  induction before generalizing m r with
  | nil => exact ⟨h, hfair⟩
  | cons move before ih =>
    simp only [List.cons_append, Move.areFair, Bool.and_eq_true, ← r.connection_after] at hfair
    have hrest := ih (h.after hfair.1) hfair.2
    rwa [r.connection_after] at hrest

end Mirrors

/-- How the two sides agree on an action. -/
structure Agree (m : Memory) (p : Postgres) (a : Action) : Prop where
  /-- It succeeds on both or fails on both. -/
  succeeds : (a.take m).1.isOk = (a.take p).1.isOk
  /-- Opening or ending a transaction ends in the same way, down to the error. -/
  answer : a.isStatement = false → (a.take m).1 = (a.take p).1
  /-- An error of a transaction is raised by both, unless the memory was given it to answer with. -/
  raised : ∀ message, (a.take p).1 = .error (.transaction message) →
    (a.take m).1 = .error (.transaction message)
  given : ∀ message, (a.take m).1 = .error (.transaction message) →
    (a.take p).1 = .error (.transaction message) ∨
      a.isStatement = true ∧ m.responses.head? = .some (.fault (.transaction message))

theorem Mirrors.agree {m : Memory} {r : Recorder} (h : Mirrors m r) {a : Action}
    (hfair : (Move.ask a).isFair m r.connection = true) : Agree m r.connection a := by
  simp only [Move.isFair, Bool.and_eq_true] at hfair
  have halike : a.isStatement = true → (a.take m).1.isOk = (a.take r.connection).1.isOk :=
    fun ha => by simpa [ha] using hfair.2
  have hanswer := (h.take hfair.1 halike).2
  cases ha : a.isStatement with
  | true =>
    exact {
      succeeds := halike ha
      answer := by simp [ha]
      raised := fun message he => absurd he (Action.take_ne_transaction ha _ message)
      given := fun message he => .inr ⟨ha, Action.eq_fault_of_take ha he⟩ }
  | false =>
    have hequal := hanswer ha
    exact {
      succeeds := by rw [hequal]
      answer := fun _ => hequal.symm
      raised := fun message he => hequal ▸ he
      given := fun message he => .inl (hequal.trans he) }

/-- **The memory mirrors the connection to a server.** In every run in which the server accepts the
commands that it is sent and every statement ends alike on both sides, they agree after every step
on whether a transaction is open, and the server accepted as many COMMITs and ROLLBACKs as the
memory counts; and they agree on every action. -/
theorem mirrored_run (d : Dialect) (s : Server) (moves : List Move)
    (hfair : Move.areFair (.fresh d) (.connected s) moves = true) :
    (∀ before rest, moves = before ++ rest →
      let m := before.foldl Memory.after (.fresh d)
      let p := before.foldl Postgres.after (.connected s)
      let r := before.foldl Recorder.after (.connected s)
      r.connection = p ∧ p.inTransaction = m.inTransaction ∧
        r.accepted .commit = m.commits ∧ r.accepted .rollback = m.rollbacks) ∧
    ∀ before a rest, moves = before ++ .ask a :: rest →
      Agree (before.foldl Memory.after (.fresh d)) (before.foldl Postgres.after (.connected s)) a := by
  have hstart : Mirrors (.fresh d) (.connected s) := ⟨rfl, rfl, rfl⟩
  constructor
  · rintro before rest rfl
    have hrun := (hstart.run hfair).1
    have hconnection := (Recorder.connected s).connection_foldl_after before
    exact ⟨hconnection, hconnection ▸ hrun.inTransaction, hrun.commits, hrun.rollbacks⟩
  · rintro before a rest rfl
    obtain ⟨hrun, hrest⟩ := hstart.run hfair
    have hconnection := (Recorder.connected s).connection_foldl_after before
    simp only [Move.areFair, Bool.and_eq_true] at hrest
    have hask : (Move.ask a).isFair (before.foldl Memory.after (.fresh d))
        (before.foldl Recorder.after (.connected s)).connection = true := by
      rw [hconnection]
      exact hrest.1
    have hagree := hrun.agree hask
    rwa [hconnection] at hagree

/-- A run with a transaction that is opened twice and in which a statement fails, so that it is rolled
back; then one that is committed, and nothing to roll back behind it. -/
def wavering : List Move :=
  [.ask .begin, .ask .begin, .respond (.fault (.query "syntax")),
    .reply [] [{ Reply.default with refusal? := .some (.prepare, ⟨"42601", "syntax", .none⟩) }],
    .ask (.execute ⟨"DELETE", []⟩), .ask (.query ⟨"SELECT 1", []⟩), .ask .commit, .ask .commit, .ask .begin,
    .ask (.execute ⟨"DELETE FROM t", []⟩), .ask .commit, .ask .rollback]

/-- What the memory counts and answers is what the server accepted and the connection to it answers. -/
theorem mirrored_wavering :
    Move.areFair (.fresh .named) (.connected .fresh) wavering = true ∧
      (wavering.foldl Recorder.after (.connected .fresh)).accepted .commit = 1 ∧
      (wavering.foldl Recorder.after (.connected .fresh)).accepted .rollback = 1 ∧
      (Action.commit.take ((wavering.take 6).foldl Postgres.after (.connected .fresh))).1 =
        .error .aborted := by
  have hfair : Move.areFair (.fresh .named) (.connected .fresh) wavering = true := by decide +kernel
  obtain ⟨hevery, hasked⟩ := mirrored_run .named .fresh wavering hfair
  obtain ⟨-, -, hcommits, hrollbacks⟩ := hevery wavering [] (by simp)
  have hcommit := (hasked (wavering.take 6) .commit (wavering.drop 7) rfl).answer rfl
  exact ⟨hfair, hcommits.trans (by decide +kernel), hrollbacks.trans (by decide +kernel),
    hcommit.symm.trans rfl⟩

end ParamQuery
