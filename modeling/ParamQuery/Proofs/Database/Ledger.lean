/-
An account of the transactions of a connection that answers from memory.

The ledger is kept beside the connection: a note for each transaction that
is opened, and one for each statement that is answered. `accounts_of_run`:
after every run the counts of the connection are those of its notes, and
the notes tell how saving ends. That depends on all that was run since the
transaction was opened, reads and first writes included.
-/
import ParamQuery.Database.Memory
import ParamQuery.Proofs.Database.Operation

namespace ParamQuery

/-- What is noted. -/
inductive Note where
  /-- A transaction was opened. -/
  | opened
  | answered (succeeded : Bool)
  deriving DecidableEq, Repr

/-- A connection and what was noted of it, the last first. -/
structure Ledger where
  memory : Memory
  notes : List Note

namespace Ledger

def fresh (d : Dialect) : Ledger := ⟨.fresh d, []⟩

/-- Lets the connection do something, and notes what its answer calls for. -/
def act {α : Type} (note? : Except Error α → Option Note) (action : Memory → Except Error α × Memory)
    (l : Ledger) : Except Error α × Ledger :=
  let (answer, m) := action l.memory
  (answer, ⟨m, (note? answer).toList ++ l.notes⟩)

instance : Database Ledger where
  dialect l := Database.dialect l.memory
  inTransaction l := Database.inTransaction l.memory
  query s := act (fun answer => .some (.answered answer.isOk)) (Database.query s)
  execute s := act (fun answer => .some (.answered answer.isOk)) (Database.execute s)
  begin := act (fun answer => if answer.isOk then .some .opened else .none) Database.begin
  commit := act (fun _ => .none) Database.commit
  rollback := act (fun _ => .none) Database.rollback

/-- Keeping a ledger changes nothing. -/
theorem respected_memory : Respected memory where
  dialect _ := rfl
  inTransaction _ := rfl
  query _ _ := rfl
  execute _ _ := rfl
  begin _ := rfl
  commit _ := rfl
  rollback _ := rfl

/-! ## What the notes say -/

/-- How many transactions were opened. -/
def opened (l : Ledger) : Nat := l.notes.count .opened

/-- Whether a statement was answered with an error since the last transaction was opened. -/
def hasFailure (l : Ledger) : Bool := (l.notes.takeWhile (· != .opened)).contains (.answered false)

theorem hasFailure_opened (m : Memory) (notes : List Note) : hasFailure ⟨m, .opened :: notes⟩ = false := rfl

theorem hasFailure_answered (m m' : Memory) (succeeded : Bool) (notes : List Note) :
    hasFailure ⟨m, .answered succeeded :: notes⟩ = (hasFailure ⟨m', notes⟩ || !succeeded) := by
  cases succeeded with
  | true => simp [hasFailure]
  | false => simp [hasFailure]

/-- Every transaction that was opened is open or was counted when it ended, and the connection knows of
a failure exactly where the notes have one in the open transaction. -/
structure IsBalanced (l : Ledger) : Prop where
  opened : l.opened = l.memory.commits + l.memory.rollbacks + if l.memory.inTransaction then 1 else 0
  failed : l.memory.failed = (l.memory.inTransaction && l.hasFailure)

theorem isBalanced_fresh (d : Dialect) : (fresh d).IsBalanced := ⟨rfl, rfl⟩

namespace IsBalanced

variable {l : Ledger}

theorem answer (h : l.IsBalanced) {α : Type} (read : Option Memory.Response → Except Error α)
    (s : BoundStatement) :
    IsBalanced (act (fun answer => .some (.answered answer.isOk)) (Memory.answer read s) l).2 where
  opened := (List.count_cons_of_ne (by simp)).trans h.opened
  failed := by
    simp only [act, Option.toList_some, List.singleton_append, Memory.failed_answer,
      hasFailure_answered _ l.memory, h.failed, Bool.and_or_distrib_left]
    rfl

theorem begin (h : l.IsBalanced) : IsBalanced (Database.begin l).2 := by
  cases hopen : l.memory.inTransaction with
  | true =>
    have hsame : (Database.begin l).2 = l := by
      simp [Database.begin, act, Memory.begin, hopen, Except.isOk, Except.toBool]
    rwa [hsame]
  | false =>
    have hbegun : (Database.begin l).2 =
        ⟨{ l.memory with inTransaction := true, failed := false }, .opened :: l.notes⟩ := by
      simp [Database.begin, act, Memory.begin, hopen, Except.isOk, Except.toBool]
    rw [hbegun]
    have hopened := h.opened
    simp only [hopen, Bool.false_eq_true, if_false, Ledger.opened] at hopened
    exact ⟨by simp [Ledger.opened, hopened], by simp [hasFailure_opened]⟩

/-- A transaction that ends is counted once, either way. -/
theorem ended (h : l.IsBalanced) {m : Memory} (hopen : l.memory.inTransaction = true)
    (hcount : m.commits + m.rollbacks = l.memory.commits + l.memory.rollbacks + 1)
    (hclosed : m.inTransaction = false) (hfailed : m.failed = false) : IsBalanced ⟨m, l.notes⟩ where
  opened := by
    have hopened := h.opened
    simp only [hopen, if_true, Ledger.opened] at hopened
    simp [Ledger.opened, hopened, hclosed, hcount]
  failed := by simp [hclosed, hfailed]

theorem commit (h : l.IsBalanced) : IsBalanced (Database.commit l).2 := by
  simp only [Database.commit, act, Memory.commit]
  split
  · exact h
  · rename_i hopen
    simp only [Bool.not_eq_true', Bool.not_eq_false] at hopen
    split
    · exact h.ended hopen (by simp only [Memory.closed]; omega) rfl rfl
    · exact h.ended hopen (by simp only [Memory.closed]; omega) rfl rfl

theorem rollback (h : l.IsBalanced) : IsBalanced (Database.rollback l).2 := by
  simp only [Database.rollback, act, Memory.rollback]
  split
  · exact h
  · rename_i hopen
    simp only [Bool.not_eq_true', Bool.not_eq_false] at hopen
    exact h.ended hopen (by simp only [Memory.closed]; omega) rfl rfl

end IsBalanced

theorem kept_isBalanced : Kept IsBalanced where
  query s _ h := h.answer Memory.rowsOf s
  execute s _ h := h.answer Memory.countOf s
  begin h := h.begin
  commit h := h.commit
  rollback h := h.rollback

/-! ## Runs -/

/-- What happens next: there is one more answer to give, or something is asked of the connection. -/
inductive Turn where
  | respond (r : Memory.Response)
  | ask (op : Operation)

def bareTurn (m : Memory) : Turn → Memory
  | .respond r => m.respond r
  | .ask op => op.after m

def turn (l : Ledger) : Turn → Ledger
  | .respond r => { l with memory := l.memory.respond r }
  | .ask op => op.after l

def run (l : Ledger) (turns : List Turn) : Ledger := turns.foldl turn l

theorem memory_run (l : Ledger) (turns : List Turn) :
    (l.run turns).memory = turns.foldl bareTurn l.memory := by
  induction turns generalizing l with
  | nil => rfl
  | cons t turns ih =>
    have hturn : (l.turn t).memory = bareTurn l.memory t := by
      cases t with
      | respond r => rfl
      | ask op => exact (respected_memory.after l op).symm
    rw [run, List.foldl_cons, ← run, ih, hturn, List.foldl_cons]

theorem IsBalanced.turn {l : Ledger} (h : l.IsBalanced) (t : Turn) : (l.turn t).IsBalanced := by
  cases t with
  | respond r => exact ⟨h.opened, h.failed⟩
  | ask op => exact kept_isBalanced.after h op

theorem IsBalanced.run {l : Ledger} (h : l.IsBalanced) (turns : List Turn) : (l.run turns).IsBalanced := by
  induction turns generalizing l with
  | nil => exact h
  | cons t turns ih => exact ih (h.turn t)

/-! ## Saving and discarding -/

section Settling

variable {m : Memory}

theorem save_of_closed (h : m.inTransaction = false) :
    Database.save m = (.failed "There are no pending changes to save.", m) := by
  simp [Database.save, Database.inTransaction, h]

theorem save_of_sound (h : m.inTransaction = true) (hfailed : m.failed = false) :
    Database.save m = (.success (), { m.closed with commits := m.commits + 1 }) := by
  simp [Database.save, Database.inTransaction, Database.commit, Memory.commit, Outcome.captured, h, hfailed]

theorem save_of_failed (h : m.inTransaction = true) (hfailed : m.failed = true) :
    Database.save m =
      (.raised "Could not save the changes." .aborted, { m.closed with rollbacks := m.rollbacks + 1 }) := by
  simp [Database.save, Database.inTransaction, Database.commit, Memory.commit, Outcome.captured, h, hfailed]

theorem discard_eq (m : Memory) :
    Database.discard m =
      (.success (), if m.inTransaction then { m.closed with rollbacks := m.rollbacks + 1 } else m) := by
  cases h : m.inTransaction with
  | false => simp [Database.discard, Database.inTransaction, h]
  | true =>
    simp [Database.discard, Database.inTransaction, Database.rollback, Memory.rollback, Outcome.captured, h]

end Settling

/-- How saving ends, where `failure` says whether a statement failed since the transaction was opened. -/
structure Saves (m : Memory) (failure : Bool) : Prop where
  fails_iff : (∃ message, (Database.save m).1 = .fail message) ↔ m.inTransaction = false
  succeeds_iff : (Database.save m).1 = .success () ↔ m.inTransaction = true ∧ failure = false
  raises_iff : (∃ message text, (Database.save m).1 = .exception message (.transaction text)) ↔
    m.inTransaction = true ∧ failure = true
  commits : (Database.save m).2.commits = m.commits + if m.inTransaction && !failure then 1 else 0
  rollbacks : (Database.save m).2.rollbacks = m.rollbacks + if m.inTransaction && failure then 1 else 0
  closed : (Database.save m).2.inTransaction = false

theorem IsBalanced.saves {l : Ledger} (h : l.IsBalanced) : Saves l.memory l.hasFailure := by
  cases hopen : l.memory.inTransaction with
  | false => constructor <;> simp [save_of_closed hopen, hopen, Outcome.failed]
  | true =>
    have hfailed : l.memory.failed = l.hasFailure := by simpa [hopen] using h.failed
    cases hfailure : l.hasFailure with
    | false =>
      have hsave := save_of_sound hopen (hfailed.trans hfailure)
      constructor <;> simp [hsave, hopen, Memory.closed]
    | true =>
      have hsave := save_of_failed hopen (hfailed.trans hfailure)
      constructor <;> simp [hsave, hopen, Memory.closed, Outcome.raised, Error.aborted]

theorem inTransaction_discard (m : Memory) : (Database.discard m).2.inTransaction = false := by
  rw [discard_eq]
  split
  · rfl
  · rename_i hclosed
    simpa using hclosed

/-- **Saving and discarding account for every transaction.** Whatever was run and answered: a
transaction that was opened is committed, rolled back or still open. Saving fails where none is open,
commits where nothing failed since it was opened, and else rolls back and says so; discarding always
succeeds; and neither leaves a transaction behind. -/
theorem accounts_of_run (d : Dialect) (turns : List Turn) :
    let l := (fresh d).run turns
    let m := turns.foldl bareTurn (.fresh d)
    l.memory = m ∧
      l.opened = m.commits + m.rollbacks + (if m.inTransaction then 1 else 0) ∧
      (m.inTransaction = false → m.failed = false) ∧
      Saves m l.hasFailure ∧
      (Database.discard m).1 = .success () ∧ (Database.discard m).2.inTransaction = false := by
  intro l m
  have hmemory : l.memory = m := memory_run (fresh d) turns
  have hbalanced : l.IsBalanced := (isBalanced_fresh d).run turns
  have hsaves : Saves m l.hasFailure := hmemory ▸ hbalanced.saves
  refine ⟨hmemory, hmemory ▸ hbalanced.opened, fun hclosed => ?_, hsaves, ?_, inTransaction_discard m⟩
  · rw [← hmemory] at hclosed ⊢
    simp [hbalanced.failed, hclosed]
  · rw [discard_eq]

/-- A delete that fails and is saved in vain, and one that is saved. -/
def retrying : List Turn :=
  [.respond (.fault (.query "syntax")), .ask (.execute (.delete "t" [])), .ask .save,
    .ask (.execute (.delete "t" [])), .ask .save]

/-- Saving raises an error after the first delete; in the end two transactions were opened, of which one was
rolled back and one is committed. -/
theorem accounts_of_retrying :
    (∃ message text, (Database.save ((retrying.take 2).foldl bareTurn (.fresh .named))).1 =
        .exception message (.transaction text)) ∧
      (∃ message, (Database.save (retrying.foldl bareTurn (.fresh .named))).1 = .fail message) ∧
      ((fresh .named).run retrying).opened = 2 ∧
      (retrying.foldl bareTurn (.fresh .named)).commits = 1 ∧
      (retrying.foldl bareTurn (.fresh .named)).rollbacks = 1 := by
  obtain ⟨-, -, -, hhalf, -⟩ := accounts_of_run .named (retrying.take 2)
  obtain ⟨-, hopened, -, hwhole, -⟩ := accounts_of_run .named retrying
  exact ⟨hhalf.raises_iff.2 ⟨by decide +kernel, by decide +kernel⟩, hwhole.fails_iff.2 (by decide +kernel),
    hopened.trans (by decide +kernel), by decide +kernel, by decide +kernel⟩

end Ledger

end ParamQuery
