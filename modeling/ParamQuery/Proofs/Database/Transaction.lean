/-
What a journal says of transactions.

`write_covered_iff`: a write is sent to a server that obeyed a BEGIN, and
since then was sent nothing but a COMMIT that it refused; so there is a
transaction for it unless the last command was such a COMMIT. The
connection takes a refused COMMIT for one that can be tried again, where
the server has ended the transaction: `stranded_write`.
`commit_of_successes`: a COMMIT is sent only if all that was run since the
last BEGIN succeeded, and what is saved was committed.
-/
import ParamQuery.Proofs.Database.Journal

namespace ParamQuery

open Server (Command)

/-- What was noted behind the last BEGIN that the server obeyed, if there is one. -/
def sinceBegin? : List Entry → Option (List Entry)
  | [] => .none
  | e :: es =>
    match sinceBegin? es with
    | .some since => .some since
    | .none => if e = .command .begin true then .some es else .none

theorem sinceBegin?_append (es : List Entry) (e : Entry) :
    sinceBegin? (es ++ [e]) =
      if e = .command .begin true then .some [] else (sinceBegin? es).map (· ++ [e]) := by
  induction es with
  | nil => simp [sinceBegin?]
  | cons d es ih =>
    rw [List.cons_append, sinceBegin?, ih, sinceBegin?]
    by_cases he : e = .command .begin true
    · simp [he]
    · simp only [he, if_false]
      cases sinceBegin? es with
      | some since => rfl
      | none => by_cases hd : d = .command .begin true <;> simp [hd]

/-- A BEGIN that was obeyed divides the journal. -/
theorem exists_of_sinceBegin? {es since : List Entry} (h : sinceBegin? es = .some since) :
    ∃ before, es = before ++ .command .begin true :: since := by
  induction es with
  | nil => simp [sinceBegin?] at h
  | cons e es ih =>
    rw [sinceBegin?] at h
    cases hs : sinceBegin? es with
    | some s =>
      rw [hs] at h
      obtain ⟨before, hbefore⟩ := ih (hs.trans h)
      exact ⟨e :: before, by rw [hbefore]; rfl⟩
    | none =>
      simp only [hs] at h
      split at h
      · rename_i he
        exact ⟨[], by rw [he, Option.some.inj h]; rfl⟩
      · simp at h

/-! ## Conditions on what is noted -/

/-- The server obeyed a BEGIN, and has received neither COMMIT nor ROLLBACK since. -/
def Covered (es : List Entry) : Prop :=
  ∃ since, sinceBegin? es = .some since ∧ ∀ c b, .command c b ∈ since → c = .begin

/-- The server obeyed a BEGIN, and has received no command since but COMMIT, which it refused. -/
def Underway (es : List Entry) : Prop :=
  ∃ since, sinceBegin? es = .some since ∧ ∀ c b, .command c b ∈ since → c = .commit ∧ b = false

/-- The server obeyed a BEGIN, and everything that was run since succeeded. -/
def Unbroken (es : List Entry) : Prop :=
  ∃ since, sinceBegin? es = .some since ∧ ∀ b, .call b ∈ since → b = true

/-- The server obeyed a BEGIN, and something that was run since failed. -/
def Broken (es : List Entry) : Prop := ∃ since, sinceBegin? es = .some since ∧ .call false ∈ since

theorem Broken.not_unbroken {es : List Entry} (h : Broken es) : ¬ Unbroken es := by
  obtain ⟨since, hsince, hfailed⟩ := h
  rintro ⟨since', hsince', hall⟩
  obtain rfl : since = since' := Option.some.inj (hsince.symm.trans hsince')
  simpa using hall false hfailed

/-- The command that was noted, and whether the server obeyed. -/
def Entry.command? : Entry → Option (Command × Bool)
  | .command c b => .some (c, b)
  | _ => .none

/-- The last command that the server received, and whether it obeyed. -/
def lastCommand? (es : List Entry) : Option (Command × Bool) := (es.filterMap Entry.command?).getLast?

/-- What must be noted in front of an entry. -/
def Due (es : List Entry) : Entry → Prop
  | .statement _ true => Underway es
  | .command .commit _ => Unbroken es
  | _ => True

/-- Every entry has in front of it what must be there. -/
def Orderly (es : List Entry) : Prop := ∀ before e rest, es = before ++ e :: rest → Due before e

theorem Orderly.nil : Orderly [] := by
  intro before e rest h
  simp at h

theorem Orderly.append {es : List Entry} (h : Orderly es) {e : Entry} (he : Due es e) :
    Orderly (es ++ [e]) := by
  intro before d rest hsplit
  rcases List.eq_nil_or_concat rest with rfl | ⟨rest, last, rfl⟩
  · obtain ⟨rfl, hd⟩ := List.append_inj' hsplit rfl
    obtain rfl : e = d := by simpa using hd
    exact he
  · rw [List.concat_eq_append, ← List.cons_append, ← List.append_assoc] at hsplit
    exact h before d rest (List.append_inj' hsplit rfl).1

theorem Underway.append {es : List Entry} (h : Underway es) {e : Entry}
    (he : ∀ c b, e = .command c b → c = .commit ∧ b = false) : Underway (es ++ [e]) := by
  obtain ⟨since, hsince, hall⟩ := h
  have hbegin : e ≠ .command .begin true := fun heq => by simpa using he _ _ heq
  refine ⟨since ++ [e], by rw [sinceBegin?_append, if_neg hbegin, hsince]; rfl, ?_⟩
  intro c b hmem
  rcases List.mem_append.1 hmem with hmem | hmem
  · exact hall c b hmem
  · exact he c b (List.mem_singleton.1 hmem).symm

theorem Unbroken.append {es : List Entry} (h : Unbroken es) {e : Entry}
    (hbegin : e ≠ .command .begin true) (he : ∀ b, e = .call b → b = true) :
    Unbroken (es ++ [e]) := by
  obtain ⟨since, hsince, hall⟩ := h
  refine ⟨since ++ [e], by rw [sinceBegin?_append, if_neg hbegin, hsince]; rfl, ?_⟩
  intro b hmem
  rcases List.mem_append.1 hmem with hmem | hmem
  · exact hall b hmem
  · exact he b (List.mem_singleton.1 hmem).symm

/-! ## The invariant -/

/-- What a connection knows of its transaction, whether there is one and whether something in it
failed, is what the journal says. -/
structure Sound (status : Bool × Bool) (es : List Entry) : Prop where
  orderly : Orderly es
  underway : status.1 = true → Underway es
  unbroken : status = (true, false) → Unbroken es

namespace Sound

variable {status status' : Bool × Bool} {es : List Entry}

theorem nil : Sound (false, false) [] where
  orderly := .nil
  underway := by simp
  unbroken := by simp

/-- A connection that knows of no transaction has nothing to answer for. -/
theorem ended (h : Orderly es) (hended : status.1 = false) : Sound status es where
  orderly := h
  underway hopen := by simp [hended] at hopen
  unbroken hopen := by simp [hopen] at hended

theorem begun (h : Sound status es) : Sound (true, false) (es ++ [.command .begin true]) where
  orderly := h.orderly.append trivial
  underway _ := ⟨[], by rw [sinceBegin?_append, if_pos rfl], by simp⟩
  unbroken _ := ⟨[], by rw [sinceBegin?_append, if_pos rfl], by simp⟩

/-- What is noted in between leaves the transaction as it is, if it is no command that ends one, and
a failure is known. -/
theorem append (h : Sound status es) {e : Entry} (hdue : Due es e)
    (hcommand : status.1 = true → ∀ c b, e = .command c b → c = .commit ∧ b = false)
    (hopen : status'.1 = status.1)
    (hcall : status' = (true, false) → status = (true, false) ∧ ∀ b, e = .call b → b = true) :
    Sound status' (es ++ [e]) where
  orderly := h.orderly.append hdue
  underway h' := (h.underway (hopen ▸ h')).append (hcommand (hopen ▸ h'))
  unbroken h' := by
    obtain ⟨hstatus, hall⟩ := hcall h'
    refine (h.unbroken hstatus).append (fun he => ?_) hall
    simpa using hcommand (by rw [hstatus]) _ _ he

end Sound

/-! ## One action -/

namespace Recorder

variable {r : Recorder}

theorem sound_begin (h : Sound r.status r.journal) :
    Sound (Database.begin r).2.status (Database.begin r).2.journal := by
  rcases r.begin_cases with ⟨-, hstatus, hjournal | ⟨hclosed, hjournal⟩⟩ | ⟨-, hstatus, hjournal⟩
  · rw [hstatus, hjournal]
    exact h
  · rw [hstatus, hjournal]
    exact .ended (h.orderly.append trivial) hclosed
  · rw [hstatus, hjournal]
    exact h.begun

theorem sound_commit (h : Sound r.status r.journal) :
    Sound (Database.commit r).2.status (Database.commit r).2.journal := by
  rcases r.commit_cases with ⟨-, hjournal, hstatus | hstatus⟩ | ⟨-, -, hstatus, b, hjournal⟩ |
    ⟨hopen, -, hstatus, hjournal⟩ | ⟨hopen, -, hstatus, hjournal⟩
  · rw [hstatus, hjournal]
    exact h
  · rw [hjournal]
    exact .ended h.orderly hstatus
  · rw [hjournal]
    exact .ended (h.orderly.append trivial) hstatus
  · rw [hstatus, hjournal]
    refine h.append (h.unbroken hopen) (fun _ c b he => ?_) rfl (fun _ => ⟨hopen, by simp⟩)
    obtain ⟨rfl, rfl⟩ : .commit = c ∧ false = b := by simpa using he
    exact ⟨rfl, rfl⟩
  · rw [hjournal]
    exact .ended (h.orderly.append (h.unbroken hopen)) hstatus

theorem sound_rollback (h : Sound r.status r.journal) :
    Sound (Database.rollback r).2.status (Database.rollback r).2.journal := by
  obtain ⟨hjournal | ⟨b, hjournal⟩, hstatus⟩ := r.rollback_cases
  · rw [hjournal]
    exact .ended h.orderly hstatus
  · rw [hjournal]
    exact .ended (h.orderly.append trivial) hstatus

/-- A statement may be run for a write only if a transaction is open. -/
theorem sound_call {α : Type} (read : Server.Reply → Except Error α) (s : BoundStatement)
    (h : Sound r.status r.journal) (hwriting : r.writing = true → r.status.1 = true) :
    Sound (call (Postgres.run read s) r).2.status (call (Postgres.run read s) r).2.journal := by
  obtain ⟨ok, hstatus, hjournal⟩ := call_cases read s r
  -- A failure in an open transaction is known, so if none is known the statement succeeded.
  have hcall : (call (Postgres.run read s) r).2.status = (true, false) →
      r.status = (true, false) ∧ ∀ b, Entry.call ok = .call b → b = true := by
    intro hopen
    rw [hopen] at hstatus
    revert hstatus
    rcases r.status with ⟨_ | _, _ | _⟩ <;> cases ok <;> simp
  have hopen : (call (Postgres.run read s) r).2.status.1 = r.status.1 := by rw [hstatus]
  rcases hjournal with hjournal | hjournal
  · rw [hjournal]
    exact h.append trivial (by simp) hopen hcall
  · have hdue : Due r.journal (.statement s.sql r.writing) := by
      cases hw : r.writing with
      | false => trivial
      | true => exact h.underway (hwriting hw)
    have hsent : Sound r.status (r.journal ++ [.statement s.sql r.writing]) :=
      h.append hdue (by simp) rfl fun h => ⟨h, by simp⟩
    rw [hjournal, List.append_cons]
    exact hsent.append trivial (by simp) hopen hcall

/-! ## Operations -/

theorem sound_runBound {α : Type} {action : BoundStatement → Recorder → Except Error α × Recorder}
    (haction : ∀ s {r : Recorder}, Sound r.status r.journal → r.status.1 = true →
      Sound (action s r).2.status (action s r).2.journal)
    (h : Sound r.status r.journal) (s : Except Error BoundStatement) :
    Sound (Write.runBound action r s).2.status (Write.runBound action r s).2.journal := by
  cases s with
  | error e => exact h
  | ok s =>
    have hbegun : (Database.begin r).1.isOk = true → (Database.begin r).2.status.1 = true := by
      intro hok
      rcases r.begin_cases with ⟨hno, -⟩ | ⟨-, hstatus, -⟩
      · rw [hno] at hok
        cases hok
      · rw [hstatus]
    exact Database.kept_within (P := fun r : Recorder => Sound r.status r.journal)
      (Q := fun r : Recorder => r.status.1 = true) h id (sound_begin h) hbegun (haction s)

/-- No operation breaks what a connection knows; only a write may be noted as one. -/
theorem sound_after (h : Sound r.status r.journal) {op : Operation}
    (hwriting : r.writing = op.isWrite) : Sound (op.after r).status (op.after r).journal := by
  cases op with
  | list p | one p | query s | run s => exact sound_call _ _ h (by simp [hwriting, Operation.isWrite])
  | execute w =>
    exact sound_runBound (fun s _ h hopen => sound_call _ s h fun _ => hopen) h _
  | executeScalar w =>
    exact sound_runBound (fun s _ h hopen => sound_call _ s h fun _ => hopen) h _
  | save => exact Database.kept_save (P := fun r : Recorder => Sound r.status r.journal) h (sound_commit h)
  | discard =>
    exact Database.kept_discard (P := fun r : Recorder => Sound r.status r.journal) h (sound_rollback h)
  | begin => exact sound_begin h
  | commit => exact sound_commit h
  | rollback => exact sound_rollback h

theorem sound_turn (h : Sound r.status r.journal) (t : Turn) :
    Sound (r.turn t).status (r.turn t).journal := by
  cases t with
  | reply commands statements => exact h
  | ask op => exact sound_after (r := { r with writing := op.isWrite }) h rfl

theorem sound_run (h : Sound r.status r.journal) (turns : List Turn) :
    Sound (r.run turns).status (r.run turns).journal := by
  induction turns generalizing r with
  | nil => exact h
  | cons t turns ih => exact ih (sound_turn h t)

theorem sound_connected_run (s : Server) (turns : List Turn) :
    Sound ((connected s).run turns).status ((connected s).run turns).journal :=
  sound_run (r := connected s) .nil turns

/-! ## Writes -/

theorem mem_commands {es : List Entry} {c : Command} {b : Bool} :
    (c, b) ∈ es.filterMap Entry.command? ↔ .command c b ∈ es := by
  rw [List.mem_filterMap]
  constructor
  · rintro ⟨e, he, hcommand⟩
    cases e with
    | command c' b' =>
      obtain ⟨rfl, rfl⟩ : c' = c ∧ b' = b := by simpa [Entry.command?] using hcommand
      exact he
    | statement sql write => simp [Entry.command?] at hcommand
    | call ok => simp [Entry.command?] at hcommand
  · intro hmem
    exact ⟨_, hmem, rfl⟩

/-- Where nothing but refused COMMITs followed the BEGIN, there was none exactly if the BEGIN is the
last command. -/
theorem covered_iff_of_underway {es : List Entry} (h : Underway es) :
    Covered es ↔ lastCommand? es ≠ .some (.commit, false) := by
  obtain ⟨since, hsince, hall⟩ := h
  obtain ⟨before, rfl⟩ := exists_of_sinceBegin? hsince
  have hlast : lastCommand? (before ++ .command .begin true :: since) =
      ((since.filterMap Entry.command?).getLast?).or (.some (.begin, true)) := by
    simp [lastCommand?, Entry.command?, List.getLast?_append, List.getLast?_cons]
  rw [hlast]
  constructor
  · rintro ⟨since', hsince', hbegin⟩
    obtain rfl : since = since' := Option.some.inj (hsince.symm.trans hsince')
    cases hlast? : (since.filterMap Entry.command?).getLast? with
    | none => simp
    | some x =>
      obtain ⟨c, b⟩ := x
      have hmem := mem_commands.1 (List.mem_of_getLast? hlast?)
      obtain ⟨rfl, rfl⟩ := hall c b hmem
      exact absurd (hbegin _ _ hmem) (by simp)
  · intro hne
    refine ⟨since, hsince, fun c b hmem => ?_⟩
    cases hlast? : (since.filterMap Entry.command?).getLast? with
    | none =>
      have hmem := mem_commands.2 hmem
      simp [List.getLast?_eq_none_iff.1 hlast?] at hmem
    | some x =>
      obtain ⟨c', b'⟩ := x
      obtain ⟨rfl, rfl⟩ := hall c' b' (mem_commands.1 (List.mem_of_getLast? hlast?))
      rw [hlast?] at hne
      exact absurd rfl hne

/-- **A write is sent behind a BEGIN that the server obeyed, and behind no command since but a COMMIT
that it refused.** So there is a transaction for it exactly if the last command was not such a
COMMIT. -/
theorem write_covered_iff {s : Server} {turns : List Turn} {before rest : List Entry} {sql : String}
    (h : ((connected s).run turns).journal = before ++ .statement sql true :: rest) :
    Underway before ∧ (Covered before ↔ lastCommand? before ≠ .some (.commit, false)) := by
  have hdue : Underway before := (sound_connected_run s turns).orderly before _ rest h
  exact ⟨hdue, covered_iff_of_underway hdue⟩

/-- A write. -/
def clearing : Write := .delete "t" [.test .none "Id" (.compare .equal (.int 1))]

/-- Two writes, the second after the first has been taken back. -/
def discarding : List Turn :=
  [.ask (.execute clearing), .ask .discard, .ask (.execute clearing)]

theorem write_covered_discarding :
    ∃ before sql rest, ((connected .fresh).run discarding).journal = before ++ .statement sql true :: rest ∧
      before.length = 5 ∧ Covered before := by
  have hjournal : ((connected .fresh).run discarding).journal =
      [.command .begin true, .statement "DELETE FROM t WHERE Id = $1" true, .call true,
        .command .rollback true, .command .begin true] ++
        .statement "DELETE FROM t WHERE Id = $1" true :: [.call true] := by
    decide +kernel
  exact ⟨_, _, _, hjournal, rfl, (write_covered_iff hjournal).2.2 (by decide)⟩

/-- Two writes, the second after the server has refused to commit the first. -/
def stranding : List Turn :=
  [.ask (.execute clearing), .reply [.refuse ⟨"23503", "still referenced", .none⟩] [], .ask .save,
    .ask (.execute clearing)]

/-- No transaction is left for the second. -/
theorem stranded_write :
    ∃ before sql rest, ((connected .fresh).run stranding).journal = before ++ .statement sql true :: rest ∧
      ¬ Covered before := by
  have hjournal : ((connected .fresh).run stranding).journal =
      [.command .begin true, .statement "DELETE FROM t WHERE Id = $1" true, .call true,
        .command .commit false] ++
        .statement "DELETE FROM t WHERE Id = $1" true :: [.call true] := by
    decide +kernel
  refine ⟨_, _, _, hjournal, ?_⟩
  rintro ⟨since, hsince, hbegin⟩
  obtain rfl := Option.some.inj hsince
  exact absurd (hbegin .commit false (by simp)) (by simp)

/-! ## Saving -/

theorem isSuccess_captured {α : Type} {message : String} {answer : Except Error α}
    (h : answer.isOk = false) : (Outcome.captured message answer).isSuccess = false := by
  cases answer with
  | ok a => simp [Except.isOk, Except.toBool] at h
  | error e => rfl

/-- Saving succeeds only by a COMMIT that the server obeys, and sends none where something failed. -/
theorem save_cases (r : Recorder) :
    ∃ es, (Database.save r).2.journal = r.journal ++ es ∧
      ((Database.save r).1.isSuccess = true → es = [.command .commit true]) ∧
      (r.status = (true, true) →
        (∀ b, .command .commit b ∉ es) ∧ (Database.save r).1.isSuccess = false) := by
  unfold Database.save
  split
  · dsimp only
    rcases r.commit_cases with ⟨hno, hjournal, -⟩ | ⟨-, hno, -, b, hjournal⟩ |
      ⟨hopen, hno, -, hjournal⟩ | ⟨hopen, hok, -, hjournal⟩
    · exact ⟨[], by rw [hjournal]; simp, fun hyes => absurd hyes (by simp [isSuccess_captured hno]),
        fun _ => ⟨by simp, isSuccess_captured hno⟩⟩
    · exact ⟨_, hjournal, fun hyes => absurd hyes (by simp [isSuccess_captured hno]),
        fun _ => ⟨by simp, isSuccess_captured hno⟩⟩
    · refine ⟨_, hjournal, fun hyes => absurd hyes (by simp [isSuccess_captured hno]),
        fun hbroken => ?_⟩
      simp [hopen] at hbroken
    · refine ⟨_, hjournal, fun _ => rfl, fun hbroken => ?_⟩
      simp [hopen] at hbroken
  · have hno : (Outcome.failed "There are no pending changes to save." : Outcome Unit).isSuccess = false :=
      rfl
    exact ⟨[], by simp, by simp [hno], by simp [hno]⟩

/-- **A COMMIT is sent only if everything that was run since the last BEGIN succeeded.** Saving sends
none where something failed, and succeeds only by one that the server obeys. -/
theorem commit_of_successes (s : Server) (turns : List Turn) :
    let r := (connected s).run turns
    (∀ before b rest, r.journal = before ++ .command .commit b :: rest → Unbroken before) ∧
      ∃ es, (r.turn (.ask .save)).journal = r.journal ++ es ∧
        (r.connection.inTransaction = true → Broken r.journal →
          (∀ b, .command .commit b ∉ es) ∧ (Database.save r.connection).1.isSuccess = false) ∧
        ((Database.save r.connection).1.isSuccess = true → es = [.command .commit true]) := by
  intro r
  have hsound : Sound r.status r.journal := sound_connected_run s turns
  refine ⟨fun before b rest h => hsound.orderly before _ rest h, ?_⟩
  obtain ⟨es, hjournal, hyes, hno⟩ := save_cases { r with writing := false }
  have hanswer : (Database.save r.connection).1 = (Database.save { r with writing := false }).1 :=
    congrArg Prod.fst (respected_connection.save { r with writing := false })
  rw [hanswer]
  refine ⟨es, hjournal, fun hopen hbroken => hno ?_, hyes⟩
  have hstatus : r.status ≠ (true, false) := fun h => hbroken.not_unbroken (hsound.unbroken h)
  cases hfailed : r.connection.failed with
  | false => exact absurd (by simp [status, hopen, hfailed]) hstatus
  | true => simp [status, hopen, hfailed]

/-- What failed in front of a statement that succeeds is not forgotten. -/
example : ((connected .fresh).run [.ask .begin,
      .reply [] [{ Server.Reply.default with refusal? := .some (.prepare, ⟨"42601", "syntax", .none⟩) }],
      .ask (.run ⟨"DELETE", []⟩), .ask (.run ⟨"DELETE FROM t", []⟩), .ask .save]).journal =
    [.command .begin true, .statement "DELETE" false, .call false, .statement "DELETE FROM t" false,
      .call true, .command .rollback true] := by
  decide +kernel

end Recorder

end ParamQuery
