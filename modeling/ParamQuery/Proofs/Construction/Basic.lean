/-
Every way to make a statement, as data: what is asked of a query or a
write, from its beginning to the statement that is sent.

`bound_eq`: whatever is sent is bound from the text and the parameters that
were assembled. `params_eq`: the parameters are the slots of what was
asked for, numbered through the statement in the order of the calls.
-/
import ParamQuery.Proofs.Select.Restriction
import ParamQuery.Write.Basic

namespace ParamQuery

/-- Fields, each with the value that is written. -/
abbrev Fields := List (String × Value)

/-- A write that is asked for. -/
inductive Making where
  | insert (table : String) (fields : Fields)
  /-- An update that was told any number of times what to write. -/
  | update (table : String) (sets : List Fields) (script : List Filter.Step)
  | delete (table : String) (script : List Filter.Step)

/-- What is asked of the builders for one statement. -/
inductive Construction where
  | select {α : Type} (entity : Entity α) (beginning : Select.Beginning) (calls : List Select.Call)
  /-- A write whose generated column is named any number of times, and which is run for a value or
  for the number of rows. -/
  | write (making : Making) (keys : List String) (scalar : Bool)

/-- A text for each dialect, and the parameters that its markers stand for. -/
structure Assembled where
  text : Dialect → String
  params : Params

/-! ## Making statements -/

/-- The write that is made. -/
def Making.write : Making → Except Error Write
  | .insert table fields => Write.insert table fields
  | .update table sets script => (sets.foldl Write.Update.set (.ofTable table)).restrict script
  | .delete table script => .ok (Write.delete table script)

namespace Construction

/-- The query that is made. -/
def query {α : Type} (e : Entity α) (b : Select.Beginning) (calls : List Select.Call) : Select.Query α :=
  (b.query e).run calls

/-- The text and the parameters of the statement, if there is one. -/
def assemble : Construction → Except Error Assembled
  | .select e b calls =>
    match (query e b calls).incomplete? with
    | .some message => .error (.configuration message)
    | .none => .ok ⟨(query e b calls).statement.text, (query e b calls).params⟩
  | .write making keys scalar =>
    making.write.map fun w =>
      let w := keys.foldl Write.withKey w
      ⟨fun d => w.statement.text d (if scalar then w.returned? else .none), w.params⟩

/-- The statement that is sent. -/
def bound (d : Dialect) : Construction → Except Error BoundStatement
  | .select e b calls => ((query e b calls).prepare d).map (·.bound)
  | .write making keys scalar =>
    making.write.bind fun w =>
      let w := keys.foldl Write.withKey w
      if scalar then w.boundScalar d else w.bound d

/-- What is sent is bound from what was assembled. -/
theorem bound_eq (d : Dialect) (c : Construction) :
    c.bound d = c.assemble.bind fun s => d.bind (s.text d) s.params := by
  cases c with
  | select e b calls =>
    simp only [bound, assemble, Select.Query.prepare]
    cases (query e b calls).incomplete? with
    | some message => rfl
    | none =>
      simp only [Except.bind]
      cases d.bind ((query e b calls).statement.text d) (query e b calls).params <;> rfl
  | write making keys scalar =>
    simp only [bound, assemble]
    cases making.write with
    | error e => rfl
    | ok w => cases scalar <;> rfl

end Construction

/-! ## Writes -/

/-- What fields allocate. -/
def slotsOfFields (fields : Fields) : Slots := fields.map fun f => (stemOf (Text.trimmed f.1), f.2)

/-- The fields that an update writes: the first list that is not empty. -/
def written (sets : List Fields) : Fields := (sets.find? (!·.isEmpty)).getD []

namespace Making

/-- The statement of a write. -/
def statement : Making → Write.Statement
  | .insert table fields => .insert (Text.trimmed table) (Write.assign [] fields).1
  | .update table sets script =>
    .update (Text.trimmed table) (Write.assign [] (written sets)).1
      (Filter.predicatesOf .clause (written sets).length (Filter.outline script))
  | .delete table script =>
    .delete (Text.trimmed table) (Filter.predicatesOf .clause 0 (Filter.outline script))

/-- What a write allocates: the values that are written, then those of the filter. -/
def slots : Making → Slots
  | .insert _ fields => slotsOfFields fields
  | .update _ sets script => slotsOfFields (written sets) ++ Filter.slotsOf (Filter.outline script)
  | .delete _ script => Filter.slotsOf (Filter.outline script)

end Making

theorem params_assign (ps : Params) (fields : Fields) :
    (Write.assign ps fields).2 = ps ++ Slots.number ps.next (slotsOfFields fields) := by
  induction fields generalizing ps with
  | nil => simp [Write.assign, slotsOfFields, Slots.number]
  | cons f fields ih =>
    simp only [Write.assign, ih, Params.allocate_eq, slotsOfFields, List.map_cons, Slots.number]
    simp [Params.next]

theorem names_assign (ps : Params) (fields : Fields) :
    (Write.assign ps fields).1.map (·.name) = (Slots.number ps.next (slotsOfFields fields)).names := by
  induction fields generalizing ps with
  | nil => rfl
  | cons f fields ih =>
    simp only [Write.assign, List.map_cons, ih, slotsOfFields, Slots.number, Params.names,
      Params.allocate_eq, Params.next_append, List.length_singleton, Params.nextName]

theorem columns_assign (ps : Params) (fields : Fields) :
    (Write.assign ps fields).1.map (·.column) = fields.map (Text.trimmed ·.1) := by
  induction fields generalizing ps with
  | nil => rfl
  | cons f fields ih => simp [Write.assign, ih]

namespace Write.Update

theorem foldl_set_of_ne_nil {u : Update} (h : u.sets ≠ []) (sets : List Fields) : sets.foldl set u = u := by
  induction sets with
  | nil => rfl
  | cons fields sets ih => rw [List.foldl_cons, set, if_neg (by simpa using h), ih]

/-- An update writes the first fields that it is told, if there are any. -/
theorem foldl_set_ofTable (table : String) (sets : List Fields) :
    sets.foldl set (ofTable table) =
      ⟨Text.trimmed table, (assign [] (written sets)).1, (assign [] (written sets)).2⟩ := by
  induction sets with
  | nil => rfl
  | cons fields sets ih =>
    cases fields with
    | nil => simpa [set, ofTable, assign, written] using ih
    | cons f fields =>
      rw [List.foldl_cons, foldl_set_of_ne_nil (by simp [set, ofTable, assign])]
      simp [set, ofTable, written]

end Write.Update

/-- What is made is the statement of what was asked for, with its slots numbered from the start. -/
theorem Making.write_eq {making : Making} {w : Write} (h : making.write = .ok w) :
    w.statement = making.statement ∧ w.params = Slots.number 0 making.slots ∧
      w.key = Write.defaultKey := by
  cases making with
  | insert table fields =>
    simp only [write, Write.insert] at h
    split at h
    · simp at h
    · obtain rfl := Except.ok.inj h
      exact ⟨rfl, by simp [params_assign, slots, Params.next], rfl⟩
  | update table sets script =>
    simp only [write, Write.Update.foldl_set_ofTable, Write.Update.restrict,
      Filter.continuing_run_eq, params_assign] at h
    split at h
    · simp at h
    · obtain rfl := Except.ok.inj h
      have hlength : (slotsOfFields (written sets)).length = (written sets).length := by
        simp [slotsOfFields]
      refine ⟨?_, ?_, rfl⟩
      · simp [statement, Params.next, hlength]
      · simp [slots, Params.next, Slots.number_append]
  | delete table script =>
    obtain rfl := Except.ok.inj h
    simp [Write.delete, Filter.empty_run_eq, statement, slots]

/-- Naming the generated column changes nothing else. -/
theorem Write.foldl_withKey (w : Write) (keys : List String) :
    ∃ key, keys.foldl Write.withKey w = { w with key := key } ∧
      (key = w.key ∨ ∃ k ∈ keys, key = Text.trimmed k) := by
  induction keys generalizing w with
  | nil => exact ⟨w.key, rfl, .inl rfl⟩
  | cons k keys ih =>
    obtain ⟨key, heq, hkey⟩ := ih (w.withKey k)
    refine ⟨key, heq, .inr ?_⟩
    rcases hkey with rfl | ⟨k', hk', rfl⟩
    · exact ⟨k, by simp, rfl⟩
    · exact ⟨k', by simp [hk'], rfl⟩

/-! ## Parameters -/

namespace Construction

/-- What is allocated for the statement, in the order of the calls. -/
def slots : Construction → Slots
  | .select _ _ calls => Select.slotsOfCalls calls
  | .write making _ _ => making.slots

/-- What is assembled for a query. -/
theorem assemble_select {α : Type} {e : Entity α} {b : Select.Beginning} {calls : List Select.Call} {s : Assembled}
    (h : (Construction.select e b calls).assemble = .ok s) :
    s = ⟨(query e b calls).statement.text, (query e b calls).params⟩ := by
  simp only [assemble] at h
  split at h
  · simp at h
  · exact (Except.ok.inj h).symm

/-- What is assembled for a write: the text gives back no column, or one of those that were named. -/
theorem assemble_write {making : Making} {keys : List String} {scalar : Bool} {s : Assembled}
    (h : (Construction.write making keys scalar).assemble = .ok s) :
    s.params = Slots.number 0 making.slots ∧
      ∃ key? : Option String,
        (∀ key ∈ key?, key = Write.defaultKey ∨ ∃ k ∈ keys, key = Text.trimmed k) ∧
          ∀ d, s.text d = making.statement.text d key? := by
  simp only [assemble] at h
  cases hw : making.write with
  | error e => simp [hw, Except.map] at h
  | ok w =>
    simp only [hw, Except.map, Except.ok.injEq] at h
    subst h
    obtain ⟨hstatement, hparams, hdefault⟩ := Making.write_eq hw
    obtain ⟨key, hfold, hkey⟩ := w.foldl_withKey keys
    rw [hfold]
    refine ⟨hparams, if scalar then Write.returned? { w with key := key } else .none, ?_, ?_⟩
    · intro k hk
      split at hk
      · simp only [Write.returned?] at hk
        split at hk
        · obtain rfl : key = k := by simpa using hk
          rwa [hdefault] at hkey
        · simp at hk
      · simp at hk
    · intro d
      rw [← hstatement]

/-- **The parameters are the slots of what was asked for, numbered from the start.** -/
theorem params_eq {c : Construction} {s : Assembled} (h : c.assemble = .ok s) :
    s.params = Slots.number 0 c.slots := by
  cases c with
  | select e b calls =>
    rw [assemble_select h]
    simp [query, Select.params_run, Select.query_eq, slots, Params.next]
  | write making keys scalar => exact (assemble_write h).1

end Construction

end ParamQuery
