/-
Values never reach the text of a statement.

A construction is erased by putting the missing value in the place of every
value that it gives. Each call of a builder leaves queries and writes alike
that differ only in the values of their parameters, and binding looks at no
value either. So two constructions that are the same once erased have one
text, one list of names and one bound text in each dialect, or fail alike
(`text_of_erased`).
-/
import ParamQuery.Proofs.Construction.Basic
import ParamQuery.Proofs.Filter.Erasure

namespace ParamQuery

variable {α : Type}

/-! ## Erasing -/

/-- The call without the values of its filter. -/
def Select.Call.erased : Select.Call → Select.Call
  | .restrict script => .restrict (Filter.erasedSteps script)
  | call => call

/-- The fields without the values that are written. -/
def erasedFields (fields : Fields) : Fields := fields.map fun f => (f.1, .null)

/-- The write without its values. -/
def Making.erased : Making → Making
  | .insert table fields => .insert table (erasedFields fields)
  | .update table sets script => .update table (sets.map erasedFields) (Filter.erasedSteps script)
  | .delete table script => .delete table (Filter.erasedSteps script)

/-- What is asked for, without the values. -/
def Construction.erased : Construction → Construction
  | .select e b calls => .select e b (calls.map Select.Call.erased)
  | .write making keys scalar => .write making.erased keys scalar

/-! ## Queries -/

namespace Select.Query

/-- Queries that differ only in the values of their parameters. -/
def Alike (q q' : Query α) : Prop := ∃ ps : Params, q' = { q with params := ps } ∧ ps.names = q.params.names

variable {q q' : Query α}

theorem Alike.restrict (h : Alike q q') (script : List Filter.Step) :
    Alike (q.restrict script) (q'.restrict (Filter.erasedSteps script)) := by
  obtain ⟨ps, rfl, hnames⟩ := h
  obtain ⟨hpredicates, hafter⟩ := Filter.continuing_run_erased hnames script
  refine ⟨((Filter.continuing ps).run (Filter.erasedSteps script)).params, ?_, hafter⟩
  simp only [Query.restrict, withStatement, hpredicates]

/-- A call that restricts nothing does not look at the parameters. -/
theorem after_withParams (q : Query α) (ps : Params) {call : Call} (h : call.script? = .none) :
    Query.after { q with params := ps } call = { q.after call with params := ps } := by
  cases call with
  | restrict script => simp [Call.script?] at h
  | top n =>
    simp only [Query.after, Query.top, withStatement]
    split
    · rfl
    · rfl
  | fromDefaultTable =>
    simp only [Query.after, Query.fromDefaultTable]
    split
    · rfl
    · rfl
  | orderBy column descending =>
    simp only [Query.after, Query.orderBy, withStatement]
    split
    · rfl
    · rfl
  | removeColumn column | mapColumn column expression alias? =>
    simp only [Query.after, Query.withProjection, withStatement]
    split
    · rfl
    · rfl
  | mapFields m =>
    simp only [Query.after, Query.mapFields, withStatement]
    split
    · split
      · rfl
      · rfl
    · rfl
  | distinct | fromTable table | fromView table alias? joins | byPropertyName => rfl

theorem Alike.after (h : Alike q q') (call : Call) : Alike (q.after call) (q'.after call.erased) := by
  cases hs : call.script? with
  | some script =>
    obtain rfl := Call.script?_eq_some_iff.1 hs
    exact h.restrict script
  | none =>
    have hcall : call.erased = call := by
      cases call <;> simp_all [Call.script?, Call.erased]
    obtain ⟨ps, rfl, hnames⟩ := h
    have hparams : (q.after call).params = q.params := by simpa [hs] using (after_eq q call).2
    exact ⟨ps, by rw [hcall, after_withParams q ps hs], by rw [hparams, hnames]⟩

theorem Alike.run (h : Alike q q') (calls : List Call) :
    Alike (q.run calls) (q'.run (calls.map Call.erased)) := by
  induction calls generalizing q q' with
  | nil => exact h
  | cons call calls ih => exact ih (h.after call)

end Select.Query

theorem Construction.alike_query (e : Entity α) (b : Select.Beginning) (calls : List Select.Call) :
    (query e b calls).Alike (query e b (calls.map Select.Call.erased)) :=
  Select.Query.Alike.run ⟨_, rfl, rfl⟩ calls

/-! ## Writes -/

/-- Fields are assigned to the same names without their values. -/
theorem assign_erased (ps : Params) {qs : Params} (h : qs.names = ps.names) (fields : Fields) :
    (Write.assign qs (erasedFields fields)).1 = (Write.assign ps fields).1 ∧
      (Write.assign qs (erasedFields fields)).2.names = (Write.assign ps fields).2.names := by
  induction fields generalizing ps qs with
  | nil => exact ⟨rfl, h⟩
  | cons f fields ih =>
    obtain ⟨hrest, hafter⟩ := ih _ (Params.names_allocate_of_names h (stemOf (Text.trimmed f.1)) f.2 .null)
    simp only [erasedFields] at hrest hafter
    simp only [erasedFields, List.map_cons, Write.assign, Params.nextName_of_names h, hrest]
    exact ⟨trivial, hafter⟩

theorem written_erased (sets : List Fields) : written (sets.map erasedFields) = erasedFields (written sets) := by
  induction sets with
  | nil => rfl
  | cons fields sets ih =>
    cases fields with
    | nil => simpa [written, erasedFields] using ih
    | cons f fields => simp [written, erasedFields]

/-- Writes that differ only in the values of their parameters. -/
def Write.Alike (w w' : Write) : Prop := ∃ ps : Params, w' = { w with params := ps } ∧ ps.names = w.params.names

theorem Write.Alike.foldl_withKey {w w' : Write} (h : w.Alike w') (keys : List String) :
    (keys.foldl withKey w).Alike (keys.foldl withKey w') := by
  induction keys generalizing w w' with
  | nil => exact h
  | cons key keys ih =>
    obtain ⟨ps, rfl, hnames⟩ := h
    exact ih ⟨ps, rfl, hnames⟩

/-- A write that is not told the values is refused alike, or made alike. -/
theorem Making.write_erased (making : Making) :
    (∃ e, making.write = .error e ∧ making.erased.write = .error e) ∨
      ∃ w w', making.write = .ok w ∧ making.erased.write = .ok w' ∧ w.Alike w' := by
  cases making with
  | insert table fields =>
    obtain ⟨hassigned, hnames⟩ := assign_erased [] rfl fields
    simp only [erased, write, Write.insert, hassigned]
    cases fields with
    | nil => exact .inl ⟨_, rfl, rfl⟩
    | cons f fields => exact .inr ⟨_, _, rfl, rfl, _, rfl, hnames⟩
  | update table sets script =>
    obtain ⟨hassigned, hnames⟩ := assign_erased [] rfl (written sets)
    obtain ⟨hpredicates, hafter⟩ := Filter.continuing_run_erased hnames script
    simp only [erased, write, Write.Update.foldl_set_ofTable, written_erased, Write.Update.restrict,
      hassigned, hpredicates]
    split
    · exact .inl ⟨_, rfl, rfl⟩
    · exact .inr ⟨_, _, rfl, rfl, _, rfl, hafter⟩
  | delete table script =>
    have hpredicates : (Filter.empty.run (Filter.erasedSteps script)).predicates =
        (Filter.empty.run script).predicates := (Filter.continuing_run_erased rfl script).1
    have hafter : (Filter.empty.run (Filter.erasedSteps script)).params.names =
        (Filter.empty.run script).params.names := (Filter.continuing_run_erased rfl script).2
    exact .inr ⟨_, _, rfl, rfl, _, by simp only [Write.delete, hpredicates], hafter⟩

/-! ## Binding -/

/-- Binding writes a text for the names alone. -/
theorem Dialect.sql_bind_of_names {ps qs : Params} (h : qs.names = ps.names) (d : Dialect) (sql : String) :
    (d.bind sql qs).map (·.sql) = (d.bind sql ps).map (·.sql) := by
  cases d with
  | named => rfl
  | postgres =>
    simp only [bind, bindNumbered, h]
    split
    · rfl
    · rfl

/-! ## Statements -/

/-- What is seen of a statement without its values: its text in each dialect, and the names of its
parameters. -/
def Assembled.outlook (s : Assembled) : (Dialect → String) × List String := (s.text, s.params.names)

namespace Construction

/-- The text with named markers and the names of the parameters, as they are shown before a statement
is bound. A query shows them even where no statement can be made of it. -/
def shown : Construction → Except Error (String × List String)
  | .select e b calls => .ok ((query e b calls).text, (query e b calls).params.names)
  | .write making keys _ =>
    making.write.map fun w =>
      let w := keys.foldl Write.withKey w
      (w.sql, w.params.names)

theorem shown_erased (c : Construction) : c.erased.shown = c.shown := by
  cases c with
  | select e b calls =>
    obtain ⟨ps, hq, hnames⟩ := alike_query e b calls
    simp only [shown, erased, hq, hnames]
    rfl
  | write making keys scalar =>
    simp only [shown, erased]
    obtain ⟨e, hw, hw'⟩ | ⟨w, w', hw, hw', halike⟩ := making.write_erased
    · rw [hw, hw']
    · obtain ⟨ps, hkeys, hnames⟩ := halike.foldl_withKey keys
      simp only [hw, hw', Except.map, hkeys, hnames]
      rfl

theorem outlook_assemble_erased (c : Construction) :
    c.erased.assemble.map Assembled.outlook = c.assemble.map Assembled.outlook := by
  cases c with
  | select e b calls =>
    obtain ⟨ps, hq, hnames⟩ := alike_query e b calls
    simp only [assemble, erased, hq]
    have hincomplete : Select.Query.incomplete? { query e b calls with params := ps } =
      (query e b calls).incomplete? := rfl
    rw [hincomplete]
    split
    · rfl
    · simp only [Except.map, Assembled.outlook, hnames]
  | write making keys scalar =>
    simp only [assemble, erased]
    obtain ⟨e, hw, hw'⟩ | ⟨w, w', hw, hw', halike⟩ := making.write_erased
    · rw [hw, hw']
    · obtain ⟨ps, hkeys, hnames⟩ := halike.foldl_withKey keys
      simp only [hw, hw', Except.map, hkeys, hnames, Assembled.outlook]
      rfl

/-- Statements that show the same are bound to the same text, or refused alike. -/
theorem sql_bound_of_outlook {c c' : Construction}
    (h : c.assemble.map Assembled.outlook = c'.assemble.map Assembled.outlook) (d : Dialect) :
    (c.bound d).map (·.sql) = (c'.bound d).map (·.sql) := by
  rw [bound_eq, bound_eq]
  cases hc : c.assemble with
  | error e =>
    cases hc' : c'.assemble with
    | error e' => simpa [hc, hc', Except.map, Except.bind] using h
    | ok s' => simp [hc, hc', Except.map] at h
  | ok s =>
    cases hc' : c'.assemble with
    | error e' => simp [hc, hc', Except.map] at h
    | ok s' =>
      obtain ⟨htext, hnames⟩ : s.text = s'.text ∧ s.params.names = s'.params.names := by
        simpa [hc, hc', Except.map, Assembled.outlook] using h
      simp only [Except.bind, htext]
      exact Dialect.sql_bind_of_names hnames d _

/-- **Values never reach the text.** Of two constructions that differ only in the values that they
give, both show the same text and the same names, both are assembled to the same text in each
dialect, and both are bound to the same text; or each of these fails for both, with one error. -/
theorem text_of_erased {c c' : Construction} (h : c.erased = c'.erased) :
    c.shown = c'.shown ∧
      c.assemble.map (fun s => (s.text, s.params.names)) =
        c'.assemble.map (fun s => (s.text, s.params.names)) ∧
      ∀ d, (c.bound d).map (·.sql) = (c'.bound d).map (·.sql) ∧
        ((c.bound d).isOk = true ↔ (c'.bound d).isOk = true) := by
  have hshown : c.shown = c'.shown := by rw [← c.shown_erased, h, c'.shown_erased]
  have houtlook : c.assemble.map Assembled.outlook = c'.assemble.map Assembled.outlook := by
    rw [← c.outlook_assemble_erased, h, c'.outlook_assemble_erased]
  refine ⟨hshown, houtlook, fun d => ?_⟩
  have hsql := sql_bound_of_outlook houtlook d
  refine ⟨hsql, ?_⟩
  cases hc : c.bound d with
  | error e =>
    cases hc' : c'.bound d with
    | error e' => exact Iff.rfl
    | ok s' => simp [hc, hc', Except.map] at hsql
  | ok s =>
    cases hc' : c'.bound d with
    | error e' => simp [hc, hc', Except.map] at hsql
    | ok s' => exact iff_of_true rfl rfl

/-- An update whose filter has a group, a list and a pattern, with the values that it is given. -/
def guarded (written one other sought : Value) : Construction :=
  .write (.update "Users" [[("Name", written)]]
    [.group .none [[.test .none "Id" (.member [one, other] false)]], .test .or "Name" (.like sought)])
    [] false

/-- A text that would end the statement and begin another is a value like any other. -/
theorem text_guarded :
    (guarded (.text "x'; DROP TABLE Users --") .null (.text "@Name0") (.text "' OR 1=1")).erased =
        (guarded (.int 1) (.int 2) (.int 3) .null).erased ∧
      (((guarded (.text "x'; DROP TABLE Users --") .null (.text "@Name0") (.text "' OR 1=1")).bound
          .postgres).map (·.sql)).toOption =
        .some "UPDATE Users SET Name = $1 WHERE ( Id IN ( $2, $3 ) ) OR Name LIKE $4" := by
  have herased : (guarded (.text "x'; DROP TABLE Users --") .null (.text "@Name0")
      (.text "' OR 1=1")).erased = (guarded (.int 1) (.int 2) (.int 3) .null).erased := rfl
  refine ⟨herased, ?_⟩
  rw [((text_of_erased herased).2.2 .postgres).1]
  decide +kernel

end Construction

end ParamQuery
