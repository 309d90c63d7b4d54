/-
What the filters of a query come to. A query may be restricted any number
of times, with any other calls in between.

`after_eq`: a call leaves predicates and parameters as they are, or joins
the outline of its script to them. `truth_run`: the markers of a query are
its parameters in order, and its predicates say that every filter holds,
each taken as it would be without the others.
-/
import ParamQuery.Proofs.Filter.Shape
import ParamQuery.Proofs.Filter.Truth
import ParamQuery.Proofs.Select.Parts

namespace ParamQuery.Select

open ParamQuery.Filter

variable {α : Type}

/-- How a query is begun. -/
inductive Beginning where
  /-- With the declared columns. -/
  | columns (distinct : Bool)
  /-- With a list of fields. -/
  | fields (names : List String) (distinct : Bool)
  /-- With the declared columns, in the declared table. -/
  | auto

/-- The query that is begun. -/
def Beginning.query (e : Entity α) : Beginning → Query α
  | .columns distinct => .ofColumns e distinct
  | .fields names distinct => .ofFields e names distinct
  | .auto => .auto e

/-- The script of a call, if it restricts. -/
def Call.script? : Call → Option (List Step)
  | .restrict script => .some script
  | _ => .none

/-- The scripts of the calls that restrict. -/
def scripts (calls : List Call) : List (List Step) := calls.filterMap Call.script?

/-! ## One call -/

theorem restrict_eq (q : Query α) (script : List Step) :
    (q.restrict script).statement.predicates =
        conjoin q.statement.predicates (predicatesOf .clause q.params.next (outline script)) ∧
      (q.restrict script).params = q.params ++ Slots.number q.params.next (slotsOf (outline script)) := by
  simp only [Query.restrict, continuing_run_eq, Query.withStatement, and_self]

theorem Call.script?_eq_some_iff {call : Call} {script : List Step} :
    call.script? = .some script ↔ call = .restrict script := by
  cases call <;> simp [script?]

theorem Call.kind_ne_filter {call : Call} (h : call.script? = .none) : call.kind ≠ .filter := by
  cases call <;> simp_all [script?, kind]

/-- What a call does to predicates and parameters. -/
theorem after_eq (q : Query α) (call : Call) :
    (q.after call).statement.predicates =
        call.script?.elim q.statement.predicates
          (conjoin q.statement.predicates <| predicatesOf .clause q.params.next <| outline ·) ∧
      (q.after call).params =
        q.params ++ call.script?.elim [] (Slots.number q.params.next <| slotsOf <| outline ·) := by
  cases hs : call.script? with
  | some script =>
    obtain rfl := Call.script?_eq_some_iff.1 hs
    exact restrict_eq q script
  | none =>
    obtain ⟨hpredicates, hparams⟩ := Part.filter.inj (q.part_after_of_ne (Call.kind_ne_filter hs))
    exact ⟨hpredicates, by simp [hparams]⟩

theorem query_eq (e : Entity α) (b : Beginning) :
    (b.query e).statement.predicates = [] ∧ (b.query e).params = [] := by
  cases b with
  | columns distinct => exact ⟨rfl, rfl⟩
  | fields names distinct =>
    simp only [Beginning.query, Query.ofFields]
    split
    · exact ⟨rfl, rfl⟩
    · exact ⟨rfl, rfl⟩
  | auto =>
    have hkept (q : Query α) : q.fromDefaultTable.statement.predicates = q.statement.predicates ∧
        q.fromDefaultTable.params = q.params := by
      simpa [Query.after, Call.script?] using after_eq q .fromDefaultTable
    simp only [Beginning.query, Query.auto, hkept]
    split
    · exact ⟨rfl, rfl⟩
    · exact ⟨rfl, rfl⟩

/-! ## Many calls -/

/-- What the filters of the calls allocate. -/
def slotsOfCalls (calls : List Call) : Slots := (scripts calls).flatMap fun script => slotsOf (outline script)

theorem params_run (q : Query α) (calls : List Call) :
    (q.run calls).params = q.params ++ Slots.number q.params.next (slotsOfCalls calls) := by
  induction calls generalizing q with
  | nil => simp [Query.run, slotsOfCalls, scripts, Slots.number]
  | cons call calls ih =>
    rw [Query.run_cons, ih, (after_eq q call).2]
    cases hs : call.script? with
    | none => simp [slotsOfCalls, scripts, hs]
    | some script => simp [slotsOfCalls, scripts, hs, Slots.number_append]

/-- What every query keeps: its markers are its parameters, and its predicates are a clause. -/
structure IsSound (q : Query α) : Prop where
  names : namesOf q.statement.predicates = q.params.names
  clause : IsClause q.statement.predicates

theorem IsSound.after {q : Query α} (h : IsSound q) (call : Call) : IsSound (q.after call) := by
  obtain ⟨hpreds, hparams⟩ := after_eq q call
  constructor
  · rw [hpreds, hparams]
    cases call.script? with
    | none => simpa using h.names
    | some script => simp [namesOf_conjoin, namesOf_predicatesOf, h.names]
  · rw [hpreds]
    cases call.script? with
    | none => exact h.clause
    | some script => exact isClause_conjoin h.clause _

theorem IsSound.run {q : Query α} (h : IsSound q) (calls : List Call) : IsSound (q.run calls) := by
  induction calls generalizing q with
  | nil => exact h
  | cons call calls ih => exact ih (h.after call)

theorem isSound_query (e : Entity α) (b : Beginning) : IsSound (b.query e) := by
  obtain ⟨hpreds, hparams⟩ := query_eq e b
  exact ⟨by rw [hpreds, hparams]; rfl, by rw [hpreds]; simp [IsClause]⟩

/-! ## What the filters say -/

variable (v : Leaf → Truth)

/-- What the filters of a query say, whose markers stand for its parameters. -/
def Query.truth (q : Query α) : Truth := truthOf v q.params.values q.statement.predicates

theorem IsSound.truth_after {q : Query α} (h : IsSound q) (call : Call) :
    (q.after call).truth v =
      (q.truth v).and (call.script?.elim .true fun script => (Filter.empty.run script).truth v) := by
  obtain ⟨hpreds, hparams⟩ := after_eq q call
  simp only [Query.truth, hpreds, hparams]
  cases call.script? with
  | none => simp
  | some script =>
    have hlength : q.params.values.length = (namesOf q.statement.predicates).length := by
      simp [h.names, Params.names, Params.values]
    have halone : (Filter.empty.run script).truth v =
        truthOf v (slotsOf (outline script)).values (predicatesOf .clause 0 (outline script)) := by
      simp [Filter.truth, empty_run_eq]
    simp only [Option.elim, Params.values_append, Slots.values_number, truthOf_conjoin v hlength, halone]
    -- The script numbers its tests on from the query's parameters here, and from zero when alone.
    rw [truthOf_predicatesOf v _ .clause .clause q.params.next 0]

theorem IsSound.truth_run {q : Query α} (h : IsSound q) (calls : List Call) :
    (q.run calls).truth v =
      (q.truth v).and (Truth.all ((scripts calls).map fun script => (Filter.empty.run script).truth v)) := by
  induction calls generalizing q with
  | nil => simp [Query.run, scripts]
  | cons call calls ih =>
    rw [Query.run_cons, ih (h.after call), h.truth_after v, Truth.and_assoc]
    cases hs : call.script? with
    | none => simp [scripts, hs]
    | some script => simp [scripts, hs]

/-- A filter without predicates keeps every row. -/
theorem all_truth_filter (fs : List Filter) :
    Truth.all ((fs.filter (!·.isEmpty)).map (·.truth v)) = Truth.all (fs.map (·.truth v)) := by
  simp only [Filter.isEmpty]
  induction fs with
  | nil => rfl
  | cons f fs ih =>
    by_cases hf : f.predicates = []
    · have htrue : f.truth v = .true := by simp [Filter.truth, hf, truthOf]
      simp [hf, htrue, ih]
    · simp [hf, ih]

theorem run_eq_nil_iff (q : Query α) (calls : List Call) :
    (q.run calls).statement.predicates = [] ↔
      q.statement.predicates = [] ∧
        ∀ script ∈ scripts calls, (Filter.empty.run script).isEmpty = true := by
  induction calls generalizing q with
  | nil => simp [Query.run, scripts]
  | cons call calls ih =>
    rw [Query.run_cons, ih, (after_eq q call).1]
    cases hs : call.script? with
    | none => simp [scripts, hs]
    | some script =>
      have halone : (Filter.empty.run script).isEmpty = true ↔ outline script = [] := by
        simp [empty_run_eq, Filter.isEmpty, predicatesOf_eq_nil_iff]
      simp [scripts, hs, conjoin_eq_nil_iff, predicatesOf_eq_nil_iff, halone, and_assoc]

/-- **Filters given one after the other must all hold.** Whatever the tests say of a row, the
predicates of a query say that each of its filters holds that has any, taken as built alone. In
both, the markers stand for the parameters in their order. Without such a filter there is no
clause. -/
theorem truth_of_query (e : Entity α) (b : Beginning) (calls : List Call) :
    let q := (b.query e).run calls
    let filters := ((scripts calls).map Filter.empty.run).filter (!·.isEmpty)
    truthOf v q.params.values q.statement.predicates =
        Truth.all (filters.map fun f => truthOf v f.params.values f.predicates) ∧
      namesOf q.statement.predicates = q.params.names ∧
      (∀ f ∈ filters, namesOf f.predicates = f.params.names) ∧
      (q.statement.predicateText = "" ↔ filters = []) := by
  intro q filters
  have hbegin : (b.query e).statement.predicates = [] := (query_eq e b).1
  have hq : IsSound q := (isSound_query e b).run calls
  refine ⟨?_, hq.names, ?_, ?_⟩
  · calc q.truth v
        = ((b.query e).truth v).and
            (Truth.all ((scripts calls).map fun script => (Filter.empty.run script).truth v)) :=
          (isSound_query e b).truth_run v calls
      _ = Truth.all (((scripts calls).map Filter.empty.run).map (·.truth v)) := by
          simp [Query.truth, hbegin, truthOf, Function.comp_def]
      _ = Truth.all (filters.map (·.truth v)) := (all_truth_filter v _).symm
  · intro f hf
    obtain ⟨script, -, rfl⟩ := List.mem_map.1 (List.mem_filter.1 hf).1
    simp [empty_run_eq, namesOf_predicatesOf]
  · rw [Statement.predicateText, render_eq_empty_iff hq.clause, run_eq_nil_iff]
    simp [hbegin, filters]

/-- Three filters, of which the first has two alternatives and the second adds nothing. -/
def restricting : List Call :=
  [.restrict [.test .none "Id" (.compare .equal (.int 1)), .test .or "Name" .isNull], .top 5,
    .restrict [.group .none [[]]], .restrict [.test .none "Age" (.compare .greater (.int 30))]]

/-- The alternatives are kept together, and both filters that add something have to hold. -/
theorem truth_of_query_restricting :
    let q := (Beginning.auto.query (⟨"Visitor", .some "Visitors", [], ()⟩ : Entity Unit)).run restricting
    q.statement.predicateText = "WHERE ( Id = @Id0 OR Name IS NULL ) AND Age > @Age1" ∧
      ∀ v, truthOf v q.params.values q.statement.predicates =
        ((v ⟨"Id", .compare .equal, [.int 1]⟩).or (v ⟨"Name", .isNull, []⟩)).and
          (v ⟨"Age", .compare .greater, [.int 30]⟩) := by
  intro q
  refine ⟨by decide +kernel, fun v => ?_⟩
  have hfilters : ((scripts restricting).map Filter.empty.run).filter (!·.isEmpty) =
      [Filter.empty.run [.test .none "Id" (.compare .equal (.int 1)), .test .or "Name" .isNull],
        Filter.empty.run [.test .none "Age" (.compare .greater (.int 30))]] := rfl
  obtain ⟨htruth, -, -, -⟩ := truth_of_query v ⟨"Visitor", .some "Visitors", [], ()⟩ .auto restricting
  rw [hfilters] at htruth
  calc truthOf v q.params.values q.statement.predicates
      = ((v ⟨"Id", .compare .equal, [.int 1]⟩).or (v ⟨"Name", .isNull, []⟩)).and
          ((v ⟨"Age", .compare .greater, [.int 30]⟩).and .true) := htruth
    _ = _ := by rw [Truth.and_true]

end ParamQuery.Select
