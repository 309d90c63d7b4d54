/-
Calls of different kinds do not meddle with each other.

What calls make of the parts of a kind, the calls of that kind alone make
of them (`part_run`). So only the order within each kind matters
(`prepare_eq_of_kinds`). Mistakes are made by calls of two kinds, and the
first one is kept; whether there is one does not depend on which came
first.
-/
import ParamQuery.Proofs.Entity.Layout
import ParamQuery.Proofs.Select.Parts

namespace ParamQuery.Select

variable {α : Type}

/-- The calls of a kind. -/
def ofKind (k : Kind) (calls : List Call) : List Call := calls.filter (·.kind = k)

namespace Query

variable {q q' : Query α} {k : Kind}

/-- Whether a call of a kind is a mistake where it is made. -/
def errs (k : Kind) : Query α → List Call → Bool
  | _, [] => false
  | q, call :: calls => (call.kind = k && q.isMistake call) || errs k (q.after call) calls

/-- **What calls make of the parts of a kind, the calls of that kind alone make of them.** They make
the same mistakes, too. The induction goes over all calls, so the two queries may differ in everything
else. -/
theorem part_run (hentity : q.entity = q'.entity) (h : q.part k = q'.part k) (calls : List Call) :
    (q.run calls).part k = (q'.run (ofKind k calls)).part k ∧ errs k q calls = errs k q' (ofKind k calls) := by
  induction calls generalizing q q' with
  | nil => exact ⟨h, rfl⟩
  | cons call calls ih =>
    have hafter : (q.after call).entity = q'.entity := (entity_after q call).trans hentity
    by_cases hk : call.kind = k
    · have hown : ofKind k (call :: calls) = call :: ofKind k calls := by simp [ofKind, hk]
      subst hk
      have hrest := ih (hafter.trans (entity_after q' call).symm) (part_after_congr hentity h)
      rw [hown, run_cons, run_cons, errs, errs, hrest.2, isMistake_congr hentity h]
      exact ⟨hrest.1, rfl⟩
    · have hother : ofKind k (call :: calls) = ofKind k calls := by simp [ofKind, hk]
      have hrest := ih hafter ((part_after_of_ne q hk).trans h)
      rw [hother, run_cons, errs, hrest.2]
      exact ⟨hrest.1, by simp [hk]⟩

theorem isSome_fault?_run (q : Query α) (calls : List Call) :
    (q.run calls).fault?.isSome = true ↔ q.fault?.isSome = true ∨ ∃ k, errs k q calls = true := by
  induction calls generalizing q with
  | nil => simp [run, errs]
  | cons call calls ih =>
    rw [run_cons, ih, isSome_fault?_after]
    simp only [errs, Bool.or_eq_true, Bool.and_eq_true, decide_eq_true_eq, or_assoc]
    refine or_congr_right ?_
    constructor
    · rintro (hmistake | ⟨k, hk⟩)
      · exact ⟨call.kind, .inl ⟨rfl, hmistake⟩⟩
      · exact ⟨k, .inr hk⟩
    · rintro ⟨k, ⟨-, hmistake⟩ | hk⟩
      · exact .inl hmistake
      · exact .inr ⟨k, hk⟩

section Same

variable {calls calls' : List Call} (hsame : ∀ k, ofKind k calls = ofKind k calls')

include hsame

theorem part_run_of_same (q : Query α) (k : Kind) : (q.run calls).part k = (q.run calls').part k := by
  rw [(part_run rfl rfl calls).1, hsame k, ← (part_run rfl rfl calls').1]

theorem isSome_fault?_run_of_same (q : Query α) : (q.run calls).fault?.isSome = (q.run calls').fault?.isSome := by
  rw [Bool.eq_iff_iff, isSome_fault?_run, isSome_fault?_run]
  refine or_congr_right (exists_congr fun k => ?_)
  rw [(part_run rfl rfl calls).2, hsame k, ← (part_run rfl rfl calls').2]

theorem statement_run_of_same (q : Query α) : (q.run calls).statement = (q.run calls').statement := by
  have hparts := part_run_of_same hsame q
  have hlimit := Part.limit.inj (hparts .limit)
  have hdistinct := Part.distinct.inj (hparts .distinct)
  have hsource := Part.source.inj (hparts .source)
  have hfilter := (Part.filter.inj (hparts .filter)).1
  have horder := Part.order.inj (hparts .order)
  have hprojection := (Part.projection.inj (hparts .projection)).1
  cases hs : (q.run calls).statement
  cases hs' : (q.run calls').statement
  rw [hs, hs'] at hlimit hdistinct hsource hfilter horder hprojection
  cases hlimit
  cases hdistinct
  cases hsource
  cases hfilter
  cases horder
  cases hprojection
  rfl

theorem routing_run_of_same (q : Query α) : (q.run calls).routing = (q.run calls').routing := by
  have hmap := (Part.projection.inj (part_run_of_same hsame q .projection)).2
  have hbyName := Part.naming.inj (part_run_of_same hsame q .naming)
  simp only [routing, entity_run, statement_run_of_same hsame, hmap, hbyName]

end Same

theorem incomplete?_eq_none_iff (q : Query α) :
    q.incomplete? = .none ↔
      q.fault?.isSome = false ∧ q.statement.projection.isEmpty = false ∧
        q.statement.source?.isSome = true := by
  unfold incomplete?
  cases q.fault? with
  | some message => simp
  | none => cases q.statement.projection <;> cases q.statement.source? <;> simp

theorem prepare_eq_ok_iff (q : Query α) (d : Dialect) (p : Prepared α) :
    q.prepare d = .ok p ↔
      q.incomplete? = .none ∧
        (d.bind (q.statement.text d) q.params).map (⟨q.text, ·, q.routing⟩) = .ok p := by
  unfold prepare
  cases q.incomplete? <;> simp

end Query

/-- **Of the calls of a query only the order within each kind matters.** The statements that are made
are the same, and so is the way from their rows to items. -/
theorem prepare_eq_of_kinds (q : Query α) {calls calls' : List Call}
    (hsame : ∀ k, ofKind k calls = ofKind k calls') :
    (q.run calls).text = (q.run calls').text ∧ (q.run calls).params = (q.run calls').params ∧
      ∀ d p, (q.run calls).prepare d = .ok p ↔ (q.run calls').prepare d = .ok p := by
  have hstatement := Query.statement_run_of_same hsame q
  have hparams := (Part.filter.inj (Query.part_run_of_same hsame q .filter)).2
  have htext : (q.run calls).text = (q.run calls').text := by rw [Query.text, hstatement, Query.text]
  refine ⟨htext, hparams, fun d p => ?_⟩
  simp only [Query.prepare_eq_ok_iff, Query.incomplete?_eq_none_iff, Query.isSome_fault?_run_of_same hsame,
    hstatement, hparams, htext, Query.routing_run_of_same hsame]

/-- A pupil with an age that declares no column. -/
structure Pupil where
  id : Int64
  name : String
  age : Int64

def pupil : Entity Pupil where
  typeName := "Pupil"
  table? := .some "Pupil"
  fields := [
    .of "id" (.some "p.Id") .int readNumber fun p id => { p with id },
    .of "name" (.some "p.Name") .text readText fun p name => { p with name },
    .of "age" .none .int readNumber fun p age => { p with age }]
  blank := ⟨0, "", 6⟩

/-- Calls of all kinds, one kind after the other. -/
def orderly : List Call :=
  [.distinct, .top 10, .top 3, .removeColumn "p.Name", .mapFields [("id", "p.Id"), ("age", "p.Age AS Years")],
    .fromDefaultTable, .fromView "Pupil" (.some "p") [],
    .restrict [.test .none "Age" (.compare .greaterOrEqual (.int 6))],
    .restrict [.test .none "Name" (.like (.text "o"))],
    .orderBy "p.Id" true, .orderBy "p.Name" false, .byPropertyName]

/-- The same calls, mixed. -/
def mixed : List Call :=
  [.orderBy "p.Id" true, .fromDefaultTable, .byPropertyName,
    .restrict [.test .none "Age" (.compare .greaterOrEqual (.int 6))],
    .removeColumn "p.Name", .top 10, .fromView "Pupil" (.some "p") [],
    .restrict [.test .none "Name" (.like (.text "o"))],
    .orderBy "p.Name" false, .distinct, .mapFields [("id", "p.Id"), ("age", "p.Age AS Years")], .top 3]

theorem prepare_eq_mixed :
    (∀ k, ofKind k orderly = ofKind k mixed) ∧
      ((Query.ofColumns pupil false).run orderly).text = ((Query.ofColumns pupil false).run mixed).text ∧
      ∃ p, ((Query.ofColumns pupil false).run orderly).prepare .named = .ok p ∧
        ((Query.ofColumns pupil false).run mixed).prepare .named = .ok p := by
  have hsame : ∀ k, ofKind k orderly = ofKind k mixed := by
    intro k
    cases k <;> rfl
  obtain ⟨htext, -, hprepare⟩ := prepare_eq_of_kinds (Query.ofColumns pupil false) hsame
  refine ⟨hsame, htext, ?_⟩
  have hmade : (((Query.ofColumns pupil false).run orderly).prepare .named).isOk = true := by decide +kernel
  cases hp : ((Query.ofColumns pupil false).run orderly).prepare .named with
  | error fault => simp [hp, Except.isOk, Except.toBool] at hmade
  | ok p => exact ⟨p, rfl, (hprepare _ p).1 hp⟩

end ParamQuery.Select
