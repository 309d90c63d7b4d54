/-
Where the parameters of a filter stand. Reading the predicates of a script
from left to right meets its tests in the order in which they were
supplied, and the markers in them are the parameters that the script
allocated, in their order. What is not among the predicates allocated
nothing.

`params_in_reading_order`: each parameter has the name that its column and
its place in the statement make, and the literal that was supplied there.
-/
import Mathlib.Data.List.Forall2
import ParamQuery.Proofs.Filter.Truth

namespace ParamQuery.Filter

/-! ## What a script supplies -/

mutual

/-- The tests that a step supplies, in order. A list of no values is none. -/
def Step.supplied : Step → List (String × Condition)
  | .test _ column condition => if condition.isVoid then [] else [(column, condition)]
  | .dropped _ _ => []
  | .mark _ => []
  | .group _ parts => suppliedByParts parts

/-- The tests that steps supply. -/
def supplied : List Step → List (String × Condition)
  | [] => []
  | s :: ss => s.supplied ++ supplied ss

/-- The tests that the parts of a group supply. -/
def suppliedByParts : List (List Step) → List (String × Condition)
  | [] => []
  | part :: parts => supplied part ++ suppliedByParts parts

end

theorem testsOf_append (es ds : List Element) : testsOf (es ++ ds) = testsOf es ++ testsOf ds := by
  induction es with
  | nil => rfl
  | cons e es ih => simp [testsOf, ih]

mutual

theorem testsOf_step : ∀ s : Step, testsOf s.outline = s.supplied
  | .test link column condition => by
    simp only [Step.outline, Step.supplied]
    split <;> simp [testsOf, Element.tests]
  | .dropped _ _ => rfl
  | .mark _ => rfl
  | .group link parts => by
    rw [Step.supplied, ← testsOf_parts parts, Step.outline]
    split
    · rename_i h
      rw [h]
    · simp [testsOf, Element.tests]

/-- Pruning a script loses no test. -/
theorem testsOf_outline : ∀ ss : List Step, testsOf (outline ss) = supplied ss
  | [] => rfl
  | s :: ss => by rw [outline, testsOf_append, testsOf_step s, testsOf_outline ss, supplied]

theorem testsOf_parts : ∀ parts : List (List Step), testsOf (outlineOfParts parts) = suppliedByParts parts
  | [] => rfl
  | part :: parts => by
    rw [outlineOfParts, testsOf_append, testsOf_outline part, testsOf_parts parts, suppliedByParts]

end

/-! ## Leaves and their parameters -/

/-- The literals of a condition, in the order of its arguments. A text that is to occur has wildcards
around it. -/
def Condition.literals : Condition → List Value
  | .compare _ v => [v]
  | .like v => [pattern v]
  | .between min max => [min, max]
  | .member vs _ => vs
  | .is _ | .not _ | .isNull | .notNull => []

/-- What a condition tests for. -/
def Condition.form : Condition → TestForm
  | .compare op _ => .compare op
  | .like _ => .compare .like
  | .between _ _ => .between
  | .member _ negated => .member negated
  | .is word => .is word
  | .not word => .not word
  | .isNull => .isNull
  | .notNull => .notNull

/-- The stems of the markers in the test of a column. -/
def Test.stems (column : String) : Test → List String
  | .compare _ _ => [stemOf column]
  | .between _ _ => ["Min", "Max"]
  | .member names _ => names.map fun _ => stemOf column
  | .isNull | .notNull | .is _ | .not _ => []

/-- The leaf tests what was supplied, with a marker for each literal. -/
structure IsLeafOf (leaf : String × Test) (given : String × Condition) : Prop where
  column : leaf.1 = given.1
  form : leaf.2.form = given.2.form
  length : leaf.2.names.length = given.2.literals.length

/-- The parameters of a leaf: its markers with the literals that were supplied for it. -/
def paramsOfLeaf (leaf : String × Test) (given : String × Condition) : Params :=
  List.zipWith Param.mk leaf.2.names given.2.literals

theorem Condition.values_slots (column : String) (condition : Condition) :
    (condition.slots column).values = condition.literals := by
  cases condition with
  | member vs negated => simp [slots, literals, Slots.values, Function.comp_def]
  | _ => rfl

theorem Condition.stems_test (column : String) (n : Nat) (condition : Condition) :
    (condition.test column n).stems column = (condition.slots column).stems := by
  cases condition with
  | member vs negated =>
    simp only [Condition.test, Test.stems, slots, Params.nextNames_eq, Slots.stems, Params.names,
      List.map_map, Function.comp_def, List.map_const', Slots.length_number, List.length_map]
  | _ => rfl

theorem Condition.form_eq (column : String) (n : Nat) (condition : Condition) :
    (condition.test column n).form = condition.form := by
  cases condition <;> rfl

theorem isLeafOf_test (column : String) (n : Nat) (condition : Condition) :
    IsLeafOf (column, condition.test column n) (column, condition) where
  column := rfl
  form := condition.form_eq column n
  length := by
    rw [condition.names_test, Slots.length_names_number, ← condition.values_slots column, Slots.values,
      List.length_map]

/-- Parameters are their names with their values. -/
theorem zipWith_names_values (ps : Params) : List.zipWith Param.mk ps.names ps.values = ps := by
  induction ps with
  | nil => rfl
  | cons p ps ih => exact congrArg (p :: ·) ih

theorem paramsOfLeaf_test (column : String) (n : Nat) (condition : Condition) :
    paramsOfLeaf (column, condition.test column n) (column, condition) =
      Slots.number n (condition.slots column) := by
  rw [paramsOfLeaf, condition.names_test, ← condition.values_slots column, ← Slots.values_number n,
    zipWith_names_values]

/-! ## Leaves in order -/

theorem slotsOfTests_cons (column : String) (condition : Condition) (ts : List (String × Condition)) :
    slotsOfTests ((column, condition) :: ts) = condition.slots column ++ slotsOfTests ts := by
  simp [slotsOfTests]

/-- Tests that are numbered in order are leaves for what they were before. -/
theorem isLeafOf_numberTests (n : Nat) (ts : List (String × Condition)) :
    List.Forall₂ IsLeafOf (numberTests n ts) ts := by
  induction ts generalizing n with
  | nil => exact .nil
  | cons t ts ih => exact .cons (isLeafOf_test t.1 n t.2) (ih _)

theorem number_slotsOfTests (n : Nat) (ts : List (String × Condition)) :
    Slots.number n (slotsOfTests ts) = (List.zipWith paramsOfLeaf (numberTests n ts) ts).flatten := by
  induction ts generalizing n with
  | nil => rfl
  | cons t ts ih =>
    rw [slotsOfTests_cons, Slots.number_append, ih, numberTests, List.zipWith_cons_cons,
      List.flatten_cons, paramsOfLeaf_test]

theorem stems_numberTests (n : Nat) (ts : List (String × Condition)) :
    ((numberTests n ts).flatMap fun leaf => leaf.2.stems leaf.1) = (slotsOfTests ts).stems := by
  induction ts generalizing n with
  | nil => rfl
  | cons t ts ih =>
    rw [slotsOfTests_cons, numberTests, List.flatMap_cons, ih, t.2.stems_test]
    simp [Slots.stems]

end ParamQuery.Filter
