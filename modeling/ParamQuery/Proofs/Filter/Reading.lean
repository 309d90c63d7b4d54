/-
What is met in predicates when they are read from left to right: the leaves
and, in them, the names of the markers and the columns.

`leavesOf_predicatesOf`: the leaves of an outline are its tests, numbered in
reading order. `leavesOf_conjoin`: joining two lists keeps the leaves of both.
-/
import ParamQuery.Proofs.Filter.Outline

namespace ParamQuery.Filter

/-- The names of the markers in a test. -/
def Test.names : Test → List String
  | .compare _ name => [name]
  | .between min max => [min, max]
  | .member names _ => names
  | .isNull | .notNull | .is _ | .not _ => []

mutual

/-- The tests in a predicate, each with its column. -/
def Predicate.leaves : Predicate → List (String × Test)
  | .comparison _ column test => [(column, test)]
  | .group _ children => leavesOf children

/-- The tests in a list of predicates. -/
def leavesOf : List Predicate → List (String × Test)
  | [] => []
  | p :: ps => p.leaves ++ leavesOf ps

end

/-- The names of the markers in a predicate. -/
def Predicate.names (p : Predicate) : List String := p.leaves.flatMap (·.2.names)

/-- The names of the markers in a list of predicates. -/
def namesOf (ps : List Predicate) : List String := (leavesOf ps).flatMap (·.2.names)

/-- The columns in a list of predicates. -/
def columnsOf (ps : List Predicate) : List String := (leavesOf ps).map (·.1)

@[simp] theorem namesOf_nil : namesOf [] = [] := rfl

@[simp] theorem namesOf_cons (p : Predicate) (ps : List Predicate) :
    namesOf (p :: ps) = p.names ++ namesOf ps := by
  simp [namesOf, leavesOf, Predicate.names]

@[simp] theorem names_comparison (c : Connector) (column : String) (test : Test) :
    (Predicate.comparison c column test).names = test.names := by
  simp [Predicate.names, Predicate.leaves]

@[simp] theorem names_group (c : Connector) (children : List Predicate) :
    (Predicate.group c children).names = namesOf children := by
  simp [Predicate.names, Predicate.leaves, namesOf]

/-! ## Outlines -/

/-- The tests that conditions become, in a statement that has `n` parameters. -/
def numberTests (n : Nat) : List (String × Condition) → List (String × Test)
  | [] => []
  | (column, condition) :: ts =>
    (column, condition.test column n) :: numberTests (n + (condition.slots column).length) ts

theorem numberTests_append (n : Nat) (ts us : List (String × Condition)) :
    numberTests n (ts ++ us) = numberTests n ts ++ numberTests (n + (slotsOfTests ts).length) us := by
  induction ts generalizing n with
  | nil => simp [numberTests, slotsOfTests]
  | cons t ts ih => simp [numberTests, ih, slotsOfTests, Nat.add_assoc]

mutual

theorem leaves_predicate (c : Connector) (n : Nat) :
    ∀ e : Element, (e.predicate c n).leaves = numberTests n e.tests
  | .test link column condition => by
    simp [Element.predicate, Predicate.leaves, Element.tests, numberTests]
  | .group link es => by
    simpa [Element.predicate, Predicate.leaves, Element.tests] using leavesOf_predicatesOf .none n es

/-- The leaves of an outline are its tests. -/
theorem leavesOf_predicatesOf (first : Connector) (n : Nat) :
    ∀ es : List Element, leavesOf (predicatesOf first n es) = numberTests n (testsOf es)
  | [] => rfl
  | e :: es => by
    rw [predicatesOf, leavesOf, testsOf, numberTests_append, leaves_predicate first n e,
      leavesOf_predicatesBehind _ es]
    rfl

theorem leavesOf_predicatesBehind (n : Nat) :
    ∀ es : List Element, leavesOf (predicatesBehind n es) = numberTests n (testsOf es)
  | [] => rfl
  | e :: es => by
    rw [predicatesBehind, leavesOf, testsOf, numberTests_append, leaves_predicate _ n e,
      leavesOf_predicatesBehind _ es]
    rfl

end

theorem Condition.names_test (column : String) (n : Nat) (condition : Condition) :
    (condition.test column n).names = (Slots.number n (condition.slots column)).names := by
  cases condition with
  | member vs negated => exact Params.nextNames_eq _ n vs
  | _ => rfl

theorem names_numberTests (n : Nat) (ts : List (String × Condition)) :
    (numberTests n ts).flatMap (·.2.names) = (Slots.number n (slotsOfTests ts)).names := by
  induction ts generalizing n with
  | nil => rfl
  | cons t ts ih =>
    have hcons : slotsOfTests (t :: ts) = t.2.slots t.1 ++ slotsOfTests ts := by simp [slotsOfTests]
    rw [hcons, Slots.names_number_append, numberTests, List.flatMap_cons, ih, Condition.names_test]

theorem columns_numberTests (n : Nat) (ts : List (String × Condition)) :
    (numberTests n ts).map (·.1) = ts.map (·.1) := by
  induction ts generalizing n with
  | nil => rfl
  | cons t ts ih => simp [numberTests, ih]

/-- The markers of an outline are its slots, in order. -/
theorem namesOf_predicatesOf (first : Connector) (n : Nat) (es : List Element) :
    namesOf (predicatesOf first n es) = (Slots.number n (slotsOf es)).names := by
  rw [namesOf, leavesOf_predicatesOf, names_numberTests]; rfl

theorem names_predicate (c : Connector) (n : Nat) (e : Element) :
    (e.predicate c n).names = (Slots.number n e.slots).names := by
  rw [Predicate.names, leaves_predicate, names_numberTests]; rfl

theorem columnsOf_predicatesOf (first : Connector) (n : Nat) (es : List Element) :
    columnsOf (predicatesOf first n es) = (testsOf es).map (·.1) := by
  rw [columnsOf, leavesOf_predicatesOf, columns_numberTests]

/-! ## Joining -/

theorem connector_withConnector (c : Connector) (p : Predicate) : (p.withConnector c).connector = c := by
  cases p <;> rfl

@[simp] theorem leaves_withConnector (c : Connector) (p : Predicate) :
    (p.withConnector c).leaves = p.leaves := by
  cases p <;> simp [Predicate.withConnector, Predicate.leaves]

@[simp] theorem names_withConnector (c : Connector) (p : Predicate) :
    (p.withConnector c).names = p.names := by
  simp [Predicate.names]

theorem leavesOf_append (ps qs : List Predicate) :
    leavesOf (ps ++ qs) = leavesOf ps ++ leavesOf qs := by
  induction ps with
  | nil => rfl
  | cons p ps ih => simp [leavesOf, ih]

@[simp] theorem leavesOf_leadWith (c : Connector) (ps : List Predicate) :
    leavesOf (leadWith c ps) = leavesOf ps := by
  cases ps <;> simp [leadWith, leavesOf]

@[simp] theorem leavesOf_enclose (c : Connector) (ps : List Predicate) :
    leavesOf (enclose c ps) = leavesOf ps := by
  unfold enclose
  split <;> simp [leavesOf, Predicate.leaves]

/-- Lists are joined in one of three ways: one side is empty, or both are enclosed. -/
theorem conjoin_eq (ps qs : List Predicate) :
    conjoin ps qs =
      if qs = [] then ps else if ps = [] then leadWith .clause qs
      else enclose .clause ps ++ enclose .and qs := by
  cases qs <;> cases ps <;> rfl

/-- Joining keeps the leaves of both sides. -/
theorem leavesOf_conjoin (ps qs : List Predicate) :
    leavesOf (conjoin ps qs) = leavesOf ps ++ leavesOf qs := by
  rw [conjoin_eq]
  split
  · simp [*, leavesOf]
  · split
    · simp [*, leavesOf]
    · simp [leavesOf_append]

theorem namesOf_leadWith (c : Connector) (ps : List Predicate) : namesOf (leadWith c ps) = namesOf ps := by
  simp [namesOf]

theorem namesOf_enclose (c : Connector) (ps : List Predicate) : namesOf (enclose c ps) = namesOf ps := by
  simp [namesOf]

theorem namesOf_conjoin (ps qs : List Predicate) :
    namesOf (conjoin ps qs) = namesOf ps ++ namesOf qs := by
  simp [namesOf, leavesOf_conjoin]

theorem columnsOf_conjoin (ps qs : List Predicate) :
    columnsOf (conjoin ps qs) = columnsOf ps ++ columnsOf qs := by
  simp [columnsOf, leavesOf_conjoin]

end ParamQuery.Filter
