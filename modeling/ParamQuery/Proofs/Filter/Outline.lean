/-
What a script amounts to: its outline, which is the script without the
steps that leave no trace. The parts of a group are one list there, and a
group without content is no part of it.

A builder makes exactly the outline (`Builder.run_eq`): what a script adds
on the innermost level are the predicates of the outline, and what it
allocates are the slots of the outline, in reading order. The stack of open
groups is back where it was when the script ends.
-/
import ParamQuery.Filter.Basic
import ParamQuery.Proofs.Statement.Slots

namespace ParamQuery.Filter

/-- A part of a script that leaves a trace. -/
inductive Element where
  | test (link : Link) (column : String) (condition : Condition)
  | group (link : Link) (elements : List Element)

/-! ## The outline of a script -/

/-- Whether a condition is a list of no values. -/
def Condition.isVoid : Condition → Bool
  | .member [] _ => true
  | _ => false

mutual

/-- What a step amounts to. -/
def Step.outline : Step → List Element
  | .test link column condition =>
    if condition.isVoid then [] else [.test link column condition]
  | .dropped _ _ => []
  | .mark _ => []
  | .group link parts =>
    match outlineOfParts parts with
    | [] => []
    | es => [.group link es]

/-- What steps amount to. -/
def outline : List Step → List Element
  | [] => []
  | s :: ss => s.outline ++ outline ss

/-- What the parts of a group amount to. -/
def outlineOfParts : List (List Step) → List Element
  | [] => []
  | part :: parts => outline part ++ outlineOfParts parts

end

/-! ## What an outline allocates -/

/-- What a condition allocates. -/
def Condition.slots (column : String) : Condition → Slots
  | .compare _ v => [(stemOf column, v)]
  | .like v => [(stemOf column, pattern v)]
  | .between min max => [("Min", min), ("Max", max)]
  | .member vs _ => vs.map (stemOf column, ·)
  | .is _ | .not _ | .isNull | .notNull => []

mutual

/-- The tests of an element, in reading order. -/
def Element.tests : Element → List (String × Condition)
  | .test _ column condition => [(column, condition)]
  | .group _ es => testsOf es

/-- The tests of elements. -/
def testsOf : List Element → List (String × Condition)
  | [] => []
  | e :: es => e.tests ++ testsOf es

end

/-- What tests allocate. -/
def slotsOfTests (ts : List (String × Condition)) : Slots := ts.flatMap fun t => t.2.slots t.1

/-- What an element allocates. -/
def Element.slots (e : Element) : Slots := slotsOfTests e.tests

/-- What elements allocate. -/
def slotsOf (es : List Element) : Slots := slotsOfTests (testsOf es)

/-! ## The predicates of an outline -/

/-- The test of a condition in a statement that has `n` parameters. -/
def Condition.test (column : String) (n : Nat) : Condition → Test
  | .compare op _ => .compare op (stemOf column ++ Number.natText n)
  | .like _ => .compare .like (stemOf column ++ Number.natText n)
  | .between _ _ => .between ("Min" ++ Number.natText n) ("Max" ++ Number.natText (n + 1))
  | .member vs negated => .member (Params.nextNames (stemOf column) n vs.length) negated
  | .is word => .is word
  | .not word => .not word
  | .isNull => .isNull
  | .notNull => .notNull

/-- The connector that was asked for. -/
def Element.connector : Element → Connector
  | .test link _ _ => link.connector
  | .group link _ => link.connector

mutual

/-- The predicate of an element, behind the connector `c`. -/
def Element.predicate (c : Connector) (n : Nat) : Element → Predicate
  | .test _ column condition => .comparison c column (condition.test column n)
  | .group _ es => .group c (predicatesOf .none n es)

/-- The predicates of a level. The first one has the connector `first`, whatever was asked for. -/
def predicatesOf (first : Connector) (n : Nat) : List Element → List Predicate
  | [] => []
  | e :: es => e.predicate first n :: predicatesBehind (n + e.slots.length) es

/-- The predicates of a level behind the first one: each has the connector that was asked for. -/
def predicatesBehind (n : Nat) : List Element → List Predicate
  | [] => []
  | e :: es => e.predicate e.connector n :: predicatesBehind (n + e.slots.length) es

end

theorem Element.connector_predicate (c : Connector) (n : Nat) (e : Element) :
    (e.predicate c n).connector = c := by
  cases e <;> simp [predicate, Predicate.connector]

@[simp] theorem slotsOf_nil : slotsOf [] = [] := rfl

@[simp] theorem slotsOf_cons (e : Element) (es : List Element) :
    slotsOf (e :: es) = e.slots ++ slotsOf es := by
  simp [slotsOf, testsOf, slotsOfTests, Element.slots]

@[simp] theorem slots_test (link : Link) (column : String) (condition : Condition) :
    (Element.test link column condition).slots = condition.slots column := by
  simp [Element.slots, Element.tests, slotsOfTests]

@[simp] theorem slots_group (link : Link) (es : List Element) :
    (Element.group link es).slots = slotsOf es := by
  simp [Element.slots, Element.tests, slotsOf]

theorem slotsOf_append (es ds : List Element) : slotsOf (es ++ ds) = slotsOf es ++ slotsOf ds := by
  induction es with
  | nil => rfl
  | cons e es ih => simp [ih]

theorem predicatesBehind_append (n : Nat) (es ds : List Element) :
    predicatesBehind n (es ++ ds) =
      predicatesBehind n es ++ predicatesBehind (n + (slotsOf es).length) ds := by
  induction es generalizing n with
  | nil => simp [predicatesBehind]
  | cons e es ih => simp [predicatesBehind, ih, Nat.add_assoc]

theorem predicatesOf_append (first : Connector) (n : Nat) {es : List Element} (h : es ≠ [])
    (ds : List Element) :
    predicatesOf first n (es ++ ds) =
      predicatesOf first n es ++ predicatesBehind (n + (slotsOf es).length) ds := by
  cases es with
  | nil => exact absurd rfl h
  | cons e es => simp [predicatesOf, predicatesBehind_append, Nat.add_assoc]

theorem predicatesOf_eq_nil_iff {first : Connector} {n : Nat} {es : List Element} :
    predicatesOf first n es = [] ↔ es = [] := by
  cases es <;> simp [predicatesOf]

theorem predicatesBehind_eq_nil_iff {n : Nat} {es : List Element} :
    predicatesBehind n es = [] ↔ es = [] := by
  cases es <;> simp [predicatesBehind]

/-! ## The builder makes the outline -/

/-- A condition allocates its slots, and becomes its test unless it is void. -/
theorem Condition.allocate_eq (column : String) (ps : Params) (condition : Condition) :
    condition.allocate column ps =
      (if condition.isVoid then .none else .some (condition.test column ps.next),
        ps ++ Slots.number ps.next (condition.slots column)) := by
  cases condition with
  | compare op v => rfl
  | like v => rfl
  | between min max =>
    simp [Condition.allocate, isVoid, Condition.test, slots, Params.allocate, Params.nextName,
      Params.next, Slots.number]
  | member vs negated =>
    cases vs with
    | nil => simp [Condition.allocate, isVoid, slots, Slots.number]
    | cons v vs => simp [Condition.allocate, isVoid, Condition.test, slots, Params.allocateAll_eq]
  | is word => simp [Condition.allocate, isVoid, Condition.test, slots, Slots.number]
  | not word => simp [Condition.allocate, isVoid, Condition.test, slots, Slots.number]
  | isNull => simp [Condition.allocate, isVoid, Condition.test, slots, Slots.number]
  | notNull => simp [Condition.allocate, isVoid, Condition.test, slots, Slots.number]

theorem Condition.slots_of_isVoid {condition : Condition} (h : condition.isVoid = true)
    (column : String) : condition.slots column = [] := by
  cases condition with
  | member vs negated =>
    cases vs with
    | nil => rfl
    | cons v vs => simp [isVoid] at h
  | _ => simp [isVoid] at h

namespace Builder

/-- The level that steps add to. -/
def level (b : Builder) : List Predicate :=
  match b.groups with
  | [] => b.predicates
  | g :: _ => g.children

/-- The connector of the first predicate of that level. -/
def first (b : Builder) : Connector := if b.groups.isEmpty then .clause else .none

/-- The predicates that elements become at the end of the level. -/
def placed (b : Builder) (es : List Element) : List Predicate :=
  if b.level.isEmpty then predicatesOf b.first b.params.next es
  else predicatesBehind b.params.next es

/-- The builder with predicates and parameters added. -/
def extended (b : Builder) (preds : List Predicate) (ps : Params) : Builder :=
  match b.groups with
  | [] => ⟨b.predicates ++ preds, [], b.params ++ ps⟩
  | g :: gs => ⟨b.predicates, ⟨g.connector, g.children ++ preds⟩ :: gs, b.params ++ ps⟩

/-- The builder with the elements of an outline added. -/
def extend (b : Builder) (es : List Element) : Builder :=
  b.extended (b.placed es) (Slots.number b.params.next (slotsOf es))

theorem resolve_eq (b : Builder) (link : Link) :
    b.resolve link = if b.level.isEmpty then b.first else link.connector := by
  obtain ⟨preds, groups, ps⟩ := b
  cases groups with
  | nil => simp [resolve, level, first]
  | cons g gs => simp [resolve, level, first]

theorem placed_singleton (b : Builder) (e : Element) :
    b.placed [e] = [e.predicate (if b.level.isEmpty then b.first else e.connector) b.params.next] := by
  unfold placed
  split <;> simp [predicatesOf, predicatesBehind]

@[simp] theorem extend_nil (b : Builder) : b.extend [] = b := by
  obtain ⟨preds, groups, ps⟩ := b
  cases groups with
  | nil => simp [extend, extended, placed, predicatesOf, predicatesBehind, Slots.number]
  | cons g gs => simp [extend, extended, placed, predicatesOf, predicatesBehind, Slots.number]

theorem level_extended (b : Builder) (preds : List Predicate) (ps : Params) :
    (b.extended preds ps).level = b.level ++ preds := by
  obtain ⟨ps', groups, qs⟩ := b
  cases groups <;> rfl

theorem params_extended (b : Builder) (preds : List Predicate) (ps : Params) :
    (b.extended preds ps).params = b.params ++ ps := by
  obtain ⟨ps', groups, qs⟩ := b
  cases groups <;> rfl

theorem extended_extended (b : Builder) (preds preds' : List Predicate) (ps ps' : Params) :
    (b.extended preds ps).extended preds' ps' = b.extended (preds ++ preds') (ps ++ ps') := by
  obtain ⟨qs, groups, rs⟩ := b
  cases groups <;> simp [extended]

theorem placed_eq_nil_iff {b : Builder} {es : List Element} : b.placed es = [] ↔ es = [] := by
  unfold placed
  split
  · exact predicatesOf_eq_nil_iff
  · exact predicatesBehind_eq_nil_iff

/-- Behind an element, every further one has the connector that it asks for. -/
theorem placed_extend (b : Builder) {es : List Element} (h : es ≠ []) (ds : List Element) :
    (b.extend es).placed ds = predicatesBehind (b.params.next + (slotsOf es).length) ds := by
  have hlevel : (b.extend es).level ≠ [] := by
    rw [extend, level_extended]
    intro he
    exact h (placed_eq_nil_iff.1 (List.append_eq_nil_iff.1 he).2)
  rw [placed, if_neg (by simpa using hlevel), extend, params_extended]
  simp

/-- Adding one outline behind another is adding both. -/
theorem extend_extend (b : Builder) (es ds : List Element) :
    (b.extend es).extend ds = b.extend (es ++ ds) := by
  by_cases hes : es = []
  · simp [hes]
  · -- Behind `es` the level is not empty, so `ds` are placed with the connectors they ask for.
    have hplaced : b.placed (es ++ ds) = b.placed es ++ (b.extend es).placed ds := by
      rw [placed_extend b hes]
      unfold placed
      split
      · exact predicatesOf_append _ _ hes ds
      · exact predicatesBehind_append _ es ds
    have hparams : (b.extend es).params = b.params ++ Slots.number b.params.next (slotsOf es) :=
      params_extended b _ _
    calc (b.extend es).extend ds
        = b.extended (b.placed es ++ (b.extend es).placed ds)
            (Slots.number b.params.next (slotsOf es) ++
              Slots.number (b.extend es).params.next (slotsOf ds)) := extended_extended b _ _ _ _
      _ = b.extend (es ++ ds) := by
        rw [← hplaced, hparams]
        simp [extend, slotsOf_append, Slots.number_append]

/-- A group that is opened on a level takes a level of its own. -/
theorem openGroup_extend (b : Builder) (link : Link) (es : List Element) :
    (b.openGroup link).extend es =
      ⟨b.predicates, ⟨b.resolve link, predicatesOf .none b.params.next es⟩ :: b.groups,
        b.params ++ Slots.number b.params.next (slotsOf es)⟩ := by
  simp [openGroup, extend, extended, placed, level, first]

theorem test_eq (b : Builder) (link : Link) (column : String) (condition : Condition) :
    b.test link column condition = b.extend (Step.test link column condition).outline := by
  simp only [test, Condition.allocate_eq, Step.outline]
  by_cases hv : condition.isVoid = true
  · obtain ⟨preds, groups, ps⟩ := b
    simp [hv, Condition.slots_of_isVoid hv, Slots.number]
  · simp only [hv, Bool.false_eq_true, if_false, extend, placed_singleton, Element.predicate,
      Element.connector, resolve_eq]
    obtain ⟨preds, groups, ps⟩ := b
    cases groups with
    | nil => simp [append, extended]
    | cons g gs => simp [append, extended]

/-- A group is closed with its outline, or leaves no trace. -/
theorem closeGroup_eq (b : Builder) (link : Link) (es : List Element) :
    ((b.openGroup link).extend es).closeGroup =
      b.extend (match es with | [] => [] | es => [.group link es]) := by
  rw [openGroup_extend]
  cases es with
  | nil => simp [closeGroup, predicatesOf, Slots.number]
  | cons e es =>
    simp only [closeGroup, extend, placed_singleton, Element.predicate, Element.connector, resolve_eq]
    obtain ⟨preds, groups, ps⟩ := b
    cases groups with
    | nil => simp [append, extended, predicatesOf]
    | cons g gs => simp [append, extended, predicatesOf]

mutual

/-- A step adds what it amounts to. -/
theorem step_eq (b : Builder) : ∀ s : Step, b.step s = b.extend s.outline
  | .test link column condition => by rw [step, test_eq]
  | .dropped link column => by simp [step, Step.outline]
  | .mark tag => by simp [step, Step.outline]
  | .group link parts => by
    rw [step, runParts_eq _ parts, closeGroup_eq]
    simp only [Step.outline]
    split
    · rename_i h
      simp [List.isEmpty_iff.1 h, outlineOfParts]
    · rfl

/-- **A script adds its outline**, and leaves the groups open that were open before. -/
theorem run_eq (b : Builder) : ∀ ss : List Step, b.run ss = b.extend (outline ss)
  | [] => by simp [run, outline]
  | s :: ss => by rw [run, step_eq b s, run_eq _ ss, extend_extend]; rfl

theorem runParts_eq (b : Builder) : ∀ parts : List (List Step),
    b.runParts parts = b.extend (outlineOfParts parts)
  | [] => by simp [runParts, outlineOfParts]
  | part :: parts => by rw [runParts, run_eq b part, runParts_eq _ parts, extend_extend]; rfl

end

end Builder

/-- A filter without predicates becomes what its script amounts to. -/
theorem continuing_run_eq (ps : Params) (script : List Step) :
    (continuing ps).run script =
      ⟨predicatesOf .clause ps.next (outline script),
        ps ++ Slots.number ps.next (slotsOf (outline script))⟩ := by
  simp [run, builder, continuing, Builder.run_eq, Builder.extend, Builder.extended, Builder.placed,
    Builder.level, Builder.first, ofBuilder]

theorem empty_run_eq (script : List Step) :
    empty.run script =
      ⟨predicatesOf .clause 0 (outline script), Slots.number 0 (slotsOf (outline script))⟩ :=
  continuing_run_eq [] script

end ParamQuery.Filter
