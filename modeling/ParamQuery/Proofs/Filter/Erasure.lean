/-
What is left of a filter without its values. Erasing puts the missing value
in the place of every value that a script gives; columns, tests, connectors
and the lengths of lists stay as they are.

Two builders are alike if they differ only in the values of their
parameters. A step keeps them alike whether it is erased or not, and so does
a script (`Builder.Alike.run`): a builder reads no value.
-/
import ParamQuery.Filter.Basic

namespace ParamQuery

/-! ## Names of parameters -/

namespace Params

variable {ps qs : Params}

theorem next_of_names (h : qs.names = ps.names) : qs.next = ps.next := by
  simpa [names, next] using congrArg List.length h

theorem nextName_of_names (h : qs.names = ps.names) (stem : String) :
    qs.nextName stem = ps.nextName stem := by
  rw [nextName, nextName, next_of_names h]

/-- The name of an allocated parameter does not depend on any value. -/
theorem names_allocate_of_names (h : qs.names = ps.names) (stem : String) (v w : Value) :
    (qs.allocate stem w).names = (ps.allocate stem v).names := by
  have hname := nextName_of_names h stem
  simp only [names] at h
  simp [allocate, names, h, hname]

theorem names_allocateAll_of_names (h : qs.names = ps.names) (stem : String) (vs : List Value) :
    (allocateAll stem qs (vs.map fun _ => .null)).names = (allocateAll stem ps vs).names := by
  induction vs generalizing ps qs with
  | nil => exact h
  | cons v vs ih => exact ih (names_allocate_of_names h stem v .null)

end Params

namespace Filter

/-! ## Erasing -/

/-- The condition without its values. -/
def Condition.erased : Condition → Condition
  | .compare op _ => .compare op .null
  | .like _ => .like .null
  | .between _ _ => .between .null .null
  | .member vs negated => .member (vs.map fun _ => .null) negated
  | .is word => .is word
  | .not word => .not word
  | .isNull => .isNull
  | .notNull => .notNull

mutual

/-- The step without its values. -/
def Step.erased : Step → Step
  | .test link column condition => .test link column condition.erased
  | .dropped link column => .dropped link column
  | .group link parts => .group link (erasedParts parts)
  | .mark tag => .mark tag

/-- The steps without their values. -/
def erasedSteps : List Step → List Step
  | [] => []
  | s :: ss => s.erased :: erasedSteps ss

/-- The parts of a group without their values. -/
def erasedParts : List (List Step) → List (List Step)
  | [] => []
  | part :: parts => erasedSteps part :: erasedParts parts

end

/-- A condition becomes the same test without its values, and allocates the same names. -/
theorem Condition.allocate_erased {ps qs : Params} (h : qs.names = ps.names) (column : String)
    (condition : Condition) :
    (condition.erased.allocate column qs).1 = (condition.allocate column ps).1 ∧
      (condition.erased.allocate column qs).2.names = (condition.allocate column ps).2.names := by
  have hname := Params.nextName_of_names h
  cases condition with
  | compare op v =>
    exact ⟨by simp [erased, allocate, hname], Params.names_allocate_of_names h _ v .null⟩
  | like v =>
    exact ⟨by simp [erased, allocate, hname],
      Params.names_allocate_of_names h _ (pattern v) (pattern .null)⟩
  | between min max =>
    have hmin := Params.names_allocate_of_names h "Min" min .null
    exact ⟨by simp [erased, allocate, hname, Params.nextName_of_names hmin],
      Params.names_allocate_of_names hmin "Max" max .null⟩
  | member vs negated =>
    cases vs with
    | nil => exact ⟨rfl, h⟩
    | cons v vs =>
      exact ⟨by simp [erased, allocate, Params.next_of_names h],
        Params.names_allocateAll_of_names h (stemOf column) (v :: vs)⟩
  | is word | not word | isNull | notNull => exact ⟨rfl, h⟩

/-! ## Builders -/

/-- Builders that differ only in the values of their parameters. -/
structure Builder.Alike (b b' : Builder) : Prop where
  predicates : b'.predicates = b.predicates
  groups : b'.groups = b.groups
  names : b'.params.names = b.params.names

namespace Builder.Alike

variable {b b' : Builder}

theorem resolve (h : Alike b b') (link : Link) : b'.resolve link = b.resolve link := by
  simp only [Builder.resolve, h.groups, h.predicates]

theorem append (h : Alike b b') (p : Predicate) : Alike (b.append p) (b'.append p) := by
  obtain ⟨predicates, groups, ps⟩ := b
  obtain ⟨predicates', groups', qs⟩ := b'
  obtain ⟨rfl, rfl, hnames⟩ := h
  cases groups' with
  | nil => exact ⟨rfl, rfl, hnames⟩
  | cons g gs => exact ⟨rfl, rfl, hnames⟩

theorem openGroup (h : Alike b b') (link : Link) : Alike (b.openGroup link) (b'.openGroup link) :=
  ⟨h.predicates, by simp only [Builder.openGroup, h.resolve, h.groups], h.names⟩

theorem closeGroup (h : Alike b b') : Alike b.closeGroup b'.closeGroup := by
  have hgroups := h.groups
  unfold Builder.closeGroup
  cases hb : b.groups with
  | nil => simpa only [hgroups, hb] using h
  | cons g gs =>
    have hclosed : Alike { b with groups := gs } { b' with groups := gs } :=
      ⟨h.predicates, rfl, h.names⟩
    simp only [hgroups, hb]
    split
    · exact hclosed
    · exact hclosed.append _

theorem test (h : Alike b b') (link : Link) (column : String) (condition : Condition) :
    Alike (b.test link column condition) (b'.test link column condition.erased) := by
  obtain ⟨htest, hnames⟩ := condition.allocate_erased h.names column
  simp only [Builder.test]
  generalize condition.allocate column b.params = made at htest hnames
  generalize condition.erased.allocate column b'.params = made' at htest hnames
  obtain ⟨test?, ps⟩ := made
  obtain ⟨test?', qs⟩ := made'
  obtain rfl : test?' = test? := htest
  have hallocated : Alike { b with params := ps } { b' with params := qs } :=
    ⟨h.predicates, h.groups, hnames⟩
  cases test?' with
  | none => exact hallocated
  | some test =>
    dsimp only
    rw [h.resolve]
    exact hallocated.append _

end Builder.Alike

mutual

/-- A step keeps builders alike, of which one is not told the values. -/
theorem Builder.Alike.step {b b' : Builder} (h : Alike b b') :
    ∀ s : Step, Alike (b.step s) (b'.step s.erased)
  | .test link column condition => by
    simp only [Builder.step, Step.erased]
    exact h.test link column condition
  | .dropped _ _ => by simpa only [Builder.step, Step.erased] using h
  | .mark _ => by simpa only [Builder.step, Step.erased] using h
  | .group link parts => by
    simp only [Builder.step, Step.erased]
    cases parts with
    | nil => simpa [erasedParts] using h
    | cons part parts =>
      have hparts := (h.openGroup link).runParts (part :: parts)
      simpa [erasedParts] using hparts.closeGroup

/-- **A builder reads no value.** Whatever a script adds is the same when its values are erased, up
to the values of the parameters. -/
theorem Builder.Alike.run {b b' : Builder} (h : Alike b b') :
    ∀ ss : List Step, Alike (b.run ss) (b'.run (erasedSteps ss))
  | [] => by simpa only [Builder.run, erasedSteps] using h
  | s :: ss => by
    simp only [Builder.run, erasedSteps]
    exact (h.step s).run ss

theorem Builder.Alike.runParts {b b' : Builder} (h : Alike b b') :
    ∀ parts : List (List Step), Alike (b.runParts parts) (b'.runParts (erasedParts parts))
  | [] => by simpa only [Builder.runParts, erasedParts] using h
  | part :: parts => by
    simp only [Builder.runParts, erasedParts]
    exact (h.run part).runParts parts

end

/-- A filter that goes on in a statement has the predicates and the names of its erased script. -/
theorem continuing_run_erased {ps qs : Params} (h : qs.names = ps.names) (script : List Step) :
    ((continuing qs).run (erasedSteps script)).predicates = ((continuing ps).run script).predicates ∧
      ((continuing qs).run (erasedSteps script)).params.names =
        ((continuing ps).run script).params.names := by
  have hbegin : Builder.Alike (continuing ps).builder (continuing qs).builder := ⟨rfl, rfl, h⟩
  have hend := hbegin.run script
  exact ⟨hend.predicates, hend.names⟩

end Filter

end ParamQuery
