/-
The builder of a filter, which takes the steps of a script one by one.

What a step adds goes to the innermost group that is open, or else to the
outermost level. The first predicate of a filter begins the clause and the
first of a group has no connector, whatever was asked for. The connector of
a group is settled when the group is opened. A step that tests nothing, a
list of no values and a group without content leave no trace.
-/
import ParamQuery.Filter.Script

namespace ParamQuery.Filter

/-- A group that still takes predicates. -/
structure OpenGroup where
  connector : Connector
  children : List Predicate

/-- A filter under construction. -/
structure Builder where
  /-- The outermost level. -/
  predicates : List Predicate
  /-- The groups that are open, the innermost first. -/
  groups : List OpenGroup
  params : Params

namespace Builder

/-- The connector of what is added next, if `link` is asked for. -/
def resolve (b : Builder) (link : Link) : Connector :=
  match b.groups with
  | [] => if b.predicates.isEmpty then .clause else link.connector
  | g :: _ => if g.children.isEmpty then .none else link.connector

/-- Adds a predicate. -/
def append (b : Builder) (p : Predicate) : Builder :=
  match b.groups with
  | [] => { b with predicates := b.predicates ++ [p] }
  | g :: gs => { b with groups := { g with children := g.children ++ [p] } :: gs }

/-- Tests a column. -/
def test (b : Builder) (link : Link) (column : String) (condition : Condition) : Builder :=
  match condition.allocate column b.params with
  | (.some test, ps) => { b with params := ps }.append (.comparison (b.resolve link) column test)
  | (.none, ps) => { b with params := ps }

/-- Opens a group. -/
def openGroup (b : Builder) (link : Link) : Builder :=
  { b with groups := ⟨b.resolve link, []⟩ :: b.groups }

/-- Closes the innermost group, which is added unless it is empty. -/
def closeGroup (b : Builder) : Builder :=
  match b.groups with
  | [] => b
  | g :: gs =>
    let b := { b with groups := gs }
    if g.children.isEmpty then b else b.append (.group g.connector g.children)

mutual

/-- Takes a step. A group for which nothing was registered is not even opened. -/
def step (b : Builder) : Step → Builder
  | .test link column condition => b.test link column condition
  | .dropped _ _ => b
  | .mark _ => b
  | .group link parts =>
    if parts.isEmpty then b else (runParts (b.openGroup link) parts).closeGroup

/-- Takes steps in order. -/
def run (b : Builder) : List Step → Builder
  | [] => b
  | s :: ss => run (step b s) ss

/-- Takes the parts of a group in order. -/
def runParts (b : Builder) : List (List Step) → Builder
  | [] => b
  | part :: parts => runParts (run b part) parts

end

end Builder

end ParamQuery.Filter
