/-
What a filter shows while its script runs: at each mark, the predicates
that are complete on the outermost level and all parameters so far.
-/
import ParamQuery.Filter.Basic

namespace ParamQuery.Filter

mutual

/-- The views at the marks within a step. -/
def viewsOfStep (b : Builder) : Step → List (Nat × Filter)
  | .mark tag => [(tag, ofBuilder b)]
  | .group link parts => viewsOfParts (b.openGroup link) parts
  | .test .. | .dropped .. => []

/-- The views within steps. -/
def viewsOfSteps (b : Builder) : List Step → List (Nat × Filter)
  | [] => []
  | s :: ss => viewsOfStep b s ++ viewsOfSteps (b.step s) ss

/-- The views within the parts of a group. -/
def viewsOfParts (b : Builder) : List (List Step) → List (Nat × Filter)
  | [] => []
  | part :: parts => viewsOfSteps b part ++ viewsOfParts (b.run part) parts

end

/-- The views at the marks of a script, with their tags. -/
def views (f : Filter) (steps : List Step) : List (Nat × Filter) := viewsOfSteps f.builder steps

/-- How the list of the parts of a group is shown. -/
def partsText (parts : List (List Step)) : String :=
  "GroupRegistry \x7b entries: " ++ Number.natText parts.length ++ " \x7d"

end ParamQuery.Filter
