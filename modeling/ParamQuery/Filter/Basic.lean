/-
Filters: the predicates of a statement and the parameters allocated so far.
A filter can be put behind a condition that is there already.
-/
import ParamQuery.Filter.Builder

namespace ParamQuery

/-- A filter: its predicates, and the parameters of the statement so far. -/
structure Filter where
  predicates : List Filter.Predicate
  params : Params

namespace Filter

/-- A filter without predicates. -/
def empty : Filter := ⟨[], []⟩

/-- A filter without predicates, in a statement that has parameters. -/
def continuing (ps : Params) : Filter := ⟨[], ps⟩

/-- What a builder has made so far. Groups that are open do not count. -/
def ofBuilder (b : Builder) : Filter := ⟨b.predicates, b.params⟩

/-- A builder that goes on with the filter. -/
def builder (f : Filter) : Builder := ⟨f.predicates, [], f.params⟩

/-- Runs the steps of a script. -/
def run (f : Filter) (steps : List Step) : Filter := ofBuilder (f.builder.run steps)

/-- Whether the filter has no predicate. -/
def isEmpty (f : Filter) : Bool := f.predicates.isEmpty

/-- The text of the filter: nothing, or a clause. -/
def text (f : Filter) : String := render f.predicates

/-- The filter behind an existing condition, joined by `c`. -/
def applyTo (c : Connector) (f : Filter) (existing : String) : String :=
  let existing := Text.normalized existing
  if f.isEmpty then existing
  else if existing.isEmpty then f.text
  else existing ++ " " ++ render (leadWith c f.predicates)

/-- The filter behind an existing condition, joined with AND. -/
def applyAnd (f : Filter) (existing : String) : String := f.applyTo .and existing

/-- The filter behind an existing condition, joined with OR. -/
def applyOr (f : Filter) (existing : String) : String := f.applyTo .or existing

end Filter

end ParamQuery
