/-
Parameters of a statement. Each has a name, which is a stem and the number
of parameters allocated before it, so that numbers count through the whole
statement however deep its filters nest.
-/
import ParamQuery.Statement.Markers
import ParamQuery.Value.Basic

namespace ParamQuery

/-- A named parameter and its value. -/
structure Param where
  name : String
  value : Value

/-- The parameters of a statement, in the order of their allocation. -/
abbrev Params := List Param

/-- The parameter as it stands in a statement. -/
def Param.marker (p : Param) : String := ParamQuery.marker p.name

namespace Params

/-- The number of the next parameter. -/
def next (ps : Params) : Nat := ps.length

/-- The name of the next parameter with the given stem. -/
def nextName (ps : Params) (stem : String) : String := stem ++ Number.natText ps.next

/-- Allocates a parameter. -/
def allocate (ps : Params) (stem : String) (v : Value) : Params := ps ++ [⟨ps.nextName stem, v⟩]

/-- Allocates a parameter for each of a list of values. -/
def allocateAll (stem : String) : Params → List Value → Params
  | ps, [] => ps
  | ps, v :: vs => allocateAll stem (ps.allocate stem v) vs

/-- The names that `allocateAll` gives to `count` values. -/
def nextNames (stem : String) (first : Nat) : (count : Nat) → List String
  | 0 => []
  | n + 1 => (stem ++ Number.natText first) :: nextNames stem (first + 1) n

/-- The names, in order. -/
def names (ps : Params) : List String := ps.map (·.name)

/-- The values, in order. -/
def values (ps : Params) : List Value := ps.map (·.value)

end Params

/-- The stem for a column expression: its ASCII letters, digits and underscores, or `p`. -/
def stemOf (column : String) : String :=
  let kept := column.toList.filter Text.isNameChar
  if kept.isEmpty then "p" else .ofList kept

end ParamQuery
