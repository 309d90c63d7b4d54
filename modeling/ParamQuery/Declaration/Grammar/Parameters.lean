/-
The parameters of a declaration between angle brackets, and the conditions
that they have to meet.
-/
import ParamQuery.Declaration.Grammar.Type

namespace ParamQuery.Declaration.Grammar

/-- Reads a colon and the bounds behind it, if there is a colon. -/
def anyBounds (stop : List Token → Bool) (bound : Reader) : Reader := fun ts =>
  match skip ":" ts with
  | .some ts => chained stop "+" bound ts
  | .none => .some ts

/-- Where the bounds of a parameter end. -/
def endsParameter (ts : List Token) : Bool := atEnd ts || sees "," ts || sees ">" ts || sees "=" ts

/-- Reads a parameter: a lifetime, a type, or a constant, the last two perhaps with what they are
unless they are given. -/
def typeParameter (g : Grammar) : Reader := fun ts => do
  let ts ← g.attributes ts
  if seesLifetime ts then
    anyBounds (fun ts => atEnd ts || sees "," ts || sees ">" ts) skipLifetime ts.tail
  else if seesWord "const" ts then do
    let ts ← g.anyType (← skip ":" (← skipName ts.tail))
    match skip "=" ts with
    | .some ts => if seesName ts then .some ts.tail else g.constantArgument ts
    | .none => .some ts
  else if seesWord "_" ts then .some ts.tail
  else do
    let ts ← anyBounds endsParameter (g.bound ⟨false, true⟩) (← skipName ts)
    match skip "=" ts with
    | .some ts => g.anyType ts
    | .none => .some ts

/-- Where the conditions, or the bounds in one of them, end. -/
def endsCondition (ts : List Token) : Bool :=
  atEnd ts || seesBrace ts || sees "," ts || sees ";" ts || seesOnly ":" "::" ts || sees "=" ts

/-- Reads a condition on a lifetime or a type. -/
def conditionOn (g : Grammar) : Reader := fun ts =>
  if seesLifetime ts && sees ":" ts.tail then anyBounds endsCondition skipLifetime ts.tail
  else do
    let ts ← g.anyType (← g.anyBoundLifetimes ts)
    chained endsCondition "+" (g.bound ⟨false, true⟩) (← skip ":" ts)

/-- Reads what stands behind the name of a declaration: parameters, and conditions if they are
allowed. -/
def parametersAndConditions (g : Grammar) (conditions : Bool) : Reader := fun ts => do
  let ts ←
    match skip "<" ts with
    | .some ts => do skip ">" (← separated (sees ">") "," g.typeParameter ts)
    | .none => .some ts
  match skipWord "where" ts with
  | .some ts => if conditions then chained endsCondition "," g.conditionOn ts else .none
  | .none => .some ts

end ParamQuery.Declaration.Grammar
