/-
The grammar with the circle closed: what stands in a thing is read by the
grammar of one depth less.
-/
import ParamQuery.Declaration.Grammar.Parameters
import ParamQuery.Declaration.Grammar.Statement

namespace ParamQuery.Declaration.Grammar

/-- The grammar of things that stand in each other at most `depth` times. -/
def ofDepth : (depth : Nat) → Grammar
  | 0 => none
  | depth + 1 =>
    let g := ofDepth depth
    { type := g.typeOf
      bound := g.boundOf
      pattern := g.patternOf
      expression := g.expressionOf
      operand := g.operandOf
      operators := g.operatorsOf
      tighter := g.tighterOf
      standing := g.standingOf
      statements := g.statementsOf }

/-- The grammar that reads some tokens: from a thing to one in it or behind it there are at most
eight steps without a token. -/
def forTokens (ts : List Token) : Grammar := ofDepth (8 * ts.length + 8)

/-- Whether tokens are nothing but what a reader reads. -/
def isAll (reader : Grammar → Reader) (ts : List Token) : Bool :=
  reader (forTokens ts) ts == .some []

end ParamQuery.Declaration.Grammar
