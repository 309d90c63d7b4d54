/-
Expressions: operands, what is appended to them, and operators by their
strength. Operators that compare cannot be chained, and a range is no
operand of another operator without brackets.
-/
import ParamQuery.Declaration.Grammar.Pattern

namespace ParamQuery.Declaration.Grammar

/-! ## Operators -/

/-- Operators between two operands, the longest first. -/
def binaryOperators : List (String × Level) :=
  [("<<=", .assign), (">>=", .assign), ("+=", .assign), ("-=", .assign), ("*=", .assign),
    ("/=", .assign), ("%=", .assign), ("^=", .assign), ("&=", .assign), ("|=", .assign),
    ("&&", .and), ("||", .or), ("<<", .shift), (">>", .shift), ("==", .compare), ("<=", .compare),
    ("!=", .compare), (">=", .compare), ("+", .sum), ("-", .sum), ("*", .product), ("/", .product),
    ("%", .product), ("^", .bitXor), ("&", .bitAnd), ("|", .bitOr), ("<", .compare),
    (">", .compare)]

/-- The level of the operator that comes next, and the rest behind it. -/
def binaryOperator? (ts : List Token) : Option (Level × List Token) :=
  binaryOperators.findSome? fun (op, level) => (skip op ts).map (level, ·)

/-- Whether an assignment comes next. -/
def seesAssignment (ts : List Token) : Bool := seesOnly "=" "=>" ts

/-- The level of what comes next. -/
def nextLevel (ts : List Token) : Level :=
  match binaryOperator? ts with
  | .some (level, _) => level
  | .none =>
    if seesAssignment ts then .assign
    else if sees ".." ts then .range
    else if seesWord "as" ts then .cast
    else .jump

/-- Reads the operand behind an operator, with all that binds it more strongly. -/
def rightOperand (g : Grammar) (braces : Bool) (level : Level) : Reader := fun ts => do
  let (kind, ts) ← g.operand braces ts
  (g.tighter braces level kind ts).map (·.2)

/-- Behind the operand of an operator of some level, reads those that bind it more strongly. An
assignment binds what follows it first. -/
def tighterOf (g : Grammar) (braces : Bool) (level : Level) (kind : Operand) (ts : List Token) :
    Option (Operand × List Token) :=
  let next := nextLevel ts
  if level.rank < next.rank || (next = .assign && level = .assign) then do
    let (kind, rest) ← g.operators braces next kind ts
    if rest.length < ts.length then g.tighter braces level kind rest else .some (kind, rest)
  else .some (kind, ts)

/-- Whether a range ends with its mark. -/
def endsRange (braces : Bool) (ts : List Token) : Bool :=
  atEnd ts || sees "," ts || sees ";" ts || seesOnly "." ".." ts || sees "?" ts || sees "=>" ts ||
    (!braces && seesBrace ts) || sees "=" ts || sees "+" ts || sees "/" ts || sees "%" ts ||
    sees "^" ts || sees ">" ts || sees "<=" ts || sees "!=" ts || sees "-=" ts || sees "*=" ts ||
    sees "&=" ts || sees "|=" ts || sees "<<=" ts || seesWord "as" ts

/-- Reads a range from its mark on. -/
def range (g : Grammar) (braces : Bool) : Reader := fun ts => do
  let (closed, ts) ← rangeMark ts
  if !closed && endsRange braces ts then .some ts else g.rightOperand braces .range ts

/-- Whether something is appended that a cast does not take. -/
def seesAppended (ts : List Token) : Bool :=
  seesOnly "." ".." ts || sees "?" ts || sees "[" ts || sees "(" ts

/-- Behind an operand, reads the operators of level `floor` or above, and their operands. -/
def operatorsOf (g : Grammar) (braces : Bool) (floor : Level) (kind : Operand) (ts : List Token) :
    Option (Operand × List Token) :=
  if kind = .range then .some (kind, ts)
  else
    match binaryOperator? ts with
    | .some (level, rest) =>
      if level.rank < floor.rank then .some (kind, ts)
      else if level = .compare && kind = .comparison then .none
      else do
        let ts ← g.rightOperand braces level rest
        g.operators braces floor (if level = .compare then .comparison else .plain) ts
    | .none =>
      if floor.rank ≤ Level.assign.rank && seesAssignment ts then do
        g.operators braces floor .plain (← g.rightOperand braces .assign (ts.drop 1))
      else if floor.rank ≤ Level.range.rank && sees ".." ts then
        (g.range braces ts).map (.range, ·)
      else if floor.rank ≤ Level.cast.rank && seesWord "as" ts then do
        let ts ← g.simpleType ts.tail
        if seesAppended ts then .none else g.operators braces floor .plain ts
      else .some (kind, ts)

/-- Reads an expression. -/
def expressionOf (g : Grammar) (braces : Bool) (ts : List Token) :
    Option (Operand × List Token) := do
  let (kind, ts) ← g.operand braces ts
  g.operators braces .jump kind ts

/-! ## What is appended to an operand -/

/-- Whether a number with a point or an exponent is nothing but places of members. -/
def isIndices (written : List Char) : Bool :=
  let whole := if written.getLast? = .some '.' then written.dropLast else written
  ((String.ofList whole).splitOn ".").all (isIndex ·.toList)

/-- Reads a word for waiting, a member, or a call of a method, from behind the point on. -/
def selected (g : Grammar) : Reader
  | .number n :: ts => if isIndex n.toList then .some ts else .none
  | .word "await" :: ts => .some ts
  | ts => do
    let ts ← skipName ts
    if sees "::" ts then do parenthesized (listed g.anyExpression) (← g.angleArguments ts)
    else .some ts

/-- Reads what a point selects. A number with a point in it selects a member of a member. -/
def selection (g : Grammar) : Reader
  | .number n :: ts =>
    if !isIndices n.toList then .none
    else if n.endsWith "." then g.selected ts
    else .some ts
  | ts => g.selected ts

/-- Reads what is appended to an operand: calls, members, places and question marks. -/
def appendedFrom (g : Grammar) :
    (fuel : Nat) → Operand → List Token → Option (Operand × List Token)
  | 0, _, _ => .none
  | fuel + 1, kind, ts =>
    if sees "(" ts then do
      appendedFrom g fuel .plain (← parenthesized (listed g.anyExpression) ts)
    else if seesOnly "." ".." ts && kind ≠ .range then do
      appendedFrom g fuel .plain (← g.selection ts.tail)
    else if sees "[" ts then do appendedFrom g fuel .plain (← squared g.anyExpression ts)
    else if sees "?" ts && kind ≠ .range then appendedFrom g fuel .plain ts.tail
    else .some (kind, ts)

/-- Reads what is appended to an operand. -/
def appended (g : Grammar) (kind : Operand) (ts : List Token) : Option (Operand × List Token) :=
  g.appendedFrom (ts.length + 1) kind ts

/-! ## Paths and brackets -/

/-- Reads a field that is given a value. -/
def fieldValue (g : Grammar) : Reader := fun ts => do
  let (named, ts) ← member (← g.attributes ts)
  if sees ":" ts || !named then g.anyExpression (← skip ":" ts) else .some ts

/-- Reads fields that are given values, the last of which may be taken from another. -/
def fieldValues (g : Grammar) : (fuel : Nat) → Reader
  | 0, _ => .none
  | fuel + 1, ts =>
    if atEnd ts then .some ts
    else if sees ".." ts then
      if atEnd (ts.drop 2) then .some (ts.drop 2) else g.anyExpression (ts.drop 2)
    else do
      let ts ← g.fieldValue ts
      if atEnd ts then .some ts else fieldValues g fuel (← skip "," ts)

/-- Reads a path, a call of a macro, or a structure. -/
def pathOperand (g : Grammar) (braces : Bool) (ts : List Token) :
    Option (Operand × List Token) := do
  let ((isMember, shape), ts) ← g.qualifiedPath true ts
  if !isMember && seesOnly "!" "!=" ts && shape.plain then
    (skipGroup (ts.drop 1)).map (if seesBrace (ts.drop 1) then .bracedCall else .plain, ·)
  else if braces && seesBrace ts then
    (braced (fun ts => g.fieldValues (ts.length + 1) ts) ts).map (.plain, ·)
  else .some (.plain, ts)

/-- Reads the items of a list: any number of them, or one and how often it is repeated. -/
def listItems (g : Grammar) : Reader := fun ts =>
  if atEnd ts then .some ts
  else do
    let ts ← g.anyExpression ts
    match skip ";" ts with
    | .some ts => g.anyExpression ts
    | .none => if atEnd ts then .some ts else listed g.anyExpression (← skip "," ts)

/-! ## Blocks -/

/-- Reads a block, which attributes may begin. -/
def attributedBlock (g : Grammar) : Reader :=
  braced fun ts => do g.statements (← g.innerAttributes ts)

/-- Reads a conditional. -/
def conditionalFrom (g : Grammar) : (fuel : Nat) → Reader
  | 0, _ => .none
  | fuel + 1, ts => do
    let ts ← g.block (← g.condition (← skipWord "if" ts))
    match skipWord "else" ts with
    | .none => .some ts
    | .some ts => if seesWord "if" ts then conditionalFrom g fuel ts else g.block ts

/-- Reads a conditional. -/
def conditional (g : Grammar) : Reader := fun ts => g.conditionalFrom (ts.length + 1) ts

/-- Reads a loop of one of three kinds. -/
def loop (g : Grammar) : Reader := fun ts =>
  if seesWord "while" ts then do g.attributedBlock (← g.condition ts.tail)
  else if seesWord "for" ts then do
    let ts ← skipWord "in" (← g.anyPattern ts.tail)
    g.attributedBlock (← g.condition ts)
  else do g.attributedBlock (← skipWord "loop" ts)

/-- Whether the lifetimes of a function come next, and no loop. -/
def seesBoundLifetimes (ts : List Token) : Bool :=
  seesWord "for" ts && sees "<" ts.tail && (seesLifetime (ts.drop 2) || sees ">" (ts.drop 2))

/-- Reads a loop or a block with a label. -/
def labelled (g : Grammar) : Reader := fun ts => do
  let ts ← skip ":" (← skipLifetime ts)
  if seesBrace ts then g.attributedBlock ts else g.loop ts

/-- Whether an expression begins that ends in a block and stands as a statement by itself. -/
def startsBlockLike (ts : List Token) : Bool :=
  seesWordOf ["if", "while", "loop", "match", "unsafe"] ts || seesBrace ts || seesLifetime ts ||
    (seesWord "for" ts && !seesBoundLifetimes ts) ||
    (seesWordOf ["try", "const"] ts && seesBrace ts.tail)

/-- Behind an expression that stands as a statement, reads what is appended to it: only a member or
a question mark goes on with one that ends in a block. -/
def goOn (g : Grammar) (kind : Operand) (ts : List Token) : Option (Operand × List Token) :=
  if kind ≠ .blockLike then g.operators true .jump kind ts
  else if seesOnly "." ".." ts || sees "?" ts then do
    let (kind, ts) ← g.appended kind ts
    g.operators true .jump kind ts
  else .some (kind, ts)

/-- Reads an arm of a choice. One that does not end in a block ends with a comma. -/
def arm (g : Grammar) : Reader := fun ts => do
  let ts ← g.anyPattern (← g.attributes ts)
  let ts ←
    match skipWord "if" ts with
    | .some ts => g.anyExpression ts
    | .none => .some ts
  let (kind, ts) ← g.standing (← skip "=>" ts)
  if kind ≠ .blockLike && !atEnd ts then skip "," ts else .some (skipAny "," ts)

/-- Reads a choice. -/
def choice (g : Grammar) : Reader := fun ts => do
  let ts ← g.condition (← skipWord "match" ts)
  braced (fun ts => do many (!atEnd ·) g.arm (← g.innerAttributes ts)) ts

/-- Reads an expression that ends in a block and stands as a statement by itself. -/
def blockLike (g : Grammar) : Reader := fun ts =>
  if seesWord "if" ts then g.conditional ts
  else if seesWord "match" ts then g.choice ts
  else if seesWord "try" ts then g.block ts.tail
  else if seesWordOf ["unsafe", "const"] ts then g.attributedBlock ts.tail
  else if seesBrace ts then g.attributedBlock ts
  else if seesLifetime ts then g.labelled ts
  else g.loop ts

/-- Reads an expression that stands as a statement or an arm. -/
def standingOf (g : Grammar) (ts : List Token) : Option (Operand × List Token) := do
  let ts ← g.attributes ts
  if startsBlockLike ts then do g.goOn .blockLike (← g.blockLike ts)
  else do
    let (kind, ts) ← g.operand true ts
    g.goOn kind ts

/-! ## Functions and jumps -/

/-- Whether a function without a name begins. -/
def startsFunction (ts : List Token) : Bool :=
  sees "|" ts || seesWordOf ["move", "static"] ts || seesBoundLifetimes ts ||
    (seesWord "const" ts && !seesBrace ts.tail) ||
    (seesWord "async" ts && (sees "|" ts.tail || seesWord "move" ts.tail))

/-- Reads a parameter of a function without a name. -/
def functionParameter (g : Grammar) : Reader := fun ts => do
  let (_, ts) ← g.pattern (← g.attributes ts)
  match skip ":" ts with
  | .some ts => g.anyType ts
  | .none => .some ts

/-- Reads a function without a name. One that names the type of its result has a block. -/
def function (g : Grammar) (braces : Bool) : Reader := fun ts => do
  let ts ← g.anyBoundLifetimes ts
  let ts := ["const", "static", "async", "move"].foldl (fun ts w => skipAnyWord w ts) ts
  let ts ← separated (sees "|") "," g.functionParameter (← skip "|" ts)
  let ts ← skip "|" ts
  match skip "->" ts with
  | .some ts => do g.block (← g.anyType ts)
  | .none => (g.expression braces ts).map (·.2)

/-- Whether an expression may begin. -/
def startsExpression (ts : List Token) : Bool :=
  seesAnyWord ts || sees "(" ts || sees "[" ts || seesBrace ts || seesLiteral ts ||
    seesOnly "!" "!=" ts || (sees "-" ts && !sees "-=" ts && !sees "->" ts) ||
    seesOnly "*" "*=" ts || seesOnly "|" "|=" ts || seesOnly "&" "&=" ts || sees ".." ts ||
    (sees "<" ts && !sees "<=" ts && !sees "<<=" ts) || sees "::" ts || seesLifetime ts ||
    sees "#" ts

/-- Reads an expression if one may begin. -/
def optionalExpression (g : Grammar) : Reader := fun ts =>
  if startsExpression ts then g.anyExpression ts else .some ts

/-- Reads a jump out of a loop or a block, which may have a label and a value. -/
def leave (g : Grammar) (braces : Bool) : Reader := fun ts =>
  let rest := skipAnyLifetime ts
  if seesLifetime ts && sees ":" rest then .none
  else if !braces && seesBrace rest then .some rest
  else g.optionalExpression rest

/-! ## Operands -/

/-- Whether a block that runs by itself begins. -/
def startsAsyncBlock (ts : List Token) : Bool :=
  seesWord "async" ts && seesBrace (skipAnyWord "move" ts.tail)

/-- Whether an operand begins as a path. -/
def startsPath (ts : List Token) : Bool :=
  startsPathType ts || (seesWord "try" ts && (sees "!" ts.tail || sees "::" ts.tail))

/-- Reads an operand without what is appended to it. -/
def bareOperand (g : Grammar) (braces : Bool) (ts : List Token) : Option (Operand × List Token) :=
  if seesLiteral ts then (skipLiteral ts).map (.plain, ·)
  else if startsAsyncBlock ts then (g.block (skipAnyWord "move" ts.tail)).map (.plain, ·)
  else if seesWord "try" ts && seesBrace ts.tail then (g.blockLike ts).map (.blockLike, ·)
  else if startsFunction ts then (g.function braces ts).map (.plain, ·)
  else if seesWord "builtin" ts && sees "#" ts.tail then do
    let ts ← skipName (ts.drop 2)
    if sees "(" ts then (skipGroup ts).map (.plain, ·) else .none
  else if startsPath ts then g.pathOperand braces ts
  else if sees "(" ts then (parenthesized (listed g.anyExpression) ts).map (.plain, ·)
  else if sees "[" ts then (squared g.listItems ts).map (.plain, ·)
  else if seesWord "break" ts then (g.leave braces ts.tail).map (.plain, ·)
  else if seesWord "continue" ts then .some (.plain, skipAnyLifetime ts.tail)
  else if seesWordOf ["return", "yield"] ts then (g.optionalExpression ts.tail).map (.plain, ·)
  else if seesWord "become" ts then (g.anyExpression ts.tail).map (.plain, ·)
  else if seesWord "let" ts then do
    let ts ← skip "=" (← g.anyPattern ts.tail)
    let (kind, ts) ← g.operand braces ts
    (g.operators braces .compare kind ts).map fun (_, ts) => (.plain, ts)
  else if startsBlockLike ts then (g.blockLike ts).map (.blockLike, ·)
  else if sees ".." ts then (g.range braces ts).map (.range, ·)
  else if seesWord "_" ts then .some (.plain, ts.tail)
  else .none

/-- Reads the rest of a reference, behind its mark. -/
def referred (g : Grammar) (braces : Bool) : Reader := fun ts =>
  let ts :=
    if seesWord "raw" ts && seesWordOf ["mut", "const"] ts.tail then ts.drop 2
    else skipAnyWord "mut" ts
  (g.operand braces ts).map (·.2)

/-- Reads an operand with the marks in front of it and what is appended to it. No attributes stand
before a range without a lower end. -/
def operandOf (g : Grammar) (braces : Bool) (ts : List Token) : Option (Operand × List Token) := do
  let attributed := sees "#" ts
  let ts ← g.attributes ts
  if sees "&" ts then (g.referred braces (ts.drop 1)).map (.plain, ·)
  else if sees "*" ts || sees "!" ts || sees "-" ts then
    (g.operand braces (ts.drop 1)).map fun (_, ts) => (.plain, ts)
  else do
    let (kind, ts) ← g.bareOperand braces ts
    let (kind, ts) ← g.appended kind ts
    if attributed && kind = .range then .none else .some (kind, ts)

end ParamQuery.Declaration.Grammar
