/-
Paths and types: paths with arguments in angle brackets, tuples, arrays,
pointers, references, functions, and bounds that are added up.
-/
import ParamQuery.Declaration.Grammar.Basic

namespace ParamQuery.Declaration.Grammar

/-! ## Arguments in angle brackets -/

/-- Reads a block or a literal in the place of a type. -/
def constantArgument (g : Grammar) : Reader := fun ts =>
  if seesLiteral ts then skipLiteral ts else g.block ts

/-- Whether tokens begin with a constant in the place of a type. -/
def seesConstant (ts : List Token) : Bool := seesLiteral ts || seesBrace ts

/-- Reads the lifetimes that a word in front of a type binds. -/
def boundLifetimes (g : Grammar) : Reader := fun ts => do
  let ts ← skip "<" (← skipWord "for" ts)
  let ts ← separated (sees ">") "," (fun ts => do skipLifetime (← g.attributes ts)) ts
  skip ">" ts

/-- Reads the lifetimes that a word in front of a type binds, if it is there. -/
def anyBoundLifetimes (g : Grammar) : Reader := fun ts =>
  if seesWord "for" ts then g.boundLifetimes ts else .some ts

/-! ## Paths -/

/-- What is known of a path: whether no part of it has arguments, whether its last part has none,
and whether it is a single part. -/
structure PathShape where
  plain : Bool
  lastPlain : Bool
  single : Bool
  deriving DecidableEq, Repr

/-- Whether arguments in angle brackets come next; in an expression two colons stand in front. -/
def seesArguments (inExpression : Bool) (ts : List Token) : Bool :=
  (!inExpression && sees "<" ts && !sees "<=" ts && !sees "<<=" ts) ||
    (sees "::" ts && sees "<" (ts.drop 2))

/-- Whether two colons and a round bracket come next. -/
def seesCallColons (ts : List Token) : Bool := sees "::" ts && sees "(" (ts.drop 2)

/-- Whether round brackets that belong to a path come next. -/
def seesParameters (ts : List Token) : Bool := sees "(" ts || seesCallColons ts

/-- Reads what stands in the place of a type between angle brackets: a lifetime, a constant, a type,
or a name with what it is equal to or bound by. -/
def argument (g : Grammar) : Reader := fun ts =>
  if seesLifetime ts && !sees "+" ts.tail then skipLifetime ts
  else if seesConstant ts then g.constantArgument ts
  else do
    let (kind, ts) ← g.type true ts
    if kind ≠ .name then .some ts
    else
      match skip "=" ts with
      | .some ts => if seesConstant ts then g.constantArgument ts else g.anyType ts
      | .none =>
        match skip ":" ts with
        | .some ts => chained (fun ts => sees "," ts || sees ">" ts) "+" (g.bound ⟨false, true⟩) ts
        | .none => .some ts

/-- Reads angle brackets and the arguments in them. -/
def angleArguments (g : Grammar) : Reader := fun ts => do
  skip ">" (← separated (sees ">") "," g.argument (← skip "<" (skipAny "::" ts)))

/-- Reads a part of a path, and tells whether it has no arguments. -/
def pathPart (g : Grammar) (inExpression : Bool) (ts : List Token) : Option (Bool × List Token) :=
  if seesWordOf ["super", "self", "crate", "try"] ts then .some (true, ts.tail)
  else do
    let ts ← if seesWord "Self" ts then .some ts.tail else skipName ts
    if seesArguments inExpression ts then (g.angleArguments ts).map (false, ·)
    else .some (true, ts)

/-- Reads the further parts of a path. -/
def pathParts (g : Grammar) (inExpression : Bool) :
    (fuel : Nat) → PathShape → List Token → Option (PathShape × List Token)
  | 0, _, _ => .none
  | fuel + 1, p, ts =>
    if sees "::" ts && !seesCallColons ts then do
      let (plain, ts) ← g.pathPart inExpression (ts.drop 2)
      pathParts g inExpression fuel ⟨p.plain && plain, plain, false⟩ ts
    else .some (p, ts)

/-- Reads a path. -/
def path (g : Grammar) (inExpression : Bool) (ts : List Token) :
    Option (PathShape × List Token) := do
  let (plain, rest) ← g.pathPart inExpression (skipAny "::" ts)
  g.pathParts inExpression (rest.length + 1) ⟨plain, plain, !sees "::" ts⟩ rest

/-- Reads the further parts of a path that begins with a type. -/
def memberPath (g : Grammar) (inExpression : Bool) :
    (fuel : Nat) → List Token → Option (Bool × List Token)
  | 0, _ => .none
  | fuel + 1, ts => do
    let (plain, ts) ← g.pathPart inExpression (← skip "::" ts)
    if sees "::" ts then memberPath g inExpression fuel ts else .some (plain, ts)

/-- Reads a path that may begin with a type in angle brackets, and tells whether it does. -/
def qualifiedPath (g : Grammar) (inExpression : Bool) (ts : List Token) :
    Option ((Bool × PathShape) × List Token) :=
  match skip "<" ts with
  | .some ts => do
    let ts ← g.anyType ts
    let ts ←
      match skipWord "as" ts with
      | .some ts => (g.path false ts).map (·.2)
      | .none => .some ts
    let ts ← skip ">" ts
    let (plain, ts) ← g.memberPath inExpression (ts.length + 1) ts
    .some ((true, ⟨false, plain, false⟩), ts)
  | .none => (g.path inExpression ts).map fun (p, ts) => ((false, p), ts)

/-! ## Bounds -/

/-- Reads the type that an arrow points to, if there is an arrow. -/
def result (g : Grammar) (sums : Bool) (ts : List Token) : Option (TypeKind × List Token) :=
  match skip "->" ts with
  | .some ts => g.type sums ts
  | .none => .some (.other, ts)

/-- Reads round brackets with types in them, and the type that an arrow points to, and tells whether
a path may go on behind them. -/
def parameters (g : Grammar) (ts : List Token) : Option (Bool × List Token) := do
  let ts ← parenthesized (listed g.anyType) (skipAny "::" ts)
  let (kind, rest) ← g.result false ts
  .some (!sees "->" ts || kind = .parenthesized, rest)

/-- Reads a trait that is a bound; a place that allows it has a word for constants in front. -/
def traitBound (g : Grammar) (constants : Bool) : Reader := fun ts => do
  let bindsLifetimes := seesWord "for" ts
  let ts ← g.anyBoundLifetimes ts
  let ts ←
    if sees "[" ts then if constants then squared (skipWord "const") ts else .none
    else if seesWord "const" ts then if constants then .some ts.tail else .none
    else .some ts
  if sees "?" ts && bindsLifetimes then .none
  let (shape, ts) ← g.path false (skipAny "?" ts)
  if shape.lastPlain && seesParameters ts then (g.parameters ts).map (·.2) else .some ts

/-- Reads a bound: a lifetime, the lifetimes that are captured, or a trait, perhaps in brackets. -/
def boundOf (g : Grammar) (rule : BoundRule) : Reader := fun ts =>
  if seesLifetime ts then skipLifetime ts
  else if seesWord "use" ts then
    if rule.captures then do
      let name : Reader := fun ts =>
        if seesLifetime ts || seesAnyWord ts then .some ts.tail else .none
      skip ">" (← separated (sees ">") "," name (← skip "<" ts.tail))
    else .none
  else if sees "(" ts then parenthesized (g.traitBound rule.constants) ts
  else g.traitBound rule.constants ts

/-- Whether a further bound begins. -/
def startsBound (rule : BoundRule) (ts : List Token) : Bool :=
  seesAnyWord ts || sees "::" ts || sees "?" ts || seesLifetime ts || sees "(" ts ||
    (rule.constants && sees "[" ts)

/-- Reads bounds, if there may be several, and tells whether one of them is a trait. -/
def boundsFrom (g : Grammar) (rule : BoundRule) (sums : Bool) :
    (fuel : Nat) → List Token → Option (Bool × List Token)
  | 0, _ => .none
  | fuel + 1, ts => do
    let isTrait := !seesLifetime ts && !seesWord "use" ts
    let ts ← g.bound rule ts
    if sums && sees "+" ts && startsBound rule (ts.drop 1) then
      (boundsFrom g rule sums fuel (ts.drop 1)).map fun (b, ts) => (isTrait || b, ts)
    else .some (isTrait, if sums then skipAny "+" ts else ts)

/-- Reads bounds, one of which must be a trait. -/
def bounds (g : Grammar) (rule : BoundRule) (sums : Bool) : Reader := fun ts => do
  let (anyTrait, ts) ← g.boundsFrom rule sums (ts.length + 1) ts
  if anyTrait then .some ts else .none

/-- Reads bounds that are added to a path, the last plus sign of which may add nothing. -/
def addedBoundsFrom (g : Grammar) : (fuel : Nat) → Reader
  | 0, _ => .none
  | fuel + 1, ts =>
    match skip "+" ts with
    | .none => .some ts
    | .some ts =>
      if startsBound ⟨false, false⟩ ts then do
        addedBoundsFrom g fuel (← g.bound ⟨false, false⟩ ts)
      else .some ts

/-- Reads bounds that are added to something in brackets. -/
def addedBounds (g : Grammar) : Reader :=
  many (sees "+") fun ts => g.bound ⟨false, false⟩ (ts.drop 1)

/-! ## Types -/

/-- Reads the parameter of a function type, which may have a name. -/
def parameter (g : Grammar) : Reader := fun ts => do
  let ts ← g.attributes ts
  let named := (seesName ts || seesWordOf ["_", "self"] ts) && seesOnly ":" "::" ts.tail
  let ts := if named then ts.drop 2 else ts
  if sees "..." ts then .some (ts.drop 3) else g.anyType ts

/-- Reads the type of a function. -/
def functionType (g : Grammar) : Reader := fun ts => do
  let ts := skipAnyWord "unsafe" ts
  let ts :=
    match skipWord "extern" ts with
    | .some (.text _ :: ts) => ts
    | .some ts => ts
    | .none => ts
  let ts ← parenthesized (listed g.parameter) (← skipWord "fn" ts)
  (g.result false ts).map (·.2)

/-- Reads the type of a path. -/
def pathTypeFrom (g : Grammar) :
    (fuel : Nat) → PathShape → List Token → Option (PathShape × List Token)
  | 0, _, _ => .none
  | fuel + 1, p, ts =>
    if p.lastPlain && seesParameters ts then do
      let (further, ts) ← g.parameters ts
      if further then do
        let (p, ts) ← g.pathParts false (ts.length + 1) ⟨false, false, false⟩ ts
        pathTypeFrom g fuel p ts
      else .some (⟨false, false, false⟩, ts)
    else .some (p, ts)

/-- Reads a type that begins as a path: a path, a call of a macro, or bounds. -/
def pathType (g : Grammar) (sums bindsLifetimes : Bool) (ts : List Token) :
    Option (TypeKind × List Token) := do
  let ((isMember, shape), ts) ← g.qualifiedPath false ts
  let (shape, ts) ← g.pathTypeFrom (ts.length + 1) shape ts
  if isMember then .some (.other, ts)
  else if seesOnly "!" "!=" ts && shape.plain then (skipGroup (ts.drop 1)).map (.other, ·)
  else if bindsLifetimes || (sums && sees "+" ts) then
    if sums && sees "+" ts then (g.addedBoundsFrom (ts.length + 1) ts).map (.other, ·)
    else .some (.bound, ts)
  else .some (if shape.single then .name else .path, ts)

/-- Reads a type that begins with a round bracket. -/
def bracketType (g : Grammar) (sums : Bool) (ts : List Token) :
    Option (TypeKind × List Token) := do
  let inner ← skip "(" ts
  if sees ")" inner then .some (.other, inner.drop 1)
  else if seesLifetime inner then
    (skip ")" (← g.bounds ⟨false, true⟩ true inner)).map (.parenthesized, ·)
  else if sees "?" inner then do
    let ts ← skip ")" (← g.traitBound false inner)
    if sees "+" ts then (g.addedBounds ts).map (.other, ·) else .some (.bound, ts)
  else do
    let (kind, ts) ← g.type true inner
    match skip "," ts with
    | .some ts => (skip ")" (← listed g.anyType ts)).map (.other, ·)
    | .none => do
      let ts ← skip ")" ts
      if sums && sees "+" ts && (kind = .name || kind = .path || kind = .bound) then
        (g.addedBounds ts).map (.other, ·)
      else .some (.parenthesized, ts)

/-- Reads a list type or an array type. -/
def arrayType (g : Grammar) : Reader :=
  squared fun ts => do
    let ts ← g.anyType ts
    match skip ";" ts with
    | .some ts => g.anyExpression ts
    | .none => .some ts

/-- Whether a path type begins. -/
def startsPathType (ts : List Token) : Bool :=
  seesName ts || seesWordOf Token.pathWords ts || sees "::" ts || sees "<" ts

/-- Whether a function type begins. -/
def startsFunctionType (ts : List Token) : Bool := seesWordOf ["fn", "unsafe", "extern"] ts

/-- Reads a type. -/
def typeOf (g : Grammar) (sums : Bool) (ts : List Token) : Option (TypeKind × List Token) :=
  if seesWord "for" ts then do
    let ts ← g.boundLifetimes ts
    if startsFunctionType ts then (g.functionType ts).map (.other, ·)
    else if seesName ts || seesWordOf Token.pathWords ts then g.pathType sums true ts
    else .none
  else if sees "(" ts then g.bracketType sums ts
  else if startsFunctionType ts then (g.functionType ts).map (.other, ·)
  else if startsPathType ts then g.pathType sums false ts
  else if seesWord "dyn" ts then
    (g.bounds ⟨false, true⟩ sums (skipAny "*" ts.tail)).map (.other, ·)
  else if sees "[" ts then (g.arrayType ts).map (.other, ·)
  else if sees "*" ts then
    if seesWordOf ["const", "mut"] ts.tail then (g.simpleType (ts.drop 2)).map (.other, ·)
    else .none
  else if sees "&" ts then
    (g.simpleType (skipAnyWord "mut" (skipAnyLifetime ts.tail))).map (.other, ·)
  else if sees "!" ts then .some (.other, ts.tail)
  else if seesWord "impl" ts then (g.bounds ⟨true, true⟩ sums ts.tail).map (.other, ·)
  else if seesWord "_" ts then .some (.other, ts.tail)
  else if seesLifetime ts then (g.bounds ⟨false, true⟩ true ts).map (.other, ·)
  else .none

end ParamQuery.Declaration.Grammar
