/-
Statements: declarations of variables, calls of macros, expressions, and
items. Of an item nothing but its extent is looked at.
-/
import ParamQuery.Declaration.Grammar.Expression

namespace ParamQuery.Declaration.Grammar

/-! ## Items -/

/-- The rest behind the tokens up to a semicolon that stands in no brackets, or, if `body`, behind
the first braces. -/
def skipItem (body : Bool) : (fuel : Nat) → Reader
  | 0, _ => .none
  | _, [] => .none
  | fuel + 1, t :: ts =>
    if sees ";" (t :: ts) then .some ts
    else if body && seesBrace (t :: ts) then skipGroup (t :: ts)
    else
      match t with
      | .mark c _ =>
        if (Token.closerOf? c).isSome then (skipGroup (t :: ts)).bind (skipItem body fuel)
        else if Token.isCloser c then .none
        else skipItem body fuel ts
      | _ => skipItem body fuel ts

/-- Whether an item begins. -/
def startsItem (ts : List Token) : Bool :=
  let next := ts.tail
  seesWordOf ["pub", "extern", "use", "fn", "mod", "type", "struct", "enum", "trait", "impl",
      "macro"] ts ||
    (seesWord "crate" ts && !sees "::" next) ||
    (seesWord "static" ts && (seesWord "mut" next || seesName next)) ||
    (seesWord "const" ts &&
      !(seesBrace next || seesWordOf ["static", "move"] next || sees "|" next ||
        (seesWord "async" next && !seesWordOf ["unsafe", "extern", "fn"] next.tail))) ||
    (seesWord "unsafe" ts && !seesBrace next) ||
    (seesWord "async" ts && seesWordOf ["unsafe", "extern", "fn"] next) ||
    (seesWord "union" ts && seesName next) || (seesWord "auto" ts && seesWord "trait" next) ||
    (seesWord "default" ts && seesWordOf ["unsafe", "impl"] next)

/-- The rest behind the word that tells who may use an item. -/
def skipVisibility (ts : List Token) : List Token :=
  match skipWord "pub" ts with
  | .some ts => if sees "(" ts then (skipGroup ts).getD ts else ts
  | .none => skipAnyWord "crate" ts

/-- Reads an item. -/
def item : Reader := fun ts =>
  let ts := skipVisibility ts
  let semicolon :=
    seesWordOf ["use", "type", "static"] ts ||
      (seesWord "const" ts && !seesWordOf ["fn", "unsafe", "async", "extern"] ts.tail)
  skipItem (!semicolon) (ts.length + 1) ts

/-! ## Statements -/

/-- Whether the tokens in front of `rest` end with a brace. -/
def endsWithBrace (ts rest : List Token) : Bool :=
  match (ts.take (ts.length - rest.length)).getLast? with
  | .some (.mark c _) => c == '\x7d'
  | _ => false

/-- Reads the declaration of a variable. A block for the other case follows only a value that ends
with no brace. -/
def declaration (g : Grammar) : Reader := fun ts => do
  let (_, ts) ← g.pattern (← skipWord "let" ts)
  let ts ←
    match skip ":" ts with
    | .some ts => g.anyType ts
    | .none => .some ts
  match skip "=" ts with
  | .none => skip ";" ts
  | .some ts => do
    let rest ← g.anyExpression ts
    match skipWord "else" rest with
    | .some other =>
      if endsWithBrace ts rest then .none else do skip ";" (← g.block other)
    | .none => skip ";" rest

/-- Reads a call of a macro with braces that is a statement: nothing is appended to it. -/
def macroStatement : Reader := fun ts => do
  let (_, ts) ← plainPath ts
  let ts ← skip "!" ts
  if !seesBrace ts then .none
  let ts ← skipGroup ts
  if seesOnly "." ".." ts || sees "?" ts then .none else .some (skipAny ";" ts)

/-- Whether a macro is called that makes an item with a name. -/
def startsNamedMacro (ts : List Token) : Bool :=
  match plainPath ts with
  | .some (_, ts) => sees "!" ts && (seesName ts.tail || seesWord "try" ts.tail)
  | .none => false

/-- Reads a statement, and tells whether another may follow it. -/
def statement (g : Grammar) (ts : List Token) : Option (Bool × List Token) := do
  let ts ← g.attributes ts
  if startsNamedMacro ts then (item ts).map (true, ·)
  else
    match macroStatement ts with
    | .some ts => .some (true, ts)
    | .none =>
      if seesWord "let" ts then (g.declaration ts).map (true, ·)
      else if startsItem ts then (item ts).map (true, ·)
      else do
        let (kind, ts) ← g.standing ts
        match skip ";" ts with
        | .some ts => .some (true, ts)
        | .none => .some (kind = .blockLike || kind = .bracedCall, ts)

/-- Reads the statements of a block up to its end. -/
def statementsFrom (g : Grammar) : (fuel : Nat) → Reader
  | 0, _ => .none
  | fuel + 1, ts => do
    let ts ← many (sees ";") (skip ";") ts
    if atEnd ts then .some ts
    else do
      let (another, ts) ← g.statement ts
      if atEnd ts then .some ts
      else if another then statementsFrom g fuel ts
      else .none

/-- Reads the statements of a block up to its end. -/
def statementsOf (g : Grammar) : Reader := fun ts => g.statementsFrom (ts.length + 1) ts

end ParamQuery.Declaration.Grammar
