/-
Where things end. Of types, patterns and expressions nothing is kept but
their extent: a reader takes the tokens from the beginning of a thing on
and gives the rest behind it, or nothing if they do not begin with one.

Types, patterns and expressions stand in each other. `Grammar` holds a
reader for each of them, and those of the other modules are made from it;
so each is a definition of its own, and the circle is closed in one place.
-/
import ParamQuery.Declaration.Token

namespace ParamQuery.Declaration

/-- Gives the rest behind what tokens begin with. -/
abbrev Reader := List Token → Option (List Token)

namespace Grammar

/-! ## Looking ahead -/

/-- Whether tokens begin with marks that are joined. -/
def startsWith : List Char → List Token → Bool
  | [c], .mark d _ :: _ => c == d
  | c :: cs, .mark d true :: ts => c == d && startsWith cs ts
  | _, _ => false

/-- Whether tokens begin with an operator. -/
def sees (op : String) (ts : List Token) : Bool := startsWith op.toList ts

/-- Whether tokens begin with the first operator and not with the second. -/
def seesOnly (op longer : String) (ts : List Token) : Bool := sees op ts && !sees longer ts

/-- Whether tokens begin with a word. -/
def seesWord (w : String) : List Token → Bool
  | .word v :: _ => v == w
  | _ => false

/-- Whether tokens begin with one of some words. -/
def seesWordOf (ws : List String) : List Token → Bool
  | .word v :: _ => ws.contains v
  | _ => false

/-- Whether tokens begin with a word of any kind. -/
def seesAnyWord : List Token → Bool
  | .word _ :: _ => true
  | _ => false

/-- Whether tokens begin with a name. -/
def seesName : List Token → Bool
  | .word w :: _ => Token.isName w
  | _ => false

/-- Whether tokens begin with a lifetime. -/
def seesLifetime : List Token → Bool
  | .lifetime :: _ => true
  | _ => false

/-- Whether tokens begin with a literal; a number may have a minus sign. -/
def seesLiteral : List Token → Bool
  | .text _ :: _ | .number _ :: _ | .literal :: _ => true
  | .word w :: _ => w == "true" || w == "false"
  | .mark '-' _ :: .number _ :: _ => true
  | _ => false

/-- Whether the brackets around tokens end here, or the tokens themselves. -/
def atEnd : List Token → Bool
  | [] => true
  | .mark c _ :: _ => Token.isCloser c
  | _ => false

/-! ## Readers -/

/-- Reads an operator. -/
def skip (op : String) : Reader := fun ts =>
  if sees op ts then .some (ts.drop op.length) else .none

/-- Reads an operator if there is one. -/
def skipAny (op : String) (ts : List Token) : List Token := (skip op ts).getD ts

/-- Reads a word. -/
def skipWord (w : String) : Reader := fun ts => if seesWord w ts then .some ts.tail else .none

/-- Reads a word if it is there. -/
def skipAnyWord (w : String) (ts : List Token) : List Token := (skipWord w ts).getD ts

/-- Reads a name. -/
def skipName : Reader := fun ts => if seesName ts then .some ts.tail else .none

/-- Reads a lifetime. -/
def skipLifetime : Reader := fun ts => if seesLifetime ts then .some ts.tail else .none

/-- Reads a lifetime if there is one. -/
def skipAnyLifetime (ts : List Token) : List Token := (skipLifetime ts).getD ts

/-- Reads a literal. -/
def skipLiteral : Reader := fun ts =>
  if !seesLiteral ts then .none
  else if sees "-" ts then .some (ts.drop 2)
  else .some ts.tail

/-- Reads brackets and whatever is in them. -/
def skipGroup : Reader
  | .mark c _ :: ts => if (Token.closerOf? c).isSome then Token.skipToCloser 0 ts else .none
  | _ => .none

/-- Reads brackets around what `content` reads. -/
def bracketed (opener closer : String) (content : Reader) : Reader := fun ts => do
  skip closer (← content (← skip opener ts))

/-- Reads round brackets. -/
def parenthesized (content : Reader) : Reader := bracketed "(" ")" content

/-- Reads square brackets. -/
def squared (content : Reader) : Reader := bracketed "[" "]" content

/-- Reads braces. -/
def braced (content : Reader) : Reader := bracketed "\x7b" "\x7d" content

/-- Whether tokens begin with a brace. -/
def seesBrace (ts : List Token) : Bool := sees "\x7b" ts

/-- Reads items as long as `more` is true. -/
def manyFrom (more : List Token → Bool) (item : Reader) : (fuel : Nat) → Reader
  | 0, _ => .none
  | fuel + 1, ts => if more ts then (item ts).bind (manyFrom more item fuel) else .some ts

/-- Reads items as long as `more` is true. -/
def many (more : List Token → Bool) (item : Reader) : Reader := fun ts =>
  manyFrom more item (ts.length + 1) ts

/-- Reads items with a separator between them, which may also follow the last one, up to where
`stop` is true. -/
def separatedFrom (stop : List Token → Bool) (separator : String) (item : Reader) :
    (fuel : Nat) → Reader
  | 0, _ => .none
  | fuel + 1, ts =>
    if stop ts then .some ts
    else do
      let ts ← item ts
      if stop ts then .some ts
      else separatedFrom stop separator item fuel (← skip separator ts)

/-- Reads items with a separator between them, which may also follow the last one, up to where
`stop` is true. -/
def separated (stop : List Token → Bool) (separator : String) (item : Reader) : Reader := fun ts =>
  separatedFrom stop separator item (ts.length + 1) ts

/-- Reads items as long as a separator stands behind each, up to where `stop` is true or the
separator is missing. -/
def chainedFrom (stop : List Token → Bool) (separator : String) (item : Reader) :
    (fuel : Nat) → Reader
  | 0, _ => .none
  | fuel + 1, ts =>
    if stop ts then .some ts
    else do
      let ts ← item ts
      match skip separator ts with
      | .some ts => chainedFrom stop separator item fuel ts
      | .none => .some ts

/-- Reads items as long as a separator stands behind each, up to where `stop` is true or the
separator is missing. -/
def chained (stop : List Token → Bool) (separator : String) (item : Reader) : Reader := fun ts =>
  chainedFrom stop separator item (ts.length + 1) ts

/-- Reads items with commas, up to the end of the brackets. -/
def listed (item : Reader) : Reader := separated atEnd "," item

end Grammar

/-! ## What is found -/

/-- What kind of a type was found, so far as it decides what may follow. -/
inductive TypeKind where
  /-- One name, perhaps with arguments in angle brackets. -/
  | name
  /-- Another path that is no member of a type. -/
  | path
  /-- One bound without a word in front. -/
  | bound
  | parenthesized
  | other
  deriving DecidableEq, Repr

/-- What kind of a pattern was found. -/
inductive PatternKind where
  /-- A range that lacks an end. -/
  | halfRange
  | other
  deriving DecidableEq, Repr

/-- What kind of an expression was found. -/
inductive Operand where
  | range
  | comparison
  /-- One that ends in a block, and stands as a statement by itself. -/
  | blockLike
  /-- A call of a macro with braces. -/
  | bracedCall
  | plain
  deriving DecidableEq, Repr

/-- How strongly an operator binds, from the weakest. -/
inductive Level where
  | jump
  | assign
  | range
  | or
  | and
  | compare
  | bitOr
  | bitXor
  | bitAnd
  | shift
  | sum
  | product
  | cast
  deriving DecidableEq, Repr

/-- The place of a level among the others. -/
def Level.rank : Level → Nat
  | .jump => 0
  | .assign => 1
  | .range => 2
  | .or => 3
  | .and => 4
  | .compare => 5
  | .bitOr => 6
  | .bitXor => 7
  | .bitAnd => 8
  | .shift => 9
  | .sum => 10
  | .product => 11
  | .cast => 12

/-- Which bounds a place allows beside lifetimes and traits. -/
structure BoundRule where
  captures : Bool
  constants : Bool
  deriving DecidableEq, Repr

/-- Readers for what stands in other things. -/
structure Grammar where
  /-- A type; `sums` says whether bounds may be added to it. -/
  type (sums : Bool) : List Token → Option (TypeKind × List Token)
  /-- A bound. -/
  bound (rule : BoundRule) : Reader
  /-- A pattern without alternatives. -/
  pattern : List Token → Option (PatternKind × List Token)
  /-- An expression; `braces` says whether a brace behind a path belongs to it. -/
  expression (braces : Bool) : List Token → Option (Operand × List Token)
  /-- An operand with the marks in front of it and what is appended to it. -/
  operand (braces : Bool) : List Token → Option (Operand × List Token)
  /-- The operators of level `floor` or above, and their operands, behind an operand. -/
  operators (braces : Bool) (floor : Level) : Operand → List Token → Option (Operand × List Token)
  /-- Behind the operand of an operator of some level, those that bind it more strongly. -/
  tighter (braces : Bool) (level : Level) : Operand → List Token → Option (Operand × List Token)
  /-- An expression that stands as a statement or an arm. -/
  standing : List Token → Option (Operand × List Token)
  /-- The statements of a block. -/
  statements : Reader

namespace Grammar

/-- The grammar that reads nothing. -/
def none : Grammar where
  type _ _ := .none
  bound _ _ := .none
  pattern _ := .none
  expression _ _ := .none
  operand _ _ := .none
  operators _ _ _ _ := .none
  tighter _ _ _ _ := .none
  standing _ := .none
  statements _ := .none

/-- Reads a type to which bounds may be added. -/
def anyType (g : Grammar) : Reader := fun ts => (g.type true ts).map (·.2)

/-- Reads a type to which no bounds are added. -/
def simpleType (g : Grammar) : Reader := fun ts => (g.type false ts).map (·.2)

/-- Reads an expression. -/
def anyExpression (g : Grammar) : Reader := fun ts => (g.expression true ts).map (·.2)

/-- Reads an expression which a brace ends. -/
def condition (g : Grammar) : Reader := fun ts => (g.expression false ts).map (·.2)

/-- Reads a block. -/
def block (g : Grammar) : Reader := braced g.statements

/-! ## Attributes -/

/-- The words of a path without arguments, and the rest. -/
def plainPathFrom : List Token → Option (List String × List Token)
  | .word w :: .mark ':' true :: .mark ':' _ :: ts =>
    if Token.isPathWord w then (plainPathFrom ts).map fun (ws, ts) => (w :: ws, ts) else .none
  | .word w :: ts => if Token.isPathWord w then .some ([w], ts) else .none
  | _ => .none

/-- A path without arguments; two colons in front are its first word. -/
def plainPath (ts : List Token) : Option (List String × List Token) :=
  match skip "::" ts with
  | .some ts => (plainPathFrom ts).map fun (ws, ts) => ("::" :: ws, ts)
  | .none => plainPathFrom ts

/-- The path that an attribute begins with. -/
def attributePath (ts : List Token) : Option (List String × List Token) :=
  match skipWord "unsafe" ts with
  | .some ts => .some (["unsafe"], ts)
  | .none => plainPath ts

/-- Reads the value of an attribute, which no attribute precedes. -/
def attributeValue (g : Grammar) : Reader := fun ts =>
  if sees "#" ts && sees "[" ts.tail then .none else g.anyExpression ts

/-- Reads what an attribute says. -/
def attributeContent (g : Grammar) : Reader := fun ts => do
  let (_, ts) ← attributePath ts
  if sees "(" ts || sees "[" ts || seesBrace ts then skipGroup ts
  else
    match skip "=" ts with
    | .some ts => g.attributeValue ts
    | .none => .some ts

/-- Reads the attributes of what follows. -/
def attributes (g : Grammar) : Reader :=
  many (sees "#") fun ts => do squared g.attributeContent (← skip "#" ts)

/-- Reads the attributes of what they stand in. -/
def innerAttributes (g : Grammar) : Reader :=
  many (fun ts => sees "#" ts && sees "!" ts.tail) fun ts => do
    squared g.attributeContent (← skip "!" (← skip "#" ts))

end Grammar

end ParamQuery.Declaration
