/-
The tokens that attributes of a declaration consist of: words, literals,
lifetimes and single marks. Of literals only strings and numbers keep their
text. A mark knows whether another follows it at once, as the marks of an
operator do; a bracket is a mark too.
-/
namespace ParamQuery.Declaration

/-- A token. -/
inductive Token where
  | word (name : String)
  /-- A string literal, with its escapes resolved. -/
  | text (s : String)
  /-- A number as it is written. -/
  | number (written : String)
  /-- Any other literal. -/
  | literal
  | lifetime
  /-- A mark, and whether another stands directly behind it. -/
  | mark (c : Char) (joined : Bool)
  deriving DecidableEq, Repr

namespace Token

/-- A mark behind which no other stands. -/
def single (c : Char) : Token := .mark c false

/-! ## Words -/

/-- Words that name nothing. -/
def reserved : List String :=
  ["_", "abstract", "as", "async", "await", "become", "box", "break", "const", "continue", "crate",
    "do", "dyn", "else", "enum", "extern", "false", "final", "fn", "for", "if", "impl", "in", "let",
    "loop", "macro", "match", "mod", "move", "mut", "override", "priv", "pub", "ref", "return",
    "Self", "self", "static", "struct", "super", "trait", "true", "try", "type", "typeof", "unsafe",
    "unsized", "use", "virtual", "where", "while", "yield"]

/-- Reserved words that stand in a path all the same. -/
def pathWords : List String := ["self", "Self", "super", "crate"]

/-- Whether a word can be the name of something. -/
def isName (w : String) : Bool := !reserved.contains w

/-- Whether a word can stand in a path. -/
def isPathWord (w : String) : Bool := isName w || pathWords.contains w

/-! ## Brackets -/

/-- The mark that closes what `c` opens. -/
def closerOf? (c : Char) : Option Char :=
  if c == '(' then .some ')'
  else if c == '[' then .some ']'
  else if c == '\x7b' then .some '\x7d'
  else .none

/-- Whether `c` closes a bracket. -/
def isCloser (c : Char) : Bool := c == ')' || c == ']' || c == '\x7d'

/-- Whether every bracket is closed by its like; `pending` are the marks that close those which
are open, the innermost first. -/
def balancedFrom (pending : List Char) : List Token → Bool
  | [] => pending.isEmpty
  | .mark c _ :: ts =>
    match closerOf? c with
    | .some closer => balancedFrom (closer :: pending) ts
    | .none =>
      if isCloser c then
        match pending with
        | [] => false
        | p :: pending => p == c && balancedFrom pending ts
      else balancedFrom pending ts
  | _ :: ts => balancedFrom pending ts

/-- Whether every bracket is closed by its like. -/
def balanced (ts : List Token) : Bool := balancedFrom [] ts

/-- The rest behind the tokens up to the bracket that closes one and `depth` others. -/
def skipToCloser (depth : Nat) : List Token → Option (List Token)
  | [] => .none
  | .mark c _ :: ts =>
    if (closerOf? c).isSome then skipToCloser (depth + 1) ts
    else if isCloser c then
      match depth with
      | 0 => .some ts
      | depth + 1 => skipToCloser depth ts
    else skipToCloser depth ts
  | _ :: ts => skipToCloser depth ts

end Token

end ParamQuery.Declaration
