/-
Patterns: names, literals and ranges, paths with fields, tuples, lists, and
alternatives.
-/
import ParamQuery.Declaration.Grammar.Type
import ParamQuery.Text.Hex

namespace ParamQuery.Declaration.Grammar

/-! ## Members -/

/-- Whether a number is the place of a member: whole, without a suffix, and of 32 bits. -/
def isIndex (written : List Char) : Bool :=
  let (base, ds) :=
    match written with
    | '0' :: 'x' :: ds => (16, ds)
    | '0' :: 'o' :: ds => (8, ds)
    | '0' :: 'b' :: ds => (2, ds)
    | ds => (10, ds)
  let ds := ds.filter (· != '_')
  !ds.isEmpty && ds.all (fun c => (Text.hexValue? c).any (· < base)) &&
    ds.foldl (fun n c => n * base + (Text.hexValue? c).getD 0) 0 < Nat.pow 2 32

/-- Reads a member, a name or a place, and tells whether it is a name. -/
def member : List Token → Option (Bool × List Token)
  | .word w :: ts => if Token.isName w then .some (true, ts) else .none
  | .number n :: ts => if isIndex n.toList then .some (false, ts) else .none
  | _ => .none

/-! ## Ranges -/

/-- Reads the mark of a range, and tells whether the range has its upper end. -/
def rangeMark (ts : List Token) : Option (Bool × List Token) :=
  if sees "..=" ts then .some (true, ts.drop 3)
  else if sees "..." ts then .none
  else (skip ".." ts).map (false, ·)

/-- Reads the mark of a range in a pattern, where three points do as well. -/
def patternRangeMark (ts : List Token) : Option (Bool × List Token) :=
  if sees "..." ts then .some (true, ts.drop 3) else rangeMark ts

/-- Reads an end of a range, if there is one, and tells whether there is. -/
def rangeBound (g : Grammar) (ts : List Token) : Option (Bool × List Token) :=
  if atEnd ts || sees "|" ts || sees "=" ts || seesOnly ":" "::" ts || sees "," ts || sees ";" ts ||
      seesWord "if" ts then .some (false, ts)
  else if seesLiteral ts then (skipLiteral ts).map (true, ·)
  else if startsPathType ts then (g.qualifiedPath true ts).map fun (_, ts) => (true, ts)
  else
    match skipWord "const" ts with
    | .some ts => (braced (fun ts => do g.statements (← g.innerAttributes ts)) ts).map (true, ·)
    | .none => .none

/-- Reads the rest of a range in a pattern from its mark on. -/
def restOfRange (g : Grammar) (ts : List Token) : Option (PatternKind × List Token) := do
  let (closed, ts) ← patternRangeMark ts
  let (ends, ts) ← g.rangeBound ts
  if closed && !ends then .none
  .some (if ends then .other else .halfRange, ts)

/-! ## Patterns -/

/-- Whether a further alternative follows. -/
def seesAlternative (ts : List Token) : Bool := sees "|" ts && !sees "||" ts && !sees "|=" ts

/-- Reads a pattern with its alternatives, in front of which a mark may stand. -/
def alternatives (g : Grammar) (ts : List Token) : Option (PatternKind × List Token) := do
  let (kind, rest) ← g.pattern (skipAny "|" ts)
  if sees "|" ts || seesAlternative rest then
    (many seesAlternative (fun ts => (g.pattern (ts.drop 1)).map (·.2)) rest).map (.other, ·)
  else .some (kind, rest)

/-- Reads a pattern with its alternatives. -/
def anyPattern (g : Grammar) : Reader := fun ts => (g.alternatives ts).map (·.2)

/-- Reads a field of a pattern. -/
def fieldPattern (g : Grammar) : Reader := fun ts => do
  let rest := skipAnyWord "mut" (skipAnyWord "ref" (skipAnyWord "box" ts))
  if rest.length < ts.length then skipName rest
  else do
    let (named, ts) ← member ts
    if sees ":" ts || !named then g.anyPattern (← skip ":" ts) else .some ts

/-- Reads the fields of a pattern, the last of which may stand for all others. -/
def fieldPatterns (g : Grammar) : (fuel : Nat) → Reader
  | 0, _ => .none
  | fuel + 1, ts =>
    if atEnd ts then .some ts
    else do
      let ts ← g.attributes ts
      if sees ".." ts then .some (ts.drop 2)
      else do
        let ts ← g.fieldPattern ts
        if atEnd ts then .some ts else fieldPatterns g fuel (← skip "," ts)

/-- Reads a pattern that begins with a path. -/
def pathPattern (g : Grammar) (ts : List Token) : Option (PatternKind × List Token) := do
  let ((isMember, shape), ts) ← g.qualifiedPath true ts
  if !isMember && seesOnly "!" "!=" ts && shape.plain then
    (skipGroup (ts.drop 1)).map (.other, ·)
  else if seesBrace ts then
    (braced (fun ts => g.fieldPatterns (ts.length + 1) ts) ts).map (.other, ·)
  else if sees "(" ts then (parenthesized (listed g.anyPattern) ts).map (.other, ·)
  else if sees ".." ts then g.restOfRange ts
  else .some (.other, ts)

/-- Reads a pattern that is a literal or a range. -/
def literalPattern (g : Grammar) (ts : List Token) : Option (PatternKind × List Token) := do
  let (_, ts) ← g.rangeBound ts
  if sees ".." ts then g.restOfRange ts else .some (.other, ts)

/-- Reads a pattern that is a range without a lower end, or stands for what is left out. -/
def lowerlessPattern (g : Grammar) (ts : List Token) : Option (PatternKind × List Token) := do
  let (closed, ts) ← rangeMark ts
  let (ends, ts) ← g.rangeBound ts
  if closed && !ends then .none
  .some (if ends then .halfRange else .other, ts)

/-- Reads a pattern that is a name, to which another may be tied. -/
def namePattern (g : Grammar) : Reader := fun ts => do
  let ts := skipAnyWord "mut" (skipAnyWord "ref" ts)
  let ts ← if seesWord "self" ts then .some ts.tail else skipName ts
  match skip "@" ts with
  | .some ts => (g.pattern ts).map (·.2)
  | .none => .some ts

/-- Reads a pattern in a list, where a range needs both ends. -/
def listedPattern (g : Grammar) : Reader := fun ts => do
  let (kind, ts) ← g.alternatives ts
  if kind = .halfRange then .none else .some ts

/-- Whether a pattern begins with a path that is more than a name. -/
def startsPathPattern (ts : List Token) : Bool :=
  (seesName ts &&
      (sees "::" ts.tail || sees "!" ts.tail || seesBrace ts.tail || sees "(" ts.tail ||
        sees ".." ts.tail)) ||
    (seesWord "self" ts && sees "::" ts.tail) || sees "::" ts || sees "<" ts ||
    seesWordOf ["Self", "super", "crate"] ts

/-- Reads a pattern without alternatives. -/
def patternOf (g : Grammar) (ts : List Token) : Option (PatternKind × List Token) :=
  if startsPathPattern ts then g.pathPattern ts
  else if seesWord "_" ts then .some (.other, ts.tail)
  else if seesWord "box" ts then (g.pattern ts.tail).map fun (_, ts) => (.other, ts)
  else if sees "-" ts || seesLiteral ts || seesWord "const" ts then g.literalPattern ts
  else if seesWordOf ["ref", "mut", "self"] ts || seesName ts then
    (g.namePattern ts).map (.other, ·)
  else if sees "&" ts then
    (g.pattern (skipAnyWord "mut" ts.tail)).map fun (_, ts) => (.other, ts)
  else if sees "(" ts then (parenthesized (listed g.anyPattern) ts).map (.other, ·)
  else if sees "[" ts then (squared (listed g.listedPattern) ts).map (.other, ·)
  else if seesOnly ".." "..." ts then g.lowerlessPattern ts
  else .none

end ParamQuery.Declaration.Grammar
