/-
Reading tokens: strings plain and raw, of text and of bytes, characters,
numbers, lifetimes, words and marks. Blanks and comments part tokens; a
comment that documents stands for an attribute. The brackets of a text must
match.
-/
import ParamQuery.Declaration.Token
import ParamQuery.Text.Blank
import ParamQuery.Text.Hex
import ParamQuery.Text.Identifier

namespace ParamQuery.Declaration.Token

open Text

/-! ## Escapes -/

/-- What a literal in quotes is made of. -/
inductive Content where
  | characters
  | bytes
  /-- Characters, none of which is null. -/
  | nonNull
  deriving DecidableEq, Repr

/-- The characters that a literal can hold. -/
def Content.holds (k : Content) (c : Char) : Bool :=
  match k with
  | .characters => true
  | .bytes => c.toNat < 128
  | .nonNull => c.toNat != 0

/-- The character of a code of at most six digits, in which underscores may stand behind the first
one, up to the closing brace. -/
def readCode? (count n : Nat) : List Char → Option (Char × List Char)
  | [] => .none
  | c :: cs =>
    if c == '_' && 0 < count then readCode? count n cs
    else if c == '\x7d' && 0 < count then
      if h : n.isValidChar then .some (Char.ofNatAux n h, cs) else .none
    else
      match hexValue? c with
      | .some d => if count < 6 then readCode? (count + 1) (16 * n + d) cs else .none
      | .none => .none

/-- The character that stands behind a backslash. -/
def readEscape? (k : Content) : List Char → Option (Char × List Char)
  | 'n' :: cs => .some ('\n', cs)
  | 'r' :: cs => .some ('\r', cs)
  | 't' :: cs => .some ('\t', cs)
  | '0' :: cs => if k = .nonNull then .none else .some (Char.ofNat 0, cs)
  | '\\' :: cs => .some ('\\', cs)
  | '\'' :: cs => .some ('\'', cs)
  | '"' :: cs => .some ('"', cs)
  | 'x' :: a :: b :: cs =>
    match hexValue? a, hexValue? b with
    | .some a, .some b =>
      let n := 16 * a + b
      if (k = .characters && 128 ≤ n) || (k = .nonNull && n == 0) then .none
      else .some (Char.ofNat n, cs)
    | _, _ => .none
  | 'u' :: '\x7b' :: cs =>
    if k = .bytes then .none
    else (readCode? 0 0 cs).filter fun (c, _) => k.holds c
  | _ => .none

/-! ## Strings -/

/-- The rest behind the blanks that a backslash at the end of a line hides. A carriage return must
belong to a line end, and something must follow. -/
def skipHidden? : List Char → Option (List Char)
  | [] => .none
  | '\r' :: '\n' :: cs => skipHidden? cs
  | '\r' :: _ => .none
  | c :: cs => if c == ' ' || c == '\t' || c == '\n' then skipHidden? cs else .some (c :: cs)

/-- Reads a string up to its closing quote. A carriage return must belong to a line end, which
counts as one line feed. -/
def readString? (k : Content) : (fuel : Nat) → List Char → Option (List Char × List Char)
  | 0, _ => .none
  | _, [] => .none
  | _, '"' :: cs => .some ([], cs)
  | fuel + 1, '\r' :: '\n' :: cs => do
    let (s, cs) ← readString? k fuel cs
    .some ('\n' :: s, cs)
  | _, '\r' :: _ => .none
  | fuel + 1, '\\' :: '\n' :: cs => (skipHidden? cs).bind (readString? k fuel)
  | fuel + 1, '\\' :: '\r' :: cs => (skipHidden? ('\r' :: cs)).bind (readString? k fuel)
  | fuel + 1, '\\' :: cs => do
    let (c, cs) ← readEscape? k cs
    let (s, cs) ← readString? k fuel cs
    .some (c :: s, cs)
  | fuel + 1, c :: cs => do
    if !k.holds c then .none
    let (s, cs) ← readString? k fuel cs
    .some (c :: s, cs)

/-- Reads a string without escapes up to a quote with `hashes` behind it. -/
def readUnescaped? (k : Content) (hashes : Nat) : List Char → Option (List Char × List Char)
  | [] => .none
  | c :: cs =>
    if c == '"' && (List.replicate hashes '#').isPrefixOf cs then .some ([], cs.drop hashes)
    else if !k.holds c || (c == '\r' && cs.head? != .some '\n') then .none
    else (readUnescaped? k hashes cs).map fun (s, cs) => (c :: s, cs)

/-- Reads a raw string from the hashes before its opening quote, of which there are at most 255. -/
def readRaw? (k : Content) (cs : List Char) : Option (List Char × List Char) :=
  let hashes := (cs.takeWhile (· == '#')).length
  match cs.drop hashes with
  | '"' :: cs => if hashes ≤ 255 then readUnescaped? k hashes cs else .none
  | _ => .none

/-- The rest behind the name that a literal may end in. -/
def skipSuffix : List Char → List Char
  | [] => []
  | c :: cs => if isWordStart c then cs.dropWhile isWordChar else c :: cs

/-- The rest behind one character and the quote that closes it. -/
def skipCharacter? (k : Content) : List Char → Option (List Char)
  | '\\' :: cs =>
    match readEscape? k cs with
    | .some (_, '\'' :: cs) => .some (skipSuffix cs)
    | _ => .none
  | c :: '\'' :: cs => if k.holds c then .some (skipSuffix cs) else .none
  | _ => .none

/-! ## Numbers -/

/-- The rest behind the exponent of a number, from behind its letter on: a sign and digits, with
underscores between. -/
def skipExponent? (signed valued : Bool) : List Char → Option (List Char)
  | [] => if valued then .some [] else .none
  | c :: cs =>
    if c == '+' || c == '-' then
      if valued then .some (c :: cs)
      else if signed then .none
      else skipExponent? true false cs
    else if c.isDigit then skipExponent? signed true cs
    else if c == '_' then skipExponent? signed valued cs
    else if valued then .some (c :: cs)
    else .none

/-- The digits that numbers are written with, and underscores. -/
def isDigitOrUnderscore (c : Char) : Bool := c.isDigit || c == '_'

/-- The rest behind a number with a point or an exponent, without its suffix. No other point and no
name may follow the point at once. -/
def skipFraction? (cs : List Char) : Option (List Char) :=
  let isExponent (c : Char) := c == 'e' || c == 'E'
  match cs.dropWhile isDigitOrUnderscore with
  | '.' :: r =>
    if r.head?.any fun c => c == '.' || isWordStart c then .none
    else
      match r.dropWhile isDigitOrUnderscore with
      | c :: s =>
        if isExponent c then .some ((skipExponent? false false s).getD (c :: s)) else .some (c :: s)
      | [] => .some []
  | c :: r => if isExponent c then skipExponent? false false r else .none
  | [] => .none

/-- The rest behind the digits of a whole number in a base. A digit that the base does not have is
a fault; a letter that is none ends the number. -/
def skipDigits? (base : Nat) (any : Bool) : List Char → Option (List Char)
  | [] => if any then .some [] else .none
  | c :: cs =>
    if c == '_' then skipDigits? base any cs
    else
      match hexValue? c with
      | .some d =>
        if d < base then skipDigits? base true cs
        else if c.isDigit then .none
        else if any then .some (c :: cs)
        else .none
      | .none => if any then .some (c :: cs) else .none

/-- The rest behind a whole number without its suffix. -/
def skipWhole? : List Char → Option (List Char)
  | '0' :: 'x' :: cs => skipDigits? 16 false cs
  | '0' :: 'o' :: cs => skipDigits? 8 false cs
  | '0' :: 'b' :: cs => skipDigits? 2 false cs
  | cs => skipDigits? 10 false cs

/-- The rest behind the suffix of a number, where no name goes on. -/
def endNumber? (cs : List Char) : Option (List Char) :=
  let rest := skipSuffix cs
  if rest.head?.any isWordChar then .none else .some rest

/-- Reads a number. -/
def readNumber? (cs : List Char) : Option (Token × List Char) := do
  let rest ← ((skipFraction? cs).bind endNumber?).or ((skipWhole? cs).bind endNumber?)
  .some (.number (.ofList (cs.take (cs.length - rest.length))), rest)

/-! ## Tokens -/

/-- Reads a literal. -/
def readLiteral? : List Char → Option (Token × List Char)
  | '"' :: cs =>
    (readString? .characters (cs.length + 1) cs).map fun (s, r) => (.text (.ofList s), skipSuffix r)
  | 'r' :: cs => (readRaw? .characters cs).map fun (s, r) => (.text (.ofList s), skipSuffix r)
  | 'b' :: '"' :: cs =>
    (readString? .bytes (cs.length + 1) cs).map fun (_, r) => (.literal, skipSuffix r)
  | 'c' :: '"' :: cs =>
    (readString? .nonNull (cs.length + 1) cs).map fun (_, r) => (.literal, skipSuffix r)
  | 'b' :: 'r' :: cs => (readRaw? .bytes cs).map fun (_, r) => (.literal, skipSuffix r)
  | 'c' :: 'r' :: cs => (readRaw? .nonNull cs).map fun (_, r) => (.literal, skipSuffix r)
  | 'b' :: '\'' :: cs => (skipCharacter? .bytes cs).map (.literal, ·)
  | '\'' :: cs => (skipCharacter? .characters cs).map (.literal, ·)
  | c :: cs => if c.isDigit then readNumber? (c :: cs) else .none
  | [] => .none

/-- The beginnings of literals, which begin no word. -/
def literalLeads : List String :=
  ["r\"", "r#\"", "r##", "b\"", "b'", "br\"", "br#", "c\"", "cr\"", "cr#"]

/-- Reads a name, which a hash may mark as one that is no reserved word. -/
def readName? (cs : List Char) : Option (String × List Char) :=
  let plain (cs : List Char) :=
    if cs.head?.any isWordStart then .some (cs.takeWhile isWordChar, cs.dropWhile isWordChar)
    else .none
  match cs with
  | 'r' :: '#' :: cs => do
    let (w, rest) ← plain cs
    if String.ofList w = "_" || pathWords.contains (.ofList w) then .none
    .some (.ofList ('r' :: '#' :: w), rest)
  | cs => (plain cs).map fun (w, rest) => (.ofList w, rest)

/-- Reads a word. -/
def readWord? (cs : List Char) : Option (Token × List Char) :=
  if literalLeads.any (·.toList.isPrefixOf cs) then .none
  else (readName? cs).map fun (w, rest) => (.word w, rest)

/-- The marks, brackets apart. -/
def marks : List Char := "~!@#$%^&*-=+|;:,<.>/?'".toList

/-- Whether a mark that begins no comment comes next. -/
def startsMark : List Char → Bool
  | '/' :: '/' :: _ | '/' :: '*' :: _ => false
  | c :: _ => marks.contains c
  | [] => false

/-- Reads a mark or a lifetime. -/
def readMark? (cs : List Char) : Option (Token × List Char) :=
  match cs with
  | [] => .none
  | '\'' :: cs =>
    match readName? cs with
    | .some (_, '\'' :: _) => .none
    | .some (_, '#' :: rest) =>
      if ['r', '#'].isPrefixOf cs then .some (.lifetime, '#' :: rest) else .none
    | .some (_, rest) => .some (.lifetime, rest)
    | .none => .none
  | c :: rest =>
    if (closerOf? c).isSome || isCloser c then .some (.single c, rest)
    else if startsMark cs then .some (.mark c (startsMark rest), rest)
    else .none

/-- Reads a token. -/
def read? (cs : List Char) : Option (Token × List Char) :=
  (readLiteral? cs).or ((readMark? cs).or (readWord? cs))

/-! ## Comments -/

/-- What is in a comment that ends with a mark, and the rest behind it, from within `depth`
comments. -/
def splitComment? (depth : Nat) : List Char → Option (List Char × List Char)
  | '/' :: '*' :: cs => (splitComment? (depth + 1) cs).map fun (s, r) => ('/' :: '*' :: s, r)
  | '*' :: '/' :: cs =>
    match depth with
    | 0 | 1 => .some ([], cs)
    | depth + 1 => (splitComment? depth cs).map fun (s, r) => ('*' :: '/' :: s, r)
  | c :: cs => (splitComment? depth cs).map fun (s, r) => (c :: s, r)
  | [] => .none

/-- Whether a carriage return stands alone. -/
def hasLoneReturn : List Char → Bool
  | '\r' :: '\n' :: cs => hasLoneReturn cs
  | '\r' :: _ => true
  | _ :: cs => hasLoneReturn cs
  | [] => false

/-- The tokens that a comment which documents stands for. -/
def documentation (inner : Bool) : List Token :=
  .single '#' :: (if inner then [.single '!'] else []) ++
    [.single '[', .word "doc", .single '=', .text "", .single ']']

/-- The part of a text before the end of its first line. -/
def firstLine (cs : List Char) : List Char := cs.takeWhile (· != '\n')

/-- What two characters that begin a comment lead to: the tokens that it stands for, and the
rest. -/
def readComment? : List Char → Option (List Token × List Char)
  | '/' :: '/' :: cs =>
    let line := firstLine cs
    let rest := cs.drop line.length
    match line with
    | '!' :: s => if hasLoneReturn (s ++ ['\n']) then .none else .some (documentation true, rest)
    | '/' :: s =>
      if s.head? = .some '/' then .some ([], rest)
      else if hasLoneReturn (s ++ ['\n']) then .none
      else .some (documentation false, rest)
    | _ => .some ([], rest)
  | '/' :: '*' :: '*' :: '/' :: cs => .some ([], cs)
  | '/' :: '*' :: cs =>
    match splitComment? 1 cs with
    | .none => .none
    | .some (s, rest) =>
      match s with
      | '!' :: s => if hasLoneReturn s then .none else .some (documentation true, rest)
      | '*' :: s =>
        if s.head? = .some '*' then .some ([], rest)
        else if hasLoneReturn s then .none
        else .some (documentation false, rest)
      | _ => .some ([], rest)
  | _ => .none

/-- Whether a comment begins. -/
def startsComment : List Char → Bool
  | '/' :: '/' :: _ | '/' :: '*' :: _ => true
  | _ => false

/-- Blanks between tokens; the marks that set the direction of writing are among them. -/
def isSpace (c : Char) : Bool := isBlank c || c.toNat == 0x200E || c.toNat == 0x200F

/-- Reads all tokens of a text. -/
def readAll? : (fuel : Nat) → List Char → Option (List Token)
  | 0, _ => .none
  | fuel + 1, cs =>
    match cs.dropWhile isSpace with
    | [] => .some []
    | cs =>
      if startsComment cs then do
        let (ts, cs) ← readComment? cs
        (readAll? fuel cs).map (ts ++ ·)
      else do
        let (t, cs) ← read? cs
        (readAll? fuel cs).map (t :: ·)

/-- The tokens of a text, if its brackets match. -/
def ofText? (s : String) : Option (List Token) :=
  (readAll? (s.length + 1) s.toList).filter balanced

end ParamQuery.Declaration.Token
