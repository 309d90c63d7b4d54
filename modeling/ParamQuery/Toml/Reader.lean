/-
Reading TOML documents. Every step gives what it read and the rest of the
text.
-/
import ParamQuery.Toml.Scalar

namespace ParamQuery.Toml

/-! ## Blanks and comments -/

/-- Characters that must not stand in a text or a comment. -/
def isControl (c : Char) : Bool := c != '\t' && (c.toNat < 0x20 || c.toNat == 0x7f)

/-- Skips blanks on a line. -/
def skipBlanks (cs : List Char) : List Char := cs.dropWhile fun c => c == ' ' || c == '\t'

/-- Skips blanks, ends of lines and comments. -/
def skipLayout (inComment : Bool) : List Char → Option (List Char)
  | [] => .some []
  | c :: cs =>
    if c == '\n' then skipLayout false cs
    else if c == '\r' then if cs.head? == .some '\n' then skipLayout false cs else .none
    else if inComment then if isControl c then .none else skipLayout true cs
    else if c == ' ' || c == '\t' then skipLayout false cs
    else if c == '#' then skipLayout true cs
    else .some (c :: cs)

/-- Skips the rest of a line on which nothing more is said, and all that follows of this kind. -/
def endLine (cs : List Char) : Option (List Char) :=
  match skipBlanks cs with
  | [] => .some []
  | c :: cs => if c == '#' || c == '\n' || c == '\r' then skipLayout false (c :: cs) else .none

/-! ## Strings -/

/-- The character of `count` hexadecimal digits. -/
def readCode? (count : Nat) (cs : List Char) : Option (Char × List Char) := do
  let ds := cs.take count
  if ds.length ≠ count then .none
  let n ← ds.foldlM (fun n c => (Text.hexValue? c).map (n * 16 + ·)) 0
  if h : n.isValidChar then .some (Char.ofNatAux n h, cs.drop count) else .none

/-- The character that stands behind a backslash. -/
def readEscape? : List Char → Option (Char × List Char)
  | '"' :: cs => .some ('"', cs)
  | '\\' :: cs => .some ('\\', cs)
  | 'b' :: cs => .some (Char.ofNat 8, cs)
  | 'e' :: cs => .some (Char.ofNat 27, cs)
  | 'f' :: cs => .some (Char.ofNat 12, cs)
  | 'n' :: cs => .some ('\n', cs)
  | 'r' :: cs => .some ('\r', cs)
  | 't' :: cs => .some ('\t', cs)
  | 'x' :: cs => readCode? 2 cs
  | 'u' :: cs => readCode? 4 cs
  | 'U' :: cs => readCode? 8 cs
  | _ => .none

/-- Reads a string on one line up to its closing quote. -/
def readLine? (quote : Char) : (fuel : Nat) → List Char → Option (List Char × List Char)
  | 0, _ => .none
  | _, [] => .none
  | fuel + 1, c :: cs =>
    if c == quote then .some ([], cs)
    else if c == '\\' && quote == '"' then do
      let (d, cs) ← readEscape? cs
      let (s, cs) ← readLine? quote fuel cs
      .some (d :: s, cs)
    else if isControl c then .none
    else do
      let (s, cs) ← readLine? quote fuel cs
      .some (c :: s, cs)

/-- The rest behind the blanks and the ends of lines that a backslash at the end of a line hides. -/
def skipHidden? (cs : List Char) : Option (List Char) :=
  match skipBlanks cs with
  | '\n' :: cs | '\r' :: '\n' :: cs =>
    .some (cs.dropWhile fun c => c == ' ' || c == '\t' || c == '\n' || c == '\r')
  | _ => .none

/-- Reads a string of many lines up to its three closing quotes; two more may stand in front of
them. -/
def readLines? (quote : Char) : (fuel : Nat) → List Char → Option (List Char × List Char)
  | 0, _ => .none
  | _, [] => .none
  | fuel + 1, c :: cs =>
    let keep (d : Char) (cs : List Char) : Option (List Char × List Char) := do
      let (s, cs) ← readLines? quote fuel cs
      .some (d :: s, cs)
    if c == quote then
      let run := ((c :: cs).takeWhile (· == quote)).length
      if run < 3 then keep c cs
      else .some (List.replicate (min (run - 3) 2) quote, (c :: cs).drop (min run 5))
    else if c == '\\' && quote == '"' then
      match skipHidden? cs with
      | .some cs => readLines? quote fuel cs
      | .none => do
        let (d, cs) ← readEscape? cs
        keep d cs
    else if c == '\n' then keep c cs
    else if c == '\r' then
      match cs with
      | '\n' :: cs => keep '\n' cs
      | _ => .none
    else if isControl c then .none
    else keep c cs

/-- The rest behind the end of a line, if there is one. -/
def dropLineEnd : List Char → List Char
  | '\n' :: cs | '\r' :: '\n' :: cs => cs
  | cs => cs

/-- Reads a string behind its first quote. -/
def readString? (quote : Char) (cs : List Char) : Option (String × List Char) :=
  let text (r : List Char × List Char) := (String.ofList r.1, r.2)
  match cs with
  | a :: b :: rest =>
    if a == quote && b == quote then
      (readLines? quote (rest.length + 1) (dropLineEnd rest)).map text
    else (readLine? quote (cs.length + 1) cs).map text
  | cs => (readLine? quote (cs.length + 1) cs).map text

/-! ## Keys -/

/-- The characters of a name without quotes. -/
def isBareChar (c : Char) : Bool := c.isAlphanum || c == '_' || c == '-'

/-- Reads a name. -/
def readName? : List Char → Option (String × List Char)
  | [] => .none
  | c :: cs =>
    if c == '"' || c == '\'' then
      (readLine? c (cs.length + 1) cs).map fun (s, cs) => (.ofList s, cs)
    else
      let bare := (c :: cs).takeWhile isBareChar
      if bare.isEmpty then .none else .some (.ofList bare, (c :: cs).drop bare.length)

/-- Reads the names of a key, and blanks around them. -/
def readKey? : (fuel : Nat) → List Char → Option (List String × List Char)
  | 0, _ => .none
  | fuel + 1, cs => do
    let (name, cs) ← readName? (skipBlanks cs)
    match skipBlanks cs with
    | '.' :: cs => do
      let (names, cs) ← readKey? fuel cs
      .some (name :: names, cs)
    | cs => .some ([name], cs)

/-! ## Values -/

mutual

/-- Reads a value. -/
def readValue? : (fuel : Nat) → List Char → Option (Toml × List Char)
  | 0, _ => .none
  | _, [] => .none
  | fuel + 1, c :: cs =>
    if c == '"' || c == '\'' then (readString? c cs).map fun (s, cs) => (.string s, cs)
    else if c == '[' then (readItems? fuel cs).map fun (vs, cs) => (.array vs, cs)
    else if c == '\x7b' then
      (readPairs? fuel [] cs).map fun (ms, cs) => (.table .braces ms, cs)
    else
      let (word, rest) := takeWord (c :: cs)
      (ofWord? word).map fun v => (v, rest)

/-- Reads the items of an array up to its closing bracket. -/
def readItems? : (fuel : Nat) → List Char → Option (List Toml × List Char)
  | 0, _ => .none
  | fuel + 1, cs => do
    match ← skipLayout false cs with
    | ']' :: cs => .some ([], cs)
    | cs => do
      let (v, cs) ← readValue? fuel cs
      match ← skipLayout false cs with
      | ',' :: cs => do
        let (vs, cs) ← readItems? fuel cs
        .some (v :: vs, cs)
      | ']' :: cs => .some ([v], cs)
      | _ => .none

/-- Reads the pairs of a table in braces, on top of those read before. -/
def readPairs? : (fuel : Nat) → Members → List Char → Option (Members × List Char)
  | 0, _, _ => .none
  | fuel + 1, ms, cs => do
    match ← skipLayout false cs with
    | '\x7d' :: cs => .some (ms, cs)
    | cs => do
      let (ms, cs) ← readPair? fuel ms cs
      match ← skipLayout false cs with
      | ',' :: cs => readPairs? fuel ms cs
      | '\x7d' :: cs => .some (ms, cs)
      | _ => .none

/-- Reads a key and its value, and adds them. -/
def readPair? : (fuel : Nat) → Members → List Char → Option (Members × List Char)
  | 0, _, _ => .none
  | fuel + 1, ms, cs => do
    let (key, cs) ← readKey? (cs.length + 1) cs
    match cs with
    | '=' :: cs => do
      let (v, cs) ← readValue? fuel (skipBlanks cs)
      let ms ← assign v key ms
      .some (ms, cs)
    | _ => .none

end

/-! ## Documents -/

/-- Reads a header behind its first bracket: whether it is of a list of tables, its names, and the
rest. -/
def readHeader? (cs : List Char) : Option (Bool × List String × List Char) := do
  let (isList, cs) := match cs with
    | '[' :: cs => (true, cs)
    | cs => (false, cs)
  let (key, cs) ← readKey? (cs.length + 1) cs
  match isList, cs with
  | true, ']' :: ']' :: cs => .some (true, key, cs)
  | false, ']' :: cs => .some (false, key, cs)
  | _, _ => .none

/-- Reads the statements of a document; `path` is that of the last header. -/
def readStatements? : (fuel : Nat) → (path : List String) → Members → List Char → Option Members
  | 0, _, _, _ => .none
  | _, _, ms, [] => .some ms
  | fuel + 1, path, ms, c :: cs =>
    if c == '[' then do
      let (isList, key, cs) ← readHeader? cs
      let last ← key.getLast?
      let ms ← (if isList then openElement else openTable) key.dropLast last ms
      let cs ← endLine cs
      readStatements? fuel key ms cs
    else do
      let (key, cs) ← readKey? (cs.length + 2) (c :: cs)
      match cs with
      | '=' :: cs => do
        let (v, cs) ← readValue? (2 * cs.length + 2) (skipBlanks cs)
        let ms ← within path (assign v key) ms
        let cs ← endLine cs
        readStatements? fuel path ms cs
      | _ => .none

/-- Reads a document, which may begin with a byte order mark. -/
def read? (cs : List Char) : Option Members :=
  let cs := match cs with
    | '\ufeff' :: cs => cs
    | cs => cs
  (skipLayout false cs).bind fun cs => readStatements? (cs.length + 1) [] [] cs

end ParamQuery.Toml
