/-
Reading JSON text, up to 127 nested levels.

Digits of a number are taken over while they fit 64 bits without sign; the
others only move its exponent. A number that is no integer is its digits
times or by a power of ten, rounded once for the digits and once for the
product, and must not exceed the range.
-/
import ParamQuery.Json.Basic
import ParamQuery.Number.Literal
import ParamQuery.Text.Ascii
import ParamQuery.Text.Hex

namespace ParamQuery.Json

open Number

/-- Skips blanks. -/
def skipBlanks (cs : List Char) : List Char :=
  cs.dropWhile fun c => c == ' ' || c == '\n' || c == '\t' || c == '\r'

/-! ## Strings -/

/-- Four hexadecimal digits. -/
def readUnit? : List Char → Option (Nat × List Char)
  | a :: b :: c :: d :: cs => do
    let a ← Text.hexValue? a
    let b ← Text.hexValue? b
    let c ← Text.hexValue? c
    let d ← Text.hexValue? d
    .some (((a * 16 + b) * 16 + c) * 16 + d, cs)
  | _ => .none

/-- The character of one escaped unit, or of two that form a pair. -/
def readEscapedUnit? (cs : List Char) : Option (Char × List Char) := do
  let (high, cs) ← readUnit? cs
  if 0xDC00 ≤ high ∧ high < 0xE000 then .none
  else if 0xD800 ≤ high ∧ high < 0xDC00 then
    match cs with
    | '\\' :: 'u' :: cs =>
      let (low, cs) ← readUnit? cs
      if 0xDC00 ≤ low ∧ low < 0xE000 then
        .some (Char.ofNat (0x10000 + (high - 0xD800) * 0x400 + (low - 0xDC00)), cs)
      else .none
    | _ => .none
  else .some (Char.ofNat high, cs)

/-- The character that stands behind a backslash. -/
def readEscape? : List Char → Option (Char × List Char)
  | '"' :: cs => .some ('"', cs)
  | '\\' :: cs => .some ('\\', cs)
  | '/' :: cs => .some ('/', cs)
  | 'b' :: cs => .some (Char.ofNat 8, cs)
  | 'f' :: cs => .some (Char.ofNat 12, cs)
  | 'n' :: cs => .some ('\n', cs)
  | 'r' :: cs => .some ('\r', cs)
  | 't' :: cs => .some ('\t', cs)
  | 'u' :: cs => readEscapedUnit? cs
  | _ => .none

/-- Reads a string up to its closing quote. -/
def readString? : (fuel : Nat) → List Char → Option (List Char × List Char)
  | 0, _ => .none
  | _, [] => .none
  | fuel + 1, c :: cs =>
    if c == '"' then .some ([], cs)
    else if c == '\\' then do
      let (d, cs) ← readEscape? cs
      let (s, cs) ← readString? fuel cs
      .some (d :: s, cs)
    else if c.toNat < 0x20 then .none
    else do
      let (s, cs) ← readString? fuel cs
      .some (c :: s, cs)

/-! ## Numbers -/

/-- Takes digits over into `m` while it fits 64 bits: the number, how many digits, and the rest. -/
def absorb (m : Nat) (count : Nat) : List Char → Nat × Nat × List Char
  | [] => (m, count, [])
  | c :: cs =>
    if c.isDigit then
      let n := m * 10 + digitValue c
      if n < Nat.pow 2 64 then absorb n (count + 1) cs else (m, count, c :: cs)
    else (m, count, c :: cs)

/-- The power of ten as a binary number. -/
def powerOfTen (n : Nat) : Nat := BinaryFormat.double.ofRatio (Nat.pow 10 n) 1

/-- `w` divided by powers of ten, at most 308 at a time. -/
def divideDown : (fuel : Nat) → Nat → Nat → Nat
  | 0, _, _ => 0
  | fuel + 1, w, n =>
    if n ≤ 308 then BinaryFormat.double.div w (powerOfTen n)
    else if w = 0 then 0
    else divideDown fuel (BinaryFormat.double.div w (powerOfTen 308)) (n - 308)

/-- The word of `m * 10 ^ e`, if it is in range. -/
def scaled? (m : Nat) (e : Int) : Option Nat :=
  let w := BinaryFormat.double.ofRatio m 1
  if e < 0 then .some (divideDown 4 w (-e).toNat)
  else if w = 0 then .some 0
  else if 308 < e then .none
  else
    let v := BinaryFormat.double.mul w (powerOfTen e.toNat)
    if v < BinaryFormat.double.infinity then .some v else .none

/-- Finishes a number that is no integer: an optional exponent on top of `e`. -/
def readScaled? (negative : Bool) (m : Nat) (e : Int) (cs : List Char) : Option (Json × List Char) :=
  let finish (e : Int) (rest : List Char) :=
    (scaled? m e).map fun w => (Json.float (.ofWord negative w), rest)
  match cs with
  | [] => finish e []
  | c :: r =>
    if c == 'e' || c == 'E' then
      let (down, ds) := Literal.takeSign r
      let digits := ds.takeWhile Char.isDigit
      if digits.isEmpty then .none
      else
        let n : Int := valueOf digits
        finish (if down then e - n else e + n) (ds.drop digits.length)
    else finish e cs

/-- Reads the digits behind a point. -/
def readFraction? (negative : Bool) (m : Nat) (e : Int) (cs : List Char) :
    Option (Json × List Char) :=
  let (m, count, rest) := absorb m 0 cs
  let after := rest.dropWhile Char.isDigit
  if count = 0 && rest.length = after.length then .none
  else readScaled? negative m (e - count) after

/-- What follows the whole digits `m` of a number. -/
def readTail? (negative : Bool) (m : Nat) (cs : List Char) : Option (Json × List Char) :=
  let skipped := cs.takeWhile Char.isDigit
  let rest := cs.drop skipped.length
  match rest with
  | '.' :: r => readFraction? negative m skipped.length r
  | 'e' :: _ | 'E' :: _ => readScaled? negative m skipped.length rest
  | _ =>
    if skipped.isEmpty then
      if !negative then .some (.int m, rest)
      else if m = 0 || Nat.pow 2 63 < m then
        .some (.float (.ofWord true (BinaryFormat.double.ofRatio m 1)), rest)
      else .some (.int (-(m : Int)), rest)
    else readScaled? negative m skipped.length rest

/-- Reads a number behind its sign. -/
def readNumber? (negative : Bool) : List Char → Option (Json × List Char)
  | '0' :: cs =>
    match cs with
    | c :: _ => if c.isDigit then .none else readTail? negative 0 cs
    | [] => readTail? negative 0 []
  | c :: cs =>
    if c.isDigit then
      let (m, _, rest) := absorb (digitValue c) 0 cs
      readTail? negative m rest
    else .none
  | [] => .none

/-! ## Values -/

/-- A word with a meaning. -/
def readWord? (cs : List Char) : Option (Json × List Char) :=
  match Text.dropLead? "null".toList cs, Text.dropLead? "true".toList cs,
      Text.dropLead? "false".toList cs with
  | .some r, _, _ => .some (.null, r)
  | _, .some r, _ => .some (.bool true, r)
  | _, _, .some r => .some (.bool false, r)
  | _, _, _ => .none

mutual

/-- Reads a value behind blanks; `depth` more levels may be opened. -/
def readValue? : (fuel depth : Nat) → List Char → Option (Json × List Char)
  | 0, _, _ => .none
  | fuel + 1, depth, cs =>
    match skipBlanks cs with
    | '"' :: cs => do
      let (s, cs) ← readString? (cs.length + 1) cs
      .some (.string (.ofList s), cs)
    | '-' :: cs => readNumber? true cs
    | '[' :: cs =>
      if depth = 0 then .none
      else
        match skipBlanks cs with
        | ']' :: cs => .some (.array [], cs)
        | cs => do
          let (vs, cs) ← readItems? fuel (depth - 1) cs
          .some (.array vs, cs)
    | '\x7b' :: cs =>
      if depth = 0 then .none
      else
        match skipBlanks cs with
        | '\x7d' :: cs => .some (.object [], cs)
        | cs => do
          let (ms, cs) ← readMembers? fuel (depth - 1) [] cs
          .some (.object ms, cs)
    | c :: cs => if c.isDigit then readNumber? false (c :: cs) else readWord? (c :: cs)
    | [] => .none

/-- Reads items up to the closing bracket. -/
def readItems? : (fuel depth : Nat) → List Char → Option (List Json × List Char)
  | 0, _, _ => .none
  | fuel + 1, depth, cs => do
    let (v, cs) ← readValue? fuel depth cs
    match skipBlanks cs with
    | ',' :: cs => do
      let (vs, cs) ← readItems? fuel depth cs
      .some (v :: vs, cs)
    | ']' :: cs => .some ([v], cs)
    | _ => .none

/-- Reads members up to the closing brace, on top of those read before. -/
def readMembers? : (fuel depth : Nat) → List (String × Json) → List Char →
    Option (List (String × Json) × List Char)
  | 0, _, _, _ => .none
  | fuel + 1, depth, before, cs =>
    match skipBlanks cs with
    | '"' :: cs => do
      let (name, cs) ← readString? (cs.length + 1) cs
      match skipBlanks cs with
      | ':' :: cs => do
        let (v, cs) ← readValue? fuel depth cs
        let now := setMember (.ofList name) v before
        match skipBlanks cs with
        | ',' :: cs => readMembers? fuel depth now cs
        | '\x7d' :: cs => .some (now, cs)
        | _ => .none
      | _ => .none
    | _ => .none

end

/-- The most levels of arrays and objects in one another. -/
def maxDepth : Nat := 127

/-- Reads a text that is one value, and blanks around it. -/
def read? (cs : List Char) : Option Json :=
  match readValue? (2 * cs.length + 2) maxDepth cs with
  | .some (v, rest) => if (skipBlanks rest).isEmpty then .some v else .none
  | .none => .none

end ParamQuery.Json
