/-
Attributes, and the options that those named `orm` give: for a structure
the table, for a field its column, its name, and whether it is skipped.
-/
import ParamQuery.Declaration.Grammar.Whole
import ParamQuery.Declaration.Token.Reader

namespace ParamQuery.Declaration

/-- Why no entity is made of a declaration. -/
inductive Fault where
  | generic
  | unnamedFields
  | notStructure
  | unknownTableOption
  | tableNotText
  | unknownFieldOption
  | blankValue
  /-- The tokens of an attribute have not the form they must have. -/
  | malformed
  deriving DecidableEq, Repr

/-- The text of a fault. Malformed tokens are refused by the reader of the tokens, whose words differ from
place to place; one text stands for them. -/
def Fault.message : Fault → String
  | .generic => "Entity cannot be derived for generic structs"
  | .unnamedFields => "Entity can only be derived for structs with named fields"
  | .notStructure => "Entity can only be derived for structs"
  | .unknownTableOption => "unknown orm attribute; expected `table`"
  | .tableNotText => "expected a string literal: #[orm(table = \"table_name\")]"
  | .unknownFieldOption => "unknown orm attribute; expected `column`, `name` or `skip`"
  | .blankValue => "value must not be empty"
  | .malformed => "the tokens of the attribute are malformed"

/-! ## Attributes -/

/-- An attribute: its path, and its arguments if there are any in brackets. Of a value behind an
equals sign nothing is kept. -/
structure Attribute where
  path : List String
  arguments? : Option (List Token)
  deriving DecidableEq, Repr

namespace Attribute

open Grammar

/-- The attribute that tokens are. -/
def ofTokens? (ts : List Token) : Option Attribute := do
  let (path, rest) ← attributePath ts
  match skipGroup rest with
  | .some behind => if behind.isEmpty then .some ⟨path, .some rest.tail.dropLast⟩ else .none
  | .none =>
    match skip "=" rest with
    | .some value => if isAll attributeValue value then .some ⟨path, .none⟩ else .none
    | .none => if rest.isEmpty then .some ⟨path, .none⟩ else .none

/-- The attribute that a text is. -/
def ofText (text : String) : Except Fault Attribute :=
  match (Token.ofText? text).bind ofTokens? with
  | .some a => .ok a
  | .none => .error .malformed

/-- The attributes that texts are. -/
def ofTexts (texts : List String) : Except Fault (List Attribute) := texts.mapM ofText

/-- Whether an attribute gives options. -/
def givesOptions (a : Attribute) : Bool := a.path == ["orm"]

/-- The arguments of an attribute that must have some. -/
def arguments (a : Attribute) : Except Fault (List Token) :=
  match a.arguments? with
  | .some ts => .ok ts
  | .none => .error .malformed

end Attribute

/-! ## Fields -/

/-- The options of a field. -/
structure FieldOptions where
  column? : Option String
  name? : Option String
  skip : Bool
  deriving DecidableEq, Repr

namespace FieldOptions

/-- No options. -/
def none : FieldOptions := ⟨.none, .none, false⟩

/-- Takes an option with a value. -/
def withValue (o : FieldOptions) (key value : String) : Except Fault FieldOptions :=
  if Text.isBlankText value then .error .blankValue
  else if key = "column" then .ok { o with column? := .some value }
  else if key = "name" then .ok { o with name? := .some value }
  else .error .unknownFieldOption

/-- Reads one option on top of those read before. -/
def readOption (o : FieldOptions) : List Token → Except Fault (FieldOptions × List Token)
  | .word w :: ts =>
    if !Token.isName w then .error .malformed
    else if w = "skip" then .ok ({ o with skip := true }, ts)
    else
      match ts with
      | .mark '=' _ :: .text s :: ts => (o.withValue w s).map (·, ts)
      | _ => .error .malformed
  | _ => .error .malformed

/-- Reads options with commas between them, on top of those read before. -/
def read : (fuel : Nat) → FieldOptions → List Token → Except Fault FieldOptions
  | 0, _, _ => .error .malformed
  | _, o, [] => .ok o
  | fuel + 1, o, ts =>
    match readOption o ts with
    | .error e => .error e
    | .ok (o, []) => .ok o
    | .ok (o, .mark ',' _ :: ts) => read fuel o ts
    | .ok _ => .error .malformed

/-- The options of attributes; of those given twice the last counts. -/
def ofAttributes : FieldOptions → List Attribute → Except Fault FieldOptions
  | o, [] => .ok o
  | o, a :: as =>
    if a.givesOptions then
      match a.arguments with
      | .error e => .error e
      | .ok ts =>
        match read (ts.length + 1) o ts with
        | .error e => .error e
        | .ok o => ofAttributes o as
    else ofAttributes o as

end FieldOptions

/-! ## Structures -/

/-- Reads the table. -/
def readTable (ts : List Token) : Except Fault String :=
  match Grammar.attributePath ts with
  | .none => .error .malformed
  | .some (path, rest) =>
    match Grammar.skip "=" rest with
    | .none => .error .malformed
    | .some value =>
      if !Grammar.isAll Grammar.attributeValue value then .error .malformed
      else if path ≠ ["table"] then .error .unknownTableOption
      else
        match value with
        | [.text s] => .ok s
        | _ => .error .tableNotText

/-- The table of the first attribute that gives options. -/
def tableOf? : List Attribute → Except Fault (Option String)
  | [] => .ok .none
  | a :: as =>
    if a.givesOptions then
      match a.arguments with
      | .error e => .error e
      | .ok ts => (readTable ts).map .some
    else tableOf? as

end ParamQuery.Declaration
