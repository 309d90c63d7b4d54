/-
What a statement selects: a list of expressions, each with the name that
its column carries in the result. A column of the database is looked up in
the list by its expression as it stands, or by its name in the result,
where case does not count.

`substitute_length`: a substitution keeps the number of entries.
`find?_erase`: nothing that a column finds survives its removal.
-/
import ParamQuery.Text.Ascii
import ParamQuery.Text.Blank

namespace ParamQuery

namespace Projection

/-- A selected expression, with an alias or without. -/
structure Entry where
  expression : String
  alias? : Option String
  deriving DecidableEq, Repr

namespace Entry

/-- The entry of an expression and an alias; a blank alias is none. -/
def make (expression : String) (alias? : Option String) : Entry :=
  ⟨Text.trimmed expression, alias?.bind Text.nonBlank?⟩

/-- What stands behind the word `AS` with a space on both sides, in any case, at the front. -/
def behindAs? : List Char → Option (List Char)
  | ' ' :: a :: s :: ' ' :: rest =>
    if a.toUpper = 'A' ∧ s.toUpper = 'S' then .some rest else .none
  | _ => .none

/-- Cuts a text at its last `AS`. -/
def cutAtAs? : List Char → Option (List Char × List Char)
  | [] => .none
  | c :: cs =>
    match cutAtAs? cs with
    | .some (before, after) => .some (c :: before, after)
    | .none => (behindAs? (c :: cs)).map fun after => ([], after)

/-- Reads a field such as `a.Name AS Title`. -/
def read (field : String) : Entry :=
  match cutAtAs? (Text.trim field.toList) with
  | .some (before, after) => make (.ofList before) (.some (.ofList after))
  | .none => make field .none

/-- The last segment of a dotted text. -/
def lastSegment (s : String) : String :=
  .ofList (s.toList.reverse.takeWhile (· != '.')).reverse

/-- The name of the entry's column in the result: the alias, or else the last segment of the
expression. -/
def outputName (e : Entry) : String := e.alias?.getD (lastSegment e.expression)

/-- Whether a column is the entry's expression or its name in the result. -/
def isFor (column : String) (e : Entry) : Bool :=
  e.expression == column || Text.sameIgnoringCase e.outputName column

/-- Whether the entry stands for all columns of a table. -/
def isWildcard (e : Entry) : Bool :=
  e.alias?.isNone && (e.expression == "*" || e.expression.endsWith ".*")

/-- The entry as it is written in a statement. -/
def text (e : Entry) : String :=
  match e.alias? with
  | .some a => e.expression ++ " AS " ++ a
  | .none => e.expression

end Entry

end Projection

/-- What a statement selects, in order. -/
abbrev Projection := List Projection.Entry

namespace Projection

/-- The entries of a list of fields; blank ones are left out. -/
def ofFields (fields : List String) : Projection :=
  (fields.filter (!Text.isBlankText ·)).map Entry.read

/-- The text of the list. -/
def text (p : Projection) : String := ", ".intercalate (p.map Entry.text)

/-- The first entry for a column. -/
def find? (p : Projection) (column : String) : Option Entry := List.find? (Entry.isFor column) p

/-- Whether a column has an entry. -/
def selects (p : Projection) (column : String) : Bool := p.any (Entry.isFor column)

/-- The list without the entries for a column. -/
def erase (p : Projection) (column : String) : Projection := p.filter (!Entry.isFor column ·)

/-- The list with `e` in place of each entry for a column. -/
def substitute (p : Projection) (column : String) (e : Entry) : Projection :=
  p.map fun old => if old.isFor column then e else old

/-- Whether an entry stands for all columns of a table. -/
def hasWildcard (p : Projection) : Bool := p.any Entry.isWildcard

theorem substitute_length (p : Projection) (column : String) (e : Entry) :
    (p.substitute column e).length = p.length := by
  simp [substitute]

theorem find?_erase (p : Projection) (column : String) : (p.erase column).find? column = .none := by
  simp [erase, find?, List.find?_eq_none]

end Projection

end ParamQuery
