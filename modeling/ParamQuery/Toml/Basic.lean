/-
TOML documents: tables of named values, and how statements of a document
fill them. A table may be opened once by a header, and is closed to headers
once keys with dots have made it; a name in a table is given once.
-/
namespace ParamQuery

/-- What made a table. -/
inductive Toml.Origin where
  /-- Its own header, or an entry of a list of tables. -/
  | header
  /-- The header of a table within it. -/
  | implied
  /-- A key with dots. -/
  | dotted
  /-- Braces; nothing is added to it. -/
  | braces
  deriving DecidableEq, Repr

/-- A value of a document. Of numbers with a fraction, dates and times nothing but the kind is
kept. -/
inductive Toml where
  | string (s : String)
  | integer (i : Int)
  | float
  | boolean (b : Bool)
  | moment
  | array (items : List Toml)
  | table (origin : Toml.Origin) (members : List (String × Toml))
  /-- A list of tables that have the same header. -/
  | tables (elements : List (List (String × Toml)))

namespace Toml

/-- The names and values of a table. -/
abbrev Members := List (String × Toml)

/-- Changes the member of a name, which may be absent. -/
def alter (name : String) (change : Option Toml → Option Toml) : Members → Option Members
  | [] => (change .none).map fun v => [(name, v)]
  | (n, v) :: rest =>
    if n = name then (change (.some v)).map fun v => (n, v) :: rest
    else (alter name change rest).map ((n, v) :: ·)

/-- Changes the last of a list. -/
def alterLast {α : Type} (change : α → Option α) : List α → Option (List α)
  | [] => .none
  | [a] => (change a).map ([·])
  | a :: as => (alterLast change as).map (a :: ·)

/-- Changes the table of a header's path. Tables that are absent are made. -/
def within : (path : List String) → (change : Members → Option Members) → Members → Option Members
  | [], change, ms => change ms
  | name :: path, change, ms =>
    alter name (fun
      | .none => (within path change []).map (.table .implied)
      | .some (.table .braces _) => .none
      | .some (.table origin ms) => (within path change ms).map (.table origin)
      | .some (.tables es) => (alterLast (within path change) es).map .tables
      | .some _ => .none) ms

/-- Opens the table of a header. -/
def openTable (path : List String) (name : String) : Members → Option Members :=
  within path (alter name fun
    | .none => .some (.table .header [])
    | .some (.table .implied ms) => .some (.table .header ms)
    | .some _ => .none)

/-- Opens another element of a list of tables. -/
def openElement (path : List String) (name : String) : Members → Option Members :=
  within path (alter name fun
    | .none => .some (.tables [[]])
    | .some (.tables es) => .some (.tables (es ++ [[]]))
    | .some _ => .none)

/-- Gives a value to a key, of which all names but the last are tables that such keys make. -/
def assign (v : Toml) : (path : List String) → Members → Option Members
  | [], _ => .none
  | [name], ms => alter name (fun old => if old.isSome then .none else .some v) ms
  | name :: path, ms =>
    alter name (fun
      | .none => (assign v path []).map (.table .dotted)
      | .some (.table .dotted ms) => (assign v path ms).map (.table .dotted)
      | .some (.table .implied ms) =>
        if 1 < path.length then (assign v path ms).map (.table .implied) else .none
      | .some _ => .none) ms

end Toml

end ParamQuery
