/-
What can go wrong, as a caller sees it.
-/
import ParamQuery.Text.Quoted

namespace ParamQuery

/-- An error of building a statement, or of talking to the database. -/
inductive Error where
  /-- There is no connection. -/
  | connection (message : String)
  /-- The database refused a statement. -/
  | query (message : String)
  /-- A key is there already. -/
  | uniqueViolation (message : String)
  /-- A reference points nowhere. -/
  | foreignKeyViolation (message : String)
  /-- The statement or the settings are incomplete. -/
  | configuration (message : String)
  /-- A cell does not fit the field it is for. -/
  | decode (column message : String)
  /-- A transaction is not in the state it must be in. -/
  | transaction (message : String)
  | other (message : String)
  deriving DecidableEq, Repr

namespace Error

/-- The text of an error. -/
def display : Error → String
  | .connection m => "Connection error: " ++ m
  | .query m => "Query error: " ++ m
  | .uniqueViolation m => "Unique constraint violation: " ++ m
  | .foreignKeyViolation m => "Foreign key violation: " ++ m
  | .configuration m => "Configuration error: " ++ m
  | .decode c m => "Decode error on column '" ++ c ++ "': " ++ m
  | .transaction m => "Transaction error: " ++ m
  | .other m => m

/-- The name of the kind of an error. -/
def kind : Error → String
  | .connection _ => "Connection"
  | .query _ => "Query"
  | .uniqueViolation _ => "UniqueViolation"
  | .foreignKeyViolation _ => "ForeignKeyViolation"
  | .configuration _ => "Configuration"
  | .decode .. => "Decode"
  | .transaction _ => "Transaction"
  | .other _ => "Other"

/-- The kind with everything the error carries. -/
def detail : Error → String
  | .decode c m => Text.recordText "Decode" [("column", Text.quoted c), ("message", Text.quoted m)]
  | e@(.connection m) | e@(.query m) | e@(.uniqueViolation m) | e@(.foreignKeyViolation m)
  | e@(.configuration m) | e@(.transaction m) | e@(.other m) =>
    e.kind ++ "(" ++ Text.quoted m ++ ")"

/-- Whether a statement or settings are incomplete. -/
def isConfiguration : Error → Bool
  | .configuration _ => true
  | _ => false

/-- Whether a cell does not fit its field. -/
def isDecode : Error → Bool
  | .decode .. => true
  | _ => false

/-- Whether a key is there already. -/
def isUniqueViolation : Error → Bool
  | .uniqueViolation _ => true
  | _ => false

end Error

end ParamQuery
