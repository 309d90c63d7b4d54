/-
Settings out of a TOML document. Names that are not known are ignored.
-/
import ParamQuery.Settings.Basic
import ParamQuery.Toml.Reader

namespace ParamQuery.Settings

/-- The text of a name, if there is one; a value of another kind is refused. -/
def readText? (ms : Toml.Members) (name : String) : Option (Option String) :=
  match ms.lookup name with
  | .none => .some .none
  | .some (.string s) => .some (.some s)
  | .some _ => .none

/-- The TCP port, if there is one; a value that is none is refused. -/
def readTcpPort? (ms : Toml.Members) : Option (Option Nat) :=
  match ms.lookup "port" with
  | .none => .some .none
  | .some (.integer i) => if 0 ≤ i ∧ i < 65536 then .some (.some i.toNat) else .none
  | .some _ => .none

/-- Whether a value is empty, as that of a name which needs none. -/
def isUnit : Toml → Bool
  | .array [] | .table _ [] => true
  | _ => false

/-- Whether the backend is one that there is, or is not named. -/
def hasBackend (ms : Toml.Members) : Bool :=
  match ms.lookup "backend" with
  | .none => true
  | .some (.string s) => s == "postgres"
  | .some (.table _ [(name, v)]) => name == "postgres" && isUnit v
  | .some _ => false

/-- The settings of a table. Names that are not known are ignored. -/
def ofMembers? (ms : Toml.Members) : Option Settings := do
  if !hasBackend ms then .none
  let connectionString? ← readText? ms "connection_string"
  let server? ← readText? ms "server"
  let tcpPort? ← readTcpPort? ms
  let database? ← readText? ms "db_name"
  let user? ← readText? ms "user"
  let password? ← readText? ms "password"
  let applicationName? ← readText? ms "application_name"
  .some ⟨connectionString?, server?, tcpPort?, database?, user?, password?, applicationName?⟩

/-- What the message about a document that gives no settings begins with. -/
def invalidDocument : String := "invalid database config: "

/-- The settings of a document. What follows in the message is the account of the library that reads
documents; one text stands for what it says of each of the two mistakes. -/
def ofToml (document : String) : Except Error Settings :=
  match Toml.read? document.toList with
  | .none => .error (.configuration (invalidDocument ++ "the document cannot be read"))
  | .some ms =>
    match ofMembers? ms with
    | .some s => .ok s
    | .none => .error (.configuration (invalidDocument ++ "a setting has a wrong value"))

end ParamQuery.Settings
