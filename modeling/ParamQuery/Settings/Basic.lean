/-
Connection settings, and the connection string that they make: one that is
given as a whole, or else key and value pairs in a fixed order. Settings
are shown without their secrets.
-/
import ParamQuery.Error
import ParamQuery.Text.Blank
import ParamQuery.Text.Quoted

namespace ParamQuery

/-- Settings of a connection. -/
structure Settings where
  connectionString? : Option String
  server? : Option String
  tcpPort? : Option Nat
  database? : Option String
  user? : Option String
  password? : Option String
  applicationName? : Option String
  deriving DecidableEq, Repr

namespace Settings

/-- No settings. -/
def empty : Settings := ⟨.none, .none, .none, .none, .none, .none, .none⟩

/-- The settings for a database on a server. -/
def ofServer (server database : String) : Settings :=
  { empty with server? := .some server, database? := .some database }

/-- The settings of a connection string. -/
def ofConnectionString (s : String) : Settings := { empty with connectionString? := .some s }

/-- The settings of the environment, which may hold a connection string. -/
def ofEnvironment : Option String → Except Error Settings
  | .some s => .ok (ofConnectionString s)
  | .none => .error (.configuration "DATABASE_URL is not set")

/-! ## Connection strings -/

/-- A text that is given and not blank. -/
def given? (s : Option String) : Option String := s.filter (!Text.isBlankText ·)

/-- The error of a setting that is missing. -/
def missing (key : String) : Error :=
  .configuration ("database config needs `" ++ key ++ "` when no connection_string is set")

/-- Whether a character forces quotes around its value. -/
def needsQuotes (c : Char) : Bool := Text.isBlank c || c == '\'' || c == '\\'

/-- A character within quotes. -/
def escapeChar (c : Char) : List Char := if c == '\'' || c == '\\' then ['\\', c] else [c]

/-- A value of a pair, in quotes if it must be. -/
def quoteValue (s : String) : String :=
  if s.toList.isEmpty || s.toList.any needsQuotes then
    .ofList ('\'' :: s.toList.flatMap escapeChar ++ ['\''])
  else s

/-- The pair of a key and a text that may be missing. -/
def textPair? (key : String) (s : Option String) : Option String :=
  s.map fun s => key ++ "=" ++ quoteValue s

/-- The pairs, in order. -/
def pairs (s : Settings) : List String :=
  [textPair? "host" s.server?, textPair? "dbname" s.database?,
    s.tcpPort?.map fun n => "port=" ++ Number.natText n, textPair? "user" s.user?,
    textPair? "password" s.password?, textPair? "application_name" s.applicationName?].filterMap id

/-- The connection string. Pairs need a server and a database. -/
def connectionString (s : Settings) : Except Error String :=
  match given? s.connectionString? with
  | .some c => .ok c
  | .none =>
    if (given? s.server?).isNone then .error (missing "server")
    else if (given? s.database?).isNone then .error (missing "db_name")
    else .ok (" ".intercalate s.pairs)

/-! ## Showing settings -/

/-- A secret, of which only the presence shows. -/
def hidden (s : Option String) : String :=
  Text.optionText (fun _ => Text.quoted "<redacted>") s

/-- The settings with everything but their secrets. -/
def detail (s : Settings) : String :=
  Text.recordText "DatabaseConfig"
    [("backend", "Postgres"), ("connection_string", hidden s.connectionString?),
      ("server", Text.optionText Text.quoted s.server?),
      ("port", Text.optionText id (s.tcpPort?.map Number.natText)),
      ("db_name", Text.optionText Text.quoted s.database?),
      ("user", Text.optionText Text.quoted s.user?), ("password", hidden s.password?),
      ("application_name", Text.optionText Text.quoted s.applicationName?)]

end Settings

end ParamQuery
