/-
The types of the database that parameters and cells have.
-/
namespace ParamQuery

/-- A type of the database. -/
inductive PgType where
  | bool
  | int2
  | int4
  | int8
  | float4
  | float8
  | numeric
  | text
  | varchar
  | bpchar
  | name
  | unknown
  | date
  | timestamp
  | timestamptz
  | uuid
  | json
  | jsonb
  | bytea
  /-- A type that values have no rule for. -/
  | other (name : String)
  deriving DecidableEq, Repr

namespace PgType

/-- Whether the type holds text in which any value can be written. -/
def isText : PgType → Bool
  | .text | .varchar | .bpchar | .name => true
  | _ => false

/-- The types that have a rule, by their names. -/
def named : List (String × PgType) :=
  [("bool", .bool), ("int2", .int2), ("int4", .int4), ("int8", .int8), ("float4", .float4),
    ("float8", .float8), ("numeric", .numeric), ("text", .text), ("varchar", .varchar),
    ("bpchar", .bpchar), ("name", .name), ("unknown", .unknown), ("date", .date),
    ("timestamp", .timestamp), ("timestamptz", .timestamptz), ("uuid", .uuid), ("json", .json),
    ("jsonb", .jsonb), ("bytea", .bytea)]

/-- The name under which the database keeps a type: that of an array is the name of its elements
behind an underscore. -/
def catalogName (s : String) : String :=
  match s.toList.reverse with
  | ']' :: '[' :: element => "_" ++ .ofList element.reverse
  | _ => s

/-- The type of a name. -/
def ofName (s : String) : PgType := (named.lookup s).getD (.other (catalogName s))

end PgType

end ParamQuery
