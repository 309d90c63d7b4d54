/-
SELECT statements of an entity, built call by call.

The first mistake of the calls is kept, and tells why no statement can be
made. A limit and an order once given stay; a source given again replaces
the one before; filters given one after the other must all hold. Columns
can be ordered by, removed and replaced only if the entity declares them.
-/
import ParamQuery.Entity.Routing
import ParamQuery.Filter.Basic
import ParamQuery.Outcome
import ParamQuery.Select.Statement

namespace ParamQuery.Select

/-- A join that is asked for. Without a condition nothing is joined. -/
structure JoinRequest where
  kind : JoinKind
  table : String
  alias? : Option String
  condition? : Option String

/-- The join that is made. -/
def JoinRequest.join? (r : JoinRequest) : Option Join :=
  r.condition?.map fun condition =>
    ⟨r.kind, Text.trimmed r.table, r.alias?.bind Text.nonBlank?, Text.trimmed condition⟩

/-- A call that changes a query. -/
inductive Call where
  /-- At most `n` rows. -/
  | top (n : Nat)
  /-- No row twice. -/
  | distinct
  /-- From a table. -/
  | fromTable (table : String)
  /-- From the table that the entity declares. -/
  | fromDefaultTable
  /-- From a table and tables joined to it. -/
  | fromView (table : String) (alias? : Option String) (joins : List JoinRequest)
  /-- Only rows that the filter keeps. -/
  | restrict (steps : List Filter.Step)
  /-- In the order of a declared column. -/
  | orderBy (column : String) (descending : Bool)
  /-- Without a declared column. -/
  | removeColumn (column : String)
  /-- With another expression for a declared column. -/
  | mapColumn (column expression : String) (alias? : Option String)
  /-- With fields mapped to columns, which are all that is selected. -/
  | mapFields (map : FieldMap)
  /-- With fields filled from columns of their own names. -/
  | byPropertyName

/-- A query under construction. -/
structure Query (α : Type) where
  entity : Entity α
  statement : Statement
  params : Params
  map? : Option FieldMap
  byName : Bool
  /-- The first mistake. -/
  fault? : Option String

variable {α : Type}

/-! ## Mistakes -/

/-- Said when nothing is selected. -/
def noFields : String :=
  "No database fields specified. Pass fields to select_fields(...), declare #[orm(column = ...)] " ++
    "on the entity, or supply a field map with map_fields(...)"

/-- Said when a list of fields has none. -/
def noFieldList : String := "You have to specify the fields for the query."

/-- Said when there is no source. -/
def noSource : String :=
  "No source table specified. Call from(...), from_default_table() or from_view(...)"

/-- Said when an entity declares no table. -/
def noDefaultTable (e : Entity α) : String :=
  "The type " ++ e.typeName ++ " does not have a default table declared."

/-- Said when an entity declares no column. -/
def noColumns (e : Entity α) : String :=
  "The type " ++ e.typeName ++ " does not declare any database column."

namespace Query

/-- Keeps a mistake, unless there was one. -/
def mistake (q : Query α) (message : String) : Query α :=
  { q with fault? := q.fault? <|> .some message }

/-! ## Beginnings -/

/-- A query of an entity that selects `projection`. -/
def selecting (e : Entity α) (projection : Projection) (distinct : Bool) : Query α where
  entity := e
  statement := ⟨projection, .none, [], .none, distinct, .none⟩
  params := []
  map? := .none
  byName := false
  fault? := .none

/-- A query of the declared columns. -/
def ofColumns (e : Entity α) (distinct : Bool) : Query α :=
  selecting e (.ofFields e.columns) distinct

/-- A query of a list of fields. -/
def ofFields (e : Entity α) (fields : List String) (distinct : Bool) : Query α :=
  let q := selecting e (.ofFields fields) distinct
  if q.statement.projection.isEmpty then q.mistake noFieldList else q

/-! ## Calls -/

/-- The query with another statement. -/
def withStatement (q : Query α) (change : Statement → Statement) : Query α := { q with statement := change q.statement }

/-- The query with another source. -/
def withSource (q : Query α) (s : Source) : Query α := q.withStatement ({ · with source? := .some s })

/-- Limits the rows, if they are not limited yet. No rows at all is no limit. -/
def top (q : Query α) (n : Nat) : Query α :=
  if q.statement.top?.isNone && 1 ≤ n then q.withStatement ({ · with top? := .some n }) else q

/-- Takes the table that the entity declares. -/
def fromDefaultTable (q : Query α) : Query α :=
  match q.entity.table? with
  | .some table => q.withSource ⟨table, .none, []⟩
  | .none => q.mistake (noDefaultTable q.entity)

/-- Adds a filter. -/
def restrict (q : Query α) (steps : List Filter.Step) : Query α :=
  let f := (Filter.continuing q.params).run steps
  { q.withStatement fun p => { p with predicates := Filter.conjoin p.predicates f.predicates } with
    params := f.params }

/-- Orders the rows, if they have no order yet. -/
def orderBy (q : Query α) (column : String) (descending : Bool) : Query α :=
  if q.statement.order?.isNone && q.entity.hasColumn column then
    q.withStatement ({ · with order? := .some ⟨column, descending⟩ })
  else q

/-- Changes what is selected for a declared column. -/
def withProjection (q : Query α) (column : String) (change : Projection → Projection) : Query α :=
  if q.entity.hasColumn column then
    q.withStatement fun p => { p with projection := change p.projection }
  else q

/-- Maps fields to columns. -/
def mapFields (q : Query α) (m : FieldMap) : Query α :=
  let q :=
    if m.isEmpty then
      if q.statement.projection.isEmpty then q.mistake noFields else q
    else q.withStatement ({ · with projection := .ofFields m.columns })
  { q with map? := .some m }

/-- The query after a call. -/
def after (q : Query α) : Call → Query α
  | .top n => q.top n
  | .distinct => q.withStatement ({ · with distinct := true })
  | .fromTable table => q.withSource ⟨Text.trimmed table, .none, []⟩
  | .fromDefaultTable => q.fromDefaultTable
  | .fromView table alias? joins =>
    q.withSource ⟨Text.trimmed table, alias?.bind Text.nonBlank?, joins.filterMap (·.join?)⟩
  | .restrict steps => q.restrict steps
  | .orderBy column descending => q.orderBy column descending
  | .removeColumn column => q.withProjection column (·.erase column)
  | .mapColumn column expression alias? =>
    q.withProjection column (·.substitute column (.make expression alias?))
  | .mapFields m => q.mapFields m
  | .byPropertyName => { q with byName := true }

/-- The query after calls, in order. -/
def run (q : Query α) (calls : List Call) : Query α := calls.foldl after q

/-- A query of the declared columns in the declared table. -/
def auto (e : Entity α) : Query α :=
  let q := ofColumns e false
  (if e.columns.isEmpty then q.mistake (noColumns e) else q).fromDefaultTable

/-- The text of the statement so far. -/
def text (q : Query α) : String := q.statement.text .named

end Query

/-! ## Statements -/

/-- A statement that is ready to run. -/
structure Prepared (α : Type) where
  /-- The text with named markers. -/
  sql : String
  bound : BoundStatement
  routing : Routing α

namespace Query

/-- How the rows become items. -/
def routing (q : Query α) : Routing α := ⟨q.entity, q.statement.projection, q.map?, q.byName⟩

/-- Why the query makes no statement, if it does not. -/
def incomplete? (q : Query α) : Option String :=
  q.fault? <|>
    if q.statement.projection.isEmpty then .some noFields
    else if q.statement.source?.isNone then .some noSource
    else .none

/-- Makes the statement. -/
def prepare (q : Query α) (d : Dialect) : Except Error (Prepared α) :=
  match q.incomplete? with
  | .some message => .error (.configuration message)
  | .none => (d.bind (q.statement.text d) q.params).map fun s => ⟨q.text, s, q.routing⟩

end Query

/-! ## Results -/

/-- The outcome of asking for all items. -/
def listOutcome (items : Except Error (List α)) : Outcome (List α) :=
  .captured "There was an exception while getting the items." items

/-- The outcome of asking for one item. -/
def oneOutcome : Except Error (List α) → Outcome α
  | .ok [] => .failed "There was no item that matched the criteria specified"
  | .ok [item] => .success item
  | .ok (_ :: _ :: _) =>
    .failed "The query returned more than one item with the criteria specified"
  | .error e => .raised "There was an exception while getting the item." e

end ParamQuery.Select
