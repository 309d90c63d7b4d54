/-
Which column of a result each field of an entity is read from, and the
items that rows become.

The first rule that applies to a field decides: the column that the query
maps it to; the column it declares, if the query selects that; a column of
its own name, if the query asks for such. A row in which no rule applies to
any field becomes no item.
-/
import ParamQuery.Entity.Basic
import ParamQuery.Entity.FieldMap
import ParamQuery.Select.Projection
import ParamQuery.Row

namespace ParamQuery

/-- The rule by which a field has its column. -/
inductive Origin where
  /-- The query maps it. -/
  | mapped
  /-- The entity declares it. -/
  | declared
  /-- The names are equal. -/
  | named
  deriving DecidableEq, Repr

/-- A field and the column it is read from. -/
structure Route where
  property : String
  column : String
  origin : Origin
  /-- Whether the field keeps its default if the row lacks the column. -/
  optional : Bool
  deriving DecidableEq, Repr

/-- How rows become items. -/
structure Routing (α : Type) where
  entity : Entity α
  projection : Projection
  map? : Option FieldMap
  byName : Bool

namespace Routing

variable {α : Type}

/-- The column of a result that holds a declared column, if it is selected; and whether a row may
lack it, as behind a wildcard. -/
def selected? (r : Routing α) (column : String) : Option (String × Bool) :=
  match r.projection.find? column with
  | .some e => .some (e.outputName, false)
  | .none => if r.projection.hasWildcard then .some (column, true) else .none

/-- The route by the query's map. -/
def mapped? (r : Routing α) (f : Field α) : Option Route :=
  (r.map?.bind (·.get? f.property)).map fun column =>
    ⟨f.property, (Projection.Entry.read column).outputName, .mapped, false⟩

/-- The route by the declared column. -/
def declared? (r : Routing α) (row : Row) (f : Field α) : Option Route :=
  (f.column?.bind r.selected?).bind fun (column, optional) =>
    if !optional || row.hasColumn column then .some ⟨f.property, column, .declared, optional⟩
    else .none

/-- The route by the field's own name. -/
def named? (r : Routing α) (row : Row) (f : Field α) : Option Route :=
  if r.byName && row.hasColumn f.property then .some ⟨f.property, f.property, .named, true⟩
  else .none

/-- The route of a field. -/
def route? (r : Routing α) (row : Row) (f : Field α) : Option Route :=
  r.mapped? f <|> r.declared? row f <|> r.named? row f

/-- The routes of all fields that have one, in the order of the fields. -/
def routes (r : Routing α) (row : Row) : List Route := r.entity.fields.filterMap (r.route? row)

/-- Reads the field of a route. -/
def readField (e : Entity α) (row : Row) (item : α) (route : Route) : Except Error α :=
  match row.get? route.column with
  | .some v => (e.assign item route.property v).mapError (.decode route.column)
  | .none => if route.optional then .ok item else .error (.absentColumn route.column)

/-- Reads the fields of routes, in order. -/
def readFields (e : Entity α) (row : Row) : α → List Route → Except Error α
  | item, [] => .ok item
  | item, route :: routes =>
    match readField e row item route with
    | .ok item => readFields e row item routes
    | .error fault => .error fault

/-- The item of a row; none if no field has a route. -/
def item? (r : Routing α) (row : Row) : Except Error (Option α) :=
  match r.routes row with
  | [] => .ok .none
  | routes => (readFields r.entity row r.entity.blank routes).map .some

/-- The items of rows, in order. -/
def items (r : Routing α) : List Row → Except Error (List α)
  | [] => .ok []
  | row :: rows =>
    match r.item? row with
    | .error fault => .error fault
    | .ok item => (r.items rows).map (item.toList ++ ·)

end Routing

end ParamQuery
