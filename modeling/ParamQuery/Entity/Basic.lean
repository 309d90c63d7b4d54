/-
Entities: what a type of items states about the table it is stored in. The
items are of any type. An entity knows the item that every item starts from
and, for each field, how a value is written into it. What a field holds, and
which values it refuses in which words, is up to the field.
-/
import ParamQuery.Value.Coercion

namespace ParamQuery

/-- A field of items: the property it is known by, the column it is stored in, if one is declared,
the kind that it states, and how a value is written into it. -/
structure Field (α : Type) where
  property : String
  column? : Option String
  kind : ValueKind
  /-- The item with what is read of the value in the field; or why nothing is. -/
  set : α → Value → Except String α

/-- What is stated about items. -/
structure Entity (α : Type) where
  typeName : String
  table? : Option String
  fields : List (Field α)
  /-- The item that every item starts from. -/
  blank : α

variable {α β : Type}

/-- A field that holds what `read` makes of a value. -/
def Field.of (property : String) (column? : Option String) (kind : ValueKind)
    (read : Value → Except String β) (write : α → β → α) : Field α where
  property := property
  column? := column?
  kind := kind
  set item v := (read v).map (write item)

theorem Field.set_of {property : String} {column? : Option String} {kind : ValueKind}
    {read : Value → Except String β} {write : α → β → α} (item : α) (v : Value) :
    (Field.of property column? kind read write).set item v = (read v).map (write item) := rfl

namespace Entity

/-- The declared columns, in the order of the fields. -/
def columns (e : Entity α) : List String := e.fields.filterMap (·.column?)

/-- Whether a field declares exactly the column. -/
def hasColumn (e : Entity α) (column : String) : Bool := e.fields.any (·.column? == .some column)

/-- The place of a field. -/
def place? (e : Entity α) (property : String) : Option Nat :=
  e.fields.findIdx? (·.property == property)

/-- The field of a property. -/
def field? (e : Entity α) (property : String) : Option (Field α) :=
  e.fields.find? (·.property == property)

/-- Reads a value into the field of a property. Nothing happens if there is no such field. -/
def assign (e : Entity α) (item : α) (property : String) (v : Value) : Except String α :=
  match e.field? property with
  | .some f => f.set item v
  | .none => .ok item

end Entity

end ParamQuery
