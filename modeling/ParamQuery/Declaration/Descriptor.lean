/-
Entities out of declarations of structures. A declaration must be readable
as a whole. It is refused for its form before its options are looked at,
and for the table before the fields; the first fault counts.
-/
import ParamQuery.Declaration.Attribute
import ParamQuery.Text.Ascii

namespace ParamQuery

namespace Declaration

/-- A field as it is declared. -/
structure DeclaredField where
  name : String
  type : String
  attributes : List String

/-- What is declared. -/
inductive Shape where
  | fields (fields : List DeclaredField)
  | tuple (types : List String)
  | unit
  | enumeration
  | union (fields : List DeclaredField)

/-- A field of the entity. -/
structure Member where
  name : String
  type : String
  property : String
  column? : Option String
  deriving DecidableEq, Repr

/-- The entity. -/
structure Descriptor where
  typeName : String
  table? : Option String
  members : List Member
  deriving DecidableEq, Repr

end Declaration

/-- A declaration. -/
structure Declaration where
  name : String
  /-- What stands behind the name. -/
  generics : String
  attributes : List String
  shape : Declaration.Shape

namespace Declaration

/-! ## Reading the whole -/

/-- Whether a text is nothing but what a reader reads. -/
def isText (reader : Grammar → Reader) (text : String) : Bool :=
  (Token.ofText? text).any (Grammar.isAll reader)

/-- Whether a text is one word, which names something or is one of some others. -/
def isNameOr (others : List String) (text : String) : Bool :=
  match Token.ofText? text with
  | .some [.word w] => Token.isName w || others.contains w
  | _ => false

/-- Whether a field is readable. A field may have an underscore for its name. -/
def DeclaredField.isReadable (f : DeclaredField) : Bool :=
  isNameOr ["_"] f.name && isText Grammar.anyType f.type && (Attribute.ofTexts f.attributes).isOk

/-- Whether what is declared is readable. -/
def Shape.isReadable : Shape → Bool
  | .fields fs | .union fs => fs.all DeclaredField.isReadable
  | .tuple types => types.all (isText Grammar.anyType)
  | .unit | .enumeration => true

/-- Whether conditions on parameters may stand in front of what is declared. -/
def Shape.allowsConditions : Shape → Bool
  | .tuple _ => false
  | _ => true

/-- Whether a declaration is readable. -/
def isReadable (d : Declaration) : Bool :=
  isNameOr [] d.name && isText (·.parametersAndConditions d.shape.allowsConditions) d.generics &&
    (Attribute.ofTexts d.attributes).isOk && d.shape.isReadable

/-! ## Entities -/

/-- Whether there is a parameter between the angle brackets. -/
def isGeneric (d : Declaration) : Bool :=
  match Token.ofText? d.generics with
  | .some ts => Grammar.sees "<" ts && !Grammar.sees ">" ts.tail
  | .none => false

/-- A name without the mark of a name that is a reserved word. -/
def plainName (name : String) : String :=
  .ofList ((Text.dropLead? ['r', '#'] name.toList).getD name.toList)

/-- The member that a field becomes, unless it is skipped. -/
def member? (f : DeclaredField) : Except Fault (Option Member) :=
  ((Attribute.ofTexts f.attributes).bind (FieldOptions.ofAttributes .none)).map fun o =>
    if o.skip then .none
    else .some ⟨f.name, f.type, o.name?.getD (plainName f.name), o.column?⟩

/-- The members of fields, in order. -/
def members : List DeclaredField → Except Fault (List Member)
  | [] => .ok []
  | f :: fs =>
    match member? f with
    | .error e => .error e
    | .ok m => (members fs).map (m.toList ++ ·)

/-- The fields, if the declaration has a form that can be an entity. -/
def namedFields (d : Declaration) : Except Fault (List DeclaredField) :=
  if d.isGeneric then .error .generic
  else
    match d.shape with
    | .fields fields => .ok fields
    | .tuple _ | .unit => .error .unnamedFields
    | .enumeration | .union _ => .error .notStructure

/-- The entity of a declaration. -/
def descriptor (d : Declaration) : Except Fault Descriptor :=
  if !d.isReadable then .error .malformed
  else
    match d.namedFields with
    | .error e => .error e
    | .ok fields =>
      match (Attribute.ofTexts d.attributes).bind tableOf? with
      | .error e => .error e
      | .ok table? => (members fields).map (⟨d.name, table?, ·⟩)

end Declaration

end ParamQuery
