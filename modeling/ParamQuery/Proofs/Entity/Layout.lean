/-
What the items of an entity hold.

Items are of any type, and a field is known by how it is written. A layout
says what the items hold under names, those of the fields and others: a
listed field reads a value on its own, whatever else is in the item, and
writes nothing but itself (`Field.Writes`). So a write is read back, and no
other name sees it (`Layout.assign_cases`).
-/
import ParamQuery.Entity.Basic

namespace ParamQuery

variable {α β γ : Type}

/-! ## Fields -/

/-- A field that is read on its own and writes only itself: `get` is what items hold under names, and
`read` what the field reads in a value, or why it reads nothing. -/
structure Field.Writes (f : Field α) (get : String → α → γ) (read : Value → Except String γ) : Prop where
  self : ∀ item v, (f.set item v).map (get f.property) = read v
  others : ∀ {item item' : α} {v : Value}, f.set item v = .ok item' →
    ∀ name, name ≠ f.property → get name item' = get name item

theorem Field.writes_of {get : String → α → γ} {property : String} {column? : Option String} {kind : ValueKind}
    {read : Value → Except String β} {write : α → β → α} (hold : β → γ)
    (hself : ∀ item w, get property (write item w) = hold w)
    (hothers : ∀ item w name, name ≠ property → get name (write item w) = get name item) :
    (Field.of property column? kind read write).Writes get fun v => (read v).map hold where
  self item v := by
    rw [Field.set_of]
    cases read v with
    | error message => rfl
    | ok w => exact congrArg Except.ok (hself item w)
  others {item item' v} hset name hname := by
    rw [Field.set_of] at hset
    cases h : read v with
    | error message =>
      rw [h] at hset
      cases hset
    | ok w =>
      rw [h] at hset
      cases hset
      exact hothers item w name hname

namespace Entity

/-! ## Entities -/

/-- What items hold under names, and what the listed fields read. All that they hold is of one type: that
of fields of several types is their sum. -/
structure Layout (e : Entity α) (γ : Type) where
  /-- What an item holds under a name. -/
  get : String → α → γ
  /-- What the field of a property reads in a value, or why it reads nothing. -/
  read : String → Value → Except String γ
  writes : ∀ f ∈ e.fields, f.Writes get (read f.property)

variable {e : Entity α}

theorem property_of_field? {property : String} {f : Field α} (h : e.field? property = .some f) :
    f.property = property :=
  eq_of_beq (List.find?_some (p := fun g : Field α => g.property == property) h)

/-- **What one write does.** The field holds what it reads, and every other name what it held; or the
field refuses the value. -/
theorem Layout.assign_cases (l : e.Layout γ) {property : String} {f : Field α} (hf : e.field? property = .some f)
    (item : α) (v : Value) :
    (∃ item', e.assign item property v = .ok item' ∧ l.read property v = .ok (l.get property item') ∧
        ∀ name, name ≠ property → l.get name item' = l.get name item) ∨
      ∃ message, e.assign item property v = .error message ∧ l.read property v = .error message := by
  have hassign : e.assign item property v = f.set item v := by rw [assign, hf]
  have hwrites := l.writes f (List.mem_of_find?_eq_some hf)
  obtain rfl := property_of_field? hf
  have hself := hwrites.self item v
  rw [hassign]
  cases hset : f.set item v with
  | ok item' =>
    rw [hset] at hself
    exact .inl ⟨item', rfl, hself.symm, hwrites.others hset⟩
  | error message =>
    rw [hset] at hself
    exact .inr ⟨message, rfl, hself.symm⟩

end Entity

/-! ### Fields of examples -/

/-- Reads a whole number. -/
def readNumber (v : Value) : Except String Int64 := v.toInt64.mapError fun _ => "not a whole number"

/-- Reads a text. -/
def readText (v : Value) : Except String String := v.toText.mapError fun _ => "not a text"

end ParamQuery
