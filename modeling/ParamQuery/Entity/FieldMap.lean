/-
A map from the fields of an entity to columns, in the order in which fields
were first mapped. Mapping a field again changes its column and keeps its
place.

`get?_insert_self`, `get?_insert_other`: what a field is mapped to after an
insertion.
-/
namespace ParamQuery

/-- Pairs of a field and the column that it is mapped to. -/
abbrev FieldMap := List (String × String)

namespace FieldMap

/-- Maps a field to a column. -/
def insert (m : FieldMap) (property column : String) : FieldMap :=
  match m with
  | [] => [(property, column)]
  | (p, c) :: rest => if p = property then (p, column) :: rest else (p, c) :: insert rest property column

/-- The map after the insertions of a list, in order. -/
def ofPairs (pairs : List (String × String)) : FieldMap :=
  pairs.foldl (fun m p => m.insert p.1 p.2) []

/-- The column that a field is mapped to. -/
def get? (m : FieldMap) (property : String) : Option String :=
  (m.find? (·.1 == property)).map (·.2)

/-- The columns, in order. -/
def columns (m : FieldMap) : List String := m.map (·.2)

/-- The fields, in order. -/
def properties (m : FieldMap) : List String := m.map (·.1)

theorem get?_insert_self (m : FieldMap) (p c : String) : (m.insert p c).get? p = .some c := by
  induction m with
  | nil => simp [insert, get?]
  | cons q m ih =>
    simp only [insert]
    split
    · rename_i h; simp [get?, h]
    · rename_i h; simpa [get?, h] using ih

theorem get?_insert_other (m : FieldMap) {p q : String} (c : String) (h : q ≠ p) :
    (m.insert p c).get? q = m.get? q := by
  induction m with
  | nil => simp [insert, get?, Ne.symm h]
  | cons r m ih =>
    simp only [insert]
    split
    · rename_i hr
      have : ¬r.1 = q := fun e => h (e.symm.trans hr)
      simp [get?, this]
    · by_cases hq : r.1 = q
      · simp [get?, hq]
      · simpa [get?, hq] using ih

end FieldMap

end ParamQuery
