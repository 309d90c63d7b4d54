/-
What a row makes of an item, field by field.

`item?_eq`: the fields are filled one after the other, each along its own
route, up to the first that is not, whose error is the error of the row. A
row in which no field has a route makes no item.

`item?_of_carries`: a row that has the columns of a projection, up to case,
and no others. There nothing is absent: a field is filled from the cell of
the entry that its column finds, or left as it is.
-/
import ParamQuery.Proofs.Entity.Lookup

namespace ParamQuery

open Projection (Entry)

variable {α : Type}

/-- The item with a cell read into a field; `name` is the name of the cell's column in the result. -/
def Field.fill (f : Field α) (item : α) (name : String) (v : Value) : Except Error α :=
  (f.set item v).mapError (.decode name)

/-- An item of which each field is filled from the cell that `cell?` has for it, or left as it is. A cell
comes with the name of its column. -/
def Entity.fill (e : Entity α) (cell? : Field α → Option (String × Value)) : Except Error α :=
  let step (item : α) (f : Field α) : Except Error α :=
    match cell? f with
    | .none => .ok item
    | .some (name, v) => f.fill item name v
  e.fields.foldlM step e.blank

namespace Projection

/-- The place of the first entry for a column. -/
def place? (p : Projection) (column : String) : Option Nat := p.findIdx? (Entry.isFor column)

theorem find?_of_place? {p : Projection} {column : String} {k : Nat} (h : p.place? column = .some k) :
    ∃ entry, p[k]? = .some entry ∧ p.find? column = .some entry := by
  obtain ⟨hk, -, -⟩ := List.findIdx?_eq_some_iff_getElem.1 h
  refine ⟨p[k], List.getElem?_eq_getElem hk, ?_⟩
  rw [find?, List.find?_eq_bind_findIdx?_getElem?, ← place?, h, Option.bind_some, List.getElem?_eq_getElem hk]

theorem find?_eq_none_iff {p : Projection} {column : String} :
    p.find? column = .none ↔ p.place? column = .none := by
  simp [find?, place?, List.findIdx?_eq_none_iff]

theorem AreApart.nodup {columns : List String} (h : AreApart columns) : columns.Nodup := by
  refine List.Pairwise.imp (fun {a b} hne heq => ?_) h
  rw [heq, Text.sameIgnoringCase_iff.2 rfl] at hne
  cases hne

/-- A column finds the place of its own entry. -/
theorem place?_bare {columns : List String} (h : AreApart columns) {column : String} {j : Nat}
    (hj : columns[j]? = .some column) : place? (columns.map Entry.bare) column = .some j := by
  have hmem := List.mem_of_getElem? hj
  have hentry : (columns.map Entry.bare)[j]? = .some (.bare column) := by
    rw [List.getElem?_map, hj, Option.map_some]
  refine findIdx?_eq_some_of_unique hentry ((isFor_bare_iff h hmem hmem).2 rfl) fun i e hi hfor => ?_
  rw [List.getElem?_map] at hi
  obtain ⟨other, hother, rfl⟩ := Option.map_eq_some_iff.1 hi
  rw [(isFor_bare_iff h (List.mem_of_getElem? hother) hmem).1 hfor] at hother
  exact (List.getElem?_inj (List.getElem?_eq_some_iff.1 hother).1 h.nodup).1 (hother.trans hj.symm)

end Projection

namespace Row

variable {row : Row} {column : String}

theorem hasColumn_iff :
    row.hasColumn column = true ↔ ∃ name ∈ row.columns, Text.asciiLower name = Text.asciiLower column := by
  have hor : row.hasColumn column =
      (row.columns.any (· == column) || row.columns.any (Text.sameIgnoringCase · column)) := by
    rw [hasColumn, position?, Option.orElse_eq_orElse, Option.orElse_eq_or, Option.isSome_or, place?, place?,
      List.findIdx?_isSome, List.findIdx?_isSome]
  rw [hor, Bool.or_eq_true, List.any_eq_true, List.any_eq_true]
  constructor
  · rintro (⟨name, hname, heq⟩ | ⟨name, hname, hsame⟩)
    · exact ⟨name, hname, by rw [eq_of_beq heq]⟩
    · exact ⟨name, hname, Text.sameIgnoringCase_iff.1 hsame⟩
  · rintro ⟨name, hname, hsame⟩
    exact .inr ⟨name, hname, Text.sameIgnoringCase_iff.2 hsame⟩

/-- Where a column is found, it stands, up to case. -/
theorem same_of_position? {k : Nat} (h : row.position? column = .some k) :
    ∃ name, row.columns[k]? = .some name ∧ Text.asciiLower name = Text.asciiLower column := by
  rw [position?, Option.orElse_eq_orElse, Option.orElse_eq_or, Option.or_eq_some_iff] at h
  rcases h with hexact | ⟨-, hsame⟩
  · obtain ⟨hk, heq, -⟩ := List.findIdx?_eq_some_iff_getElem.1 hexact
    exact ⟨_, List.getElem?_eq_getElem hk, by rw [eq_of_beq heq]⟩
  · obtain ⟨hk, heq, -⟩ := List.findIdx?_eq_some_iff_getElem.1 hsame
    exact ⟨_, List.getElem?_eq_getElem hk, Text.sameIgnoringCase_iff.1 heq⟩

/-- Columns that are found in one place are the same, up to case. -/
theorem same_of_positions {other : String} {k : Nat} (h : row.position? column = .some k)
    (hother : row.position? other = .some k) : Text.asciiLower column = Text.asciiLower other := by
  obtain ⟨name, hname, hlow⟩ := same_of_position? h
  obtain ⟨name', hname', hlow'⟩ := same_of_position? hother
  rw [hname, Option.some.injEq] at hname'
  exact hlow.symm.trans (hname' ▸ hlow')

/-- Where a column is found, there is a cell. -/
theorem get?_of_position? {k : Nat} (h : row.position? column = .some k) :
    ∃ v, row.values[k]? = .some v ∧ row.get? column = .some v := by
  obtain ⟨name, hname, -⟩ := same_of_position? h
  have hk : k < row.values.length := row.aligned ▸ (List.getElem?_eq_some_iff.1 hname).1
  have hvalue := List.getElem?_eq_getElem hk
  exact ⟨_, hvalue, by rw [get?, h, Option.bind_some, hvalue]⟩

end Row

namespace Routing

/-- What a row makes of a field in an item. -/
def given (r : Routing α) (row : Row) (f : Field α) (item : α) : Except Error α :=
  match r.route? row f with
  | .none => .ok item
  | .some route =>
    match row.get? route.column with
    | .some v => f.fill item route.column v
    | .none => if route.optional then .ok item else .error (.absentColumn route.column)

section Given

variable {r : Routing α} {row : Row} {f : Field α} {route : Route}

theorem property_of_route? (h : r.route? row f = .some route) : route.property = f.property := by
  simp only [route?, Option.orElse_eq_orElse, Option.orElse_eq_or, Option.or_eq_some_iff] at h
  rcases h with hmapped | ⟨-, hdeclared | ⟨-, hnamed⟩⟩
  · obtain ⟨column, -, rfl⟩ := Option.map_eq_some_iff.1 hmapped
    rfl
  · obtain ⟨⟨column, optional⟩, -, hroute⟩ := Option.bind_eq_some_iff.1 hdeclared
    dsimp only at hroute
    split at hroute
    · rw [← Option.some.inj hroute]
    · cases hroute
  · unfold named? at hnamed
    split at hnamed
    · rw [← Option.some.inj hnamed]
    · cases hnamed

theorem given_of_not_route (h : r.route? row f = .none) (item : α) : r.given row f item = .ok item := by
  rw [given, h]

theorem given_of_get? {v : Value} (hroute : r.route? row f = .some route) (hget : row.get? route.column = .some v)
    (item : α) : r.given row f item = f.fill item route.column v := by
  simp only [given, hroute, hget]

/-- Reading along a field's route is what the row makes of the field. -/
theorem readField_route (hnodup : (r.entity.fields.map (·.property)).Nodup) (hf : f ∈ r.entity.fields)
    (hroute : r.route? row f = .some route) (item : α) :
    readField r.entity row item route = r.given row f item := by
  simp only [readField, given, hroute, property_of_route? hroute, Entity.assign_of_mem hnodup hf]
  cases row.get? route.column <;> rfl

end Given

/-! ## All fields -/

/-- The induction is on the fields that are left. -/
theorem readFields_routes {r : Routing α} (row : Row) (hnodup : (r.entity.fields.map (·.property)).Nodup)
    {fields : List (Field α)} (hfields : fields ⊆ r.entity.fields) (item : α) :
    readFields r.entity row item (fields.filterMap (r.route? row)) =
      fields.foldlM (fun item f => r.given row f item) item := by
  induction fields generalizing item with
  | nil => rfl
  | cons f fields ih =>
    rw [List.cons_subset] at hfields
    rw [List.filterMap_cons, List.foldlM_cons]
    cases hroute : r.route? row f with
    | none =>
      rw [given_of_not_route hroute]
      exact ih hfields.2 item
    | some route =>
      dsimp only
      rw [readFields, readField_route hnodup hfields.1 hroute]
      cases r.given row f item with
      | error fault => rfl
      | ok item => exact ih hfields.2 item

/-- **An item is read field by field.** -/
theorem item?_eq {r : Routing α} (hnodup : (r.entity.fields.map (·.property)).Nodup) (row : Row) :
    r.item? row =
      if r.routes row = [] then .ok .none
      else (r.entity.fields.foldlM (fun item f => r.given row f item) r.entity.blank).map .some := by
  have hread := readFields_routes row hnodup (List.Subset.refl _) r.entity.blank
  rw [item?]
  split
  · rename_i hnone
    rw [if_pos hnone]
  · rename_i hsome
    rw [if_neg hsome, routes, hread]

/-! ## The cells of a projection -/

/-- The place of the cell that a field is read from. -/
def cell? (r : Routing α) (row : Row) (f : Field α) : Option Nat :=
  (r.route? row f).bind fun route => row.position? route.column

/-- How rows become items if no field is mapped or looked for by its own name. -/
def selecting (e : Entity α) (p : Projection) : Routing α := ⟨e, p, .none, false⟩

section Selecting

variable {e : Entity α} {p : Projection} {row : Row}

theorem route?_of_unmapped {r : Routing α} (hmap : r.map? = .none) (hbyName : r.byName = false) (row : Row)
    (f : Field α) : r.route? row f = r.declared? row f := by
  rw [route?, mapped?, named?, hmap, hbyName]
  cases r.declared? row f <;> rfl

theorem route?_selecting (f : Field α) : (selecting e p).route? row f = (selecting e p).declared? row f :=
  route?_of_unmapped rfl rfl row f

/-- A column that finds an entry is read under the entry's name. -/
theorem route?_of_find? {f : Field α} {c : String} (hc : f.column? = .some c) {entry : Entry}
    (hfind : p.find? c = .some entry) :
    (selecting e p).route? row f = .some ⟨f.property, entry.outputName, .declared, false⟩ := by
  have hselected : (selecting e p).selected? c = .some (entry.outputName, false) := by
    rw [selected?, selecting, hfind]
  rw [route?_selecting, declared?, hc, Option.bind_some, hselected]
  rfl

/-- A column that finds no entry is read by its own text, if anything stands for all columns. -/
theorem route?_of_not_find? {f : Field α} {c : String} (hc : f.column? = .some c)
    (hfind : p.find? c = .none) :
    (selecting e p).route? row f =
      if p.hasWildcard && row.hasColumn c then .some ⟨f.property, c, .declared, true⟩ else .none := by
  have hselected : (selecting e p).selected? c = if p.hasWildcard then .some (c, true) else .none := by
    rw [selected?, selecting, hfind]
  rw [route?_selecting, declared?, hc, Option.bind_some, hselected]
  cases p.hasWildcard <;> rfl

/-- In a row that has the columns of the entries and no others, what finds no entry is not read. -/
theorem route?_of_carries (hrow : row.Carries (p.map Entry.outputName)) (f : Field α) :
    (selecting e p).route? row f =
      (f.column?.bind p.find?).map fun entry => ⟨f.property, entry.outputName, .declared, false⟩ := by
  cases hc : f.column? with
  | none => rw [route?_selecting, declared?, hc]; rfl
  | some c =>
    cases hfind : p.find? c with
    | some entry => rw [route?_of_find? hc hfind, Option.bind_some, hfind]; rfl
    | none =>
      have hlacks : row.hasColumn c = false := by
        rw [Bool.eq_false_iff]
        intro hhas
        obtain ⟨name, hname, hsame⟩ := Row.hasColumn_iff.1 hhas
        obtain ⟨entry, hentry, hcarried⟩ :
            ∃ entry ∈ p, Text.asciiLower entry.outputName = Text.asciiLower name := by
          have hmem : Text.asciiLower name ∈ (p.map Entry.outputName).map Text.asciiLower := by
            rw [← hrow]
            exact List.mem_map_of_mem hname
          simpa using hmem
        have hfor : entry.isFor c = true := by
          rw [Entry.isFor, Bool.or_eq_true]
          exact .inr (Text.sameIgnoringCase_iff.2 (hcarried.trans hsame))
        exact absurd hfor (List.find?_eq_none.1 hfind entry hentry)
      rw [route?_of_not_find? hc hfind, hlacks, Bool.and_false, Option.bind_some, hfind]
      rfl

variable (hrow : row.Carries (p.map Entry.outputName)) (hapart : Text.AreApart (p.map Entry.outputName))

include hrow hapart

theorem position?_outputName {k : Nat} {entry : Entry} (hk : p[k]? = .some entry) :
    row.position? entry.outputName = .some k := by
  refine Row.position?_of_areApart hrow hapart ?_
  rw [List.getElem?_map, hk, Option.map_some]

/-- **A field is read from the cell of the entry that its column finds.** -/
theorem cell?_of_carries (f : Field α) :
    (selecting e p).cell? row f = f.column?.bind p.place? := by
  rw [cell?, route?_of_carries hrow]
  cases hc : f.column? with
  | none => rfl
  | some c =>
    rw [Option.bind_some, Option.bind_some]
    cases hplace : p.place? c with
    | none => rw [Projection.find?_eq_none_iff.2 hplace]; rfl
    | some k =>
      obtain ⟨entry, hk, hfind⟩ := Projection.find?_of_place? hplace
      rw [hfind]
      exact position?_outputName hrow hapart hk

theorem route?_eq_none_iff (f : Field α) :
    (selecting e p).route? row f = .none ↔ (selecting e p).cell? row f = .none := by
  rw [cell?_of_carries hrow hapart, route?_of_carries hrow]
  cases f.column? with
  | none => simp
  | some c => simp [Projection.find?_eq_none_iff]

theorem given_of_carries (f : Field α) (item : α) :
    (selecting e p).given row f item =
      match ((selecting e p).cell? row f).bind fun k => ((p.map Entry.outputName).zip row.values)[k]? with
      | .none => .ok item
      | .some (name, v) => f.fill item name v := by
  cases hcell : (selecting e p).cell? row f with
  | none => exact given_of_not_route ((route?_eq_none_iff hrow hapart f).2 hcell) item
  | some k =>
    rw [cell?_of_carries hrow hapart] at hcell
    obtain ⟨c, hc, hplace⟩ := Option.bind_eq_some_iff.1 hcell
    obtain ⟨entry, hk, hfind⟩ := Projection.find?_of_place? hplace
    obtain ⟨v, hvalue, hget⟩ := Row.get?_of_position? (position?_outputName hrow hapart hk)
    have hnamed : ((p.map Entry.outputName).zip row.values)[k]? = .some (entry.outputName, v) :=
      List.getElem?_zip_eq_some.2 ⟨by rw [List.getElem?_map, hk, Option.map_some], hvalue⟩
    rw [given_of_get? (route?_of_find? hc hfind) hget, Option.bind_some, hnamed]

/-- **A row becomes an item that is filled from the cells of its fields**, or none if no field has a
cell. -/
theorem item?_of_carries (hnodup : (e.fields.map (·.property)).Nodup) :
    (selecting e p).item? row =
      if ∀ f ∈ e.fields, (selecting e p).cell? row f = .none then .ok .none
      else (e.fill fun f => ((selecting e p).cell? row f).bind fun k =>
        ((p.map Entry.outputName).zip row.values)[k]?).map .some := by
  have hroutes : (selecting e p).routes row = [] ↔ ∀ f ∈ e.fields, (selecting e p).cell? row f = .none := by
    rw [routes, List.filterMap_eq_nil_iff]
    exact forall₂_congr fun f _ => route?_eq_none_iff hrow hapart f
  have hgiven : e.fields.foldlM (fun item f => (selecting e p).given row f item) e.blank = e.fill fun f =>
      ((selecting e p).cell? row f).bind fun k => ((p.map Entry.outputName).zip row.values)[k]? := by
    rw [Entity.fill]
    congr 1
    funext item f
    exact given_of_carries hrow hapart f item
  rw [item?_eq hnodup, ← hgiven]
  simp only [hroutes]
  rfl

end Selecting

end Routing

end ParamQuery
