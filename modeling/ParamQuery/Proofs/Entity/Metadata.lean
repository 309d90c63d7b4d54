/-
The items of a query that selects the declared columns of an entity.

`list_ofMetadata`: a result that has those columns, up to case, becomes
one item for each row. A field that declares a column holds what its own
cell is read as, everything else is as in the entity's own item, and the
first cell that cannot be read, by rows and then by fields, is the error of
the whole.
-/
import Mathlib.Data.List.Forall2
import ParamQuery.Database.Memory
import ParamQuery.Proofs.Entity.Materialized
import ParamQuery.Select.Fetch

namespace ParamQuery

open Projection (AreApart Entry)
open Projection.Entry (lastSegment)

variable {α γ : Type}

namespace Entity

/-- An entity of which no property and no column can be taken for another. -/
structure IsPlain (e : Entity α) : Prop where
  properties : (e.fields.map (·.property)).Nodup
  columns : ∀ c ∈ e.columns, Projection.IsPlain c
  apart : AreApart e.columns

/-- The names that the declared columns have in a result. -/
def names (e : Entity α) : List String := e.columns.map lastSegment

/-- The place of the cell for the field at place `i`: there is one cell for each declared column. -/
def cellOf (e : Entity α) (i : Nat) : Nat := ((e.fields.take i).filterMap (·.column?)).length

/-- The field at a place has the cell of its own column. -/
theorem columns_cellOf {e : Entity α} {i : Nat} {f : Field α} (hf : e.fields[i]? = .some f) {c : String}
    (hc : f.column? = .some c) : e.columns[e.cellOf i]? = .some c := by
  obtain ⟨hi, rfl⟩ := List.getElem?_eq_some_iff.1 hf
  have hfields : e.fields = e.fields.take i ++ e.fields[i] :: e.fields.drop (i + 1) := by
    rw [List.getElem_cons_drop, List.take_append_drop]
  have hcolumns : e.columns =
      (e.fields.take i).filterMap (·.column?) ++ c :: (e.fields.drop (i + 1)).filterMap (·.column?) := by
    rw [columns, ← List.filterMap_cons_some hc, ← List.filterMap_append, ← hfields]
  rw [hcolumns, cellOf, List.getElem?_append_right (Nat.le_refl _), Nat.sub_self, List.getElem?_cons_zero]

namespace Layout

variable {e : Entity α} (l : e.Layout γ)

/-- The item of a row: a field that declares a column holds what it reads in its own cell, and every
other name what the entity's own item holds under it. -/
structure Filled (row : Row) (item : α) : Prop where
  declared : ∀ i f c, e.fields[i]? = .some f → f.column? = .some c →
    ∃ v, row.values[e.cellOf i]? = .some v ∧ l.read f.property v = .ok (l.get f.property item)
  others : ∀ name, (∀ f ∈ e.fields, ∀ c, f.column? = .some c → f.property ≠ name) →
    l.get name item = l.get name e.blank

/-- The cell for the field at place `i` cannot be read. -/
def Refuses (row : Row) (i : Nat) (fault : Error) : Prop :=
  ∃ f c v message, e.fields[i]? = .some f ∧ f.column? = .some c ∧
    row.values[e.cellOf i]? = .some v ∧ l.read f.property v = .error message ∧
    fault = .decode (lastSegment c) message

/-- Every cell can be read. -/
def Accepts (row : Row) : Prop := ∀ i fault, ¬ l.Refuses row i fault

/-- The first cell that cannot be read, in the order of the fields. -/
def FirstRefuses (row : Row) (fault : Error) : Prop :=
  ∃ i, l.Refuses row i fault ∧ ∀ j < i, ∀ fault', ¬ l.Refuses row j fault'

/-- The first cell of rows that cannot be read, by rows and then by fields. -/
def FirstFails (rows : List Row) (fault : Error) : Prop := ComesFirst l.Accepts (l.FirstRefuses · fault) rows

end Layout

end Entity

/-! ## One row -/

namespace Routing

open Route (Gives Fails)

/-- How the rows of a query of the declared columns become items. -/
def ofMetadata (e : Entity α) : Routing α := ⟨e, .ofFields e.columns, .none, false⟩

theorem ofMetadata_eq {e : Entity α} (he : e.IsPlain) : ofMetadata e = selecting e (e.columns.map .bare) := by
  have hkept : e.columns.filter (!Text.isBlankText ·) = e.columns :=
    List.filter_eq_self.2 fun c hc => by simp [(he.columns c hc).nonBlank]
  have hentries : Projection.ofFields e.columns = e.columns.map .bare := by
    rw [Projection.ofFields, hkept]
    exact List.map_congr_left fun c hc => (he.columns c hc).read
  rw [ofMetadata, hentries, selecting]

section Row

variable {e : Entity α} {l : e.Layout γ} {row : Row}

theorem route?_of_not_column {f : Field α} (hc : f.column? = .none) : (ofMetadata e).route? row f = .none := by
  rw [route?_of_unmapped rfl rfl, declared?, hc]
  rfl

variable (he : e.IsPlain)

include he

/-- A field that declares a column has the route to that column. -/
theorem route?_of_column {f : Field α} (hf : f ∈ e.fields) {c : String} (hc : f.column? = .some c) :
    (ofMetadata e).route? row f = .some ⟨f.property, lastSegment c, .declared, false⟩ := by
  rw [ofMetadata_eq he,
    route?_of_find? hc (Projection.find?_bare he.apart (List.mem_filterMap.2 ⟨f, hf, hc⟩))]
  rfl

theorem routes_ne_nil (hcolumns : e.columns ≠ []) : (ofMetadata e).routes row ≠ [] := by
  obtain ⟨c, hc⟩ := List.exists_mem_of_ne_nil _ hcolumns
  obtain ⟨f, hf, hcolumn⟩ := List.mem_filterMap.1 hc
  exact List.ne_nil_of_mem (List.mem_filterMap.2 ⟨f, hf, route?_of_column he hf hcolumn⟩)

omit he in
theorem item?_ofMetadata_of_nil (hcolumns : e.columns = []) : (ofMetadata e).item? row = .ok .none := by
  refine item?_eq_none_iff.2 (List.filterMap_eq_nil_iff.2 fun f hf => route?_of_not_column ?_)
  exact List.filterMap_eq_nil_iff.1 hcolumns f hf

variable (hrow : row.Carries e.names)

include hrow

/-- The cell that a route leads to is that of the field's own column. -/
theorem get?_lastSegment {i : Nat} {f : Field α} (hf : e.fields[i]? = .some f) {c : String}
    (hc : f.column? = .some c) :
    ∃ v, row.values[e.cellOf i]? = .some v ∧ row.get? (lastSegment c) = .some v := by
  have hname : e.names[e.cellOf i]? = .some (lastSegment c) := by
    rw [Entity.names, List.getElem?_map, Entity.columns_cellOf hf hc, Option.map_some]
  exact Row.get?_of_position? (Row.position?_of_areApart hrow he.apart.names hname)

theorem refuses_iff {i : Nat} {fault : Error} :
    l.Refuses row i fault ↔
      ∃ f route, e.fields[i]? = .some f ∧ (ofMetadata e).route? row f = .some route ∧ route.Fails l row fault := by
  constructor
  · rintro ⟨f, c, v, message, hf, hc, hv, hread, rfl⟩
    obtain ⟨v', hvalue, hget⟩ := get?_lastSegment he hrow hf hc
    rw [hv, Option.some.injEq] at hvalue
    refine ⟨f, _, hf, route?_of_column he (List.mem_of_getElem? hf) hc, ?_⟩
    exact .refused (hvalue ▸ hget) hread
  · rintro ⟨f, route, hf, hroute, hfails⟩
    cases hc : f.column? with
    | none =>
      rw [route?_of_not_column hc] at hroute
      cases hroute
    | some c =>
      rw [route?_of_column he (List.mem_of_getElem? hf) hc, Option.some.injEq] at hroute
      subst hroute
      obtain ⟨v, hvalue, hget⟩ := get?_lastSegment he hrow hf hc
      cases hfails with
      | absent hlacks =>
        rw [hget] at hlacks
        cases hlacks
      | refused hcell hread =>
        rw [hget, Option.some.injEq] at hcell
        exact ⟨f, c, v, _, hf, hc, hvalue, hcell ▸ hread, rfl⟩

/-- The first route that fails is that of the first cell that cannot be read: the fields between have no
route. -/
theorem firstRefuses_of_firstFails {fault : Error} (h : (ofMetadata e).FirstFails l row fault) :
    l.FirstRefuses row fault := by
  obtain ⟨before, route, after, hsplit, hgives, hfails⟩ := h
  obtain ⟨front, rest, hfields, hfront, hrest⟩ := List.filterMap_eq_append_iff.1 hsplit
  obtain ⟨silent, f, back, rfl, hsilent, hroute, -⟩ := List.filterMap_eq_cons_iff.1 hrest
  have hparts : e.fields = (front ++ silent) ++ f :: back := by rw [List.append_assoc, ← hfields]; rfl
  have hplace : e.fields[(front ++ silent).length]? = .some f := by
    rw [hparts, List.getElem?_append_right (Nat.le_refl _), Nat.sub_self, List.getElem?_cons_zero]
  refine ⟨_, (refuses_iff he hrow).2 ⟨f, route, hplace, hroute, hfails⟩, fun j hj fault' hrefuses => ?_⟩
  obtain ⟨g, route', hg, hroute', hfails'⟩ := (refuses_iff he hrow).1 hrefuses
  rw [hparts, List.getElem?_append_left hj] at hg
  rcases List.mem_append.1 (List.mem_of_getElem? hg) with hmem | hmem
  · obtain ⟨w, hgiven⟩ := hgives route' (hfront ▸ List.mem_filterMap.2 ⟨g, hmem, hroute'⟩)
    exact hgiven.not_fails hfails'
  · rw [hsilent g hmem] at hroute'
    cases hroute'

theorem filled_of_isMadeOf {item : α} (h : (ofMetadata e).IsMadeOf l row item) : l.Filled row item where
  declared i f c hf hc := by
    have hmem := List.mem_of_getElem? hf
    obtain ⟨v, hvalue, hget⟩ := get?_lastSegment he hrow hf hc
    obtain ⟨v', hcell, hread⟩ := h.routed _ (List.mem_filterMap.2 ⟨f, hmem, route?_of_column he hmem hc⟩)
    rw [hget, Option.some.injEq] at hcell
    exact ⟨v, hvalue, hcell ▸ hread⟩
  others name hname := by
    refine h.others name fun hmem => ?_
    obtain ⟨route, hroute, rfl⟩ := List.mem_map.1 hmem
    obtain ⟨f, hf, hfound⟩ := List.mem_filterMap.1 hroute
    rw [property_of_route? hfound] at hname
    cases hc : f.column? with
    | none =>
      rw [route?_of_not_column hc] at hfound
      cases hfound
    | some c => exact hname f hf c hc rfl

/-- A row becomes an item that is filled from its own cells, or its first cell that cannot be read
is the error. -/
theorem item?_ofMetadata (hcolumns : e.columns ≠ []) :
    (∃ item, (ofMetadata e).item? row = .ok (.some item) ∧ l.Accepts row ∧ l.Filled row item) ∨
      ∃ fault, (ofMetadata e).item? row = .error fault ∧ l.FirstRefuses row fault := by
  cases hitem : (ofMetadata e).item? row with
  | error fault =>
    exact .inr ⟨fault, rfl, firstRefuses_of_firstFails he hrow ((item?_error_iff l he.properties).1 hitem)⟩
  | ok item? =>
    cases item? with
    | none => exact absurd (item?_eq_none_iff.1 hitem) (routes_ne_nil he hcolumns)
    | some item =>
      have hmade := isMadeOf_of_item? l he.properties hitem
      refine .inl ⟨item, rfl, fun i fault hrefuses => ?_, filled_of_isMadeOf he hrow hmade⟩
      obtain ⟨f, route, hf, hroute, hfails⟩ := (refuses_iff he hrow).1 hrefuses
      exact (hmade.routed route (List.mem_filterMap.2 ⟨f, List.mem_of_getElem? hf, hroute⟩)).not_fails hfails

end Row

/-! ## All rows -/

section Rows

variable {e : Entity α} {l : e.Layout γ} {rows : List Row}

theorem items_ofMetadata_of_nil (hcolumns : e.columns = []) : (ofMetadata e).items rows = .ok [] := by
  induction rows with
  | nil => rfl
  | cons row rows ih =>
    rw [items, item?_ofMetadata_of_nil hcolumns, ih]
    rfl

/-- Rows become their items one by one, up to the first that has a cell that cannot be read. -/
theorem items_ofMetadata (he : e.IsPlain) (hcolumns : e.columns ≠ [])
    (hrows : ∀ row ∈ rows, row.Carries e.names) :
    (∃ items, (ofMetadata e).items rows = .ok items ∧ (∀ row ∈ rows, l.Accepts row) ∧
        List.Forall₂ l.Filled rows items) ∨
      ∃ fault, (ofMetadata e).items rows = .error fault ∧ l.FirstFails rows fault := by
  induction rows with
  | nil => exact .inl ⟨[], rfl, by simp, .nil⟩
  | cons row rows ih =>
    rw [List.forall_mem_cons] at hrows
    rw [Routing.items]
    rcases item?_ofMetadata (l := l) he hrows.1 hcolumns with
      ⟨item, hitem, haccepts, hfilled⟩ | ⟨fault, hitem, hrefuses⟩
    · rw [hitem]
      rcases ih hrows.2 with ⟨items, hitems, hall, hforall⟩ | ⟨fault, hitems, hfails⟩
      · refine .inl ⟨item :: items, ?_, List.forall_mem_cons.2 ⟨haccepts, hall⟩, .cons hfilled hforall⟩
        rw [hitems]
        rfl
      · refine .inr ⟨fault, ?_, comesFirst_cons_iff.2 (.inr ⟨haccepts, hfails⟩)⟩
        rw [hitems]
        rfl
    · rw [hitem]
      exact .inr ⟨fault, rfl, comesFirst_cons_iff.2 (.inl hrefuses)⟩

end Rows

end Routing

/-! ## The query -/

namespace Select

/-- **Each cell comes to the field that declares its column.** Take any entity of which the properties are
pairwise different, each field writes only itself, and no column can be taken for another; the query of its
declared columns; and an answer that has them, up to case. Without declared columns there are no items.
Else, if every cell can be read, there is one item for each row, in order; and if not, the first cell that
cannot be read is the captured error. -/
theorem Prepared.list_ofMetadata {σ : Type} [Database σ] {e : Entity α} (l : e.Layout γ) {p : Prepared α}
    {distinct : Bool} (hrouting : p.routing = (Query.ofColumns e distinct).routing) (he : e.IsPlain)
    {db db' : σ} {rows : List Row}
    (hquery : Database.query p.bound db = (.ok rows, db')) (hrows : ∀ row ∈ rows, row.Carries e.names) :
    (p.list db).2 = db' ∧
      (e.columns = [] → (p.list db).1 = .success []) ∧
      (e.columns ≠ [] → (∀ row ∈ rows, l.Accepts row) →
        ∃ items, (p.list db).1 = .success items ∧ List.Forall₂ l.Filled rows items) ∧
      (e.columns ≠ [] → ¬ (∀ row ∈ rows, l.Accepts row) →
        ∃ fault, (p.list db).1 = .exception "There was an exception while getting the items." fault ∧
          l.FirstFails rows fault) := by
  have hlist : p.list db = (listOutcome ((Routing.ofMetadata e).items rows), db') := by
    rw [Prepared.list, Prepared.fetch, hquery, hrouting]
    rfl
  rw [hlist]
  refine ⟨rfl, fun hnil => ?_, fun hcolumns haccepts => ?_, fun hcolumns hnot => ?_⟩
  · rw [Routing.items_ofMetadata_of_nil hnil]
    rfl
  · rcases Routing.items_ofMetadata he hcolumns hrows with ⟨items, hitems, -, hfilled⟩ | ⟨fault, -, hfails⟩
    · exact ⟨items, by rw [hitems]; rfl, hfilled⟩
    · obtain ⟨before, row, after, rfl, -, i, hrefuses, -⟩ := hfails
      exact absurd hrefuses (haccepts row (by simp) i fault)
  · rcases Routing.items_ofMetadata he hcolumns hrows with ⟨items, -, hall, -⟩ | ⟨fault, hitems, hfails⟩
    · exact absurd hall hnot
    · exact ⟨fault, by rw [hitems]; rfl, hfails⟩

/-! ### Cities -/

/-- How big a city is. -/
inductive Size where
  | small
  | large
  deriving DecidableEq

/-- A city, with whether it is open to visitors, which is not stored. -/
structure City where
  id : Int64
  isOpen : Bool
  size : Size

/-- Reads a size by its letter, and nothing out of the missing value. -/
def readSize : Value → Except String Size
  | .text "S" => .ok .small
  | .text "L" => .ok .large
  | _ => .error "no size"

/-- Cities, with two columns. A city is open, unless something else is said. -/
def city : Entity City where
  typeName := "City"
  table? := .some "cities"
  fields := [
    .of "id" (.some "c.Id") .int readNumber fun c id => { c with id },
    .of "isOpen" .none .bool (fun v => v.toBool.mapError fun _ => "no truth value") fun c isOpen => { c with isOpen },
    .of "size" (.some "Size") .text readSize fun c size => { c with size }]
  blank := ⟨0, true, .small⟩

/-- What a city holds. -/
inductive City.Content where
  | number (i : Int64)
  | flag (b : Bool)
  | size (s : Size)

open City (Content)

def city.layout : city.Layout Content where
  get name c :=
    if name = "id" then .number c.id else if name = "isOpen" then .flag c.isOpen
    else if name = "size" then .size c.size else .flag false
  read property v :=
    if property = "id" then (readNumber v).map .number
    else if property = "isOpen" then (v.toBool.mapError fun _ => "no truth value").map .flag
    else (readSize v).map .size
  writes := by
    simp only [city, List.forall_mem_cons]
    refine ⟨Field.writes_of Content.number (fun _ _ => rfl) ?_, Field.writes_of Content.flag (fun _ _ => rfl) ?_,
      Field.writes_of Content.size (fun _ _ => rfl) ?_, by simp⟩
    all_goals exact fun _ _ _ hname => by simp only [if_neg hname]

/-- A row of cities, whose columns have another case than the declared ones. -/
def cityRow (id size : Value) : Row := .ofValues ["ID", "size"] [id, size]

/-- All cities. -/
def cities : Prepared City := ⟨"", ⟨"", []⟩, (Query.ofColumns city false).routing⟩

/-- A connection that answers with rows. -/
def answering (rows : List Row) : Memory := (Memory.fresh .postgres).respond (.rows rows)

/-- A city that is read is open, as nothing else is said; one of which the size cannot be read is the error of
them all. -/
theorem list_ofMetadata_cities :
    cities.routing = (Query.ofColumns city false).routing ∧ city.IsPlain ∧
      (∃ rome, (cities.list (answering [cityRow (.int 1) (.text "L")])).1 = .success [rome] ∧
        city.layout.Filled (cityRow (.int 1) (.text "L")) rome ∧ rome.isOpen = true ∧ rome.size = .large) ∧
      ∃ fault,
        (cities.list (answering [cityRow (.int 1) (.text "L"), cityRow (.int 2) .null])).1 =
          .exception "There was an exception while getting the items." fault ∧
        city.layout.FirstFails [cityRow (.int 1) (.text "L"), cityRow (.int 2) .null] fault := by
  have hplain : city.IsPlain := by
    refine ⟨by decide, ?_, by unfold AreApart; decide +kernel⟩
    have hcuts : ∀ c ∈ city.columns, Text.isBlankText c = false ∧ Text.trimmed c = c ∧
        Projection.Entry.cutAtAs? c.toList = .none := by decide +kernel
    intro c hc
    obtain ⟨hblank, htrim, hcut⟩ := hcuts c hc
    exact ⟨hblank, htrim, Projection.cutAtAs?_eq_none_iff.1 hcut⟩
  have hcolumns : city.columns ≠ [] := by decide
  have hcarries (id size : Value) : (cityRow id size).Carries city.names := by
    have hnames : ["ID", "size"].map Text.asciiLower = city.names.map Text.asciiLower := by
      decide +kernel
    exact hnames
  have haccepts : city.layout.Accepts (cityRow (.int 1) (.text "L")) := by
    rintro i fault ⟨f, c, v, message, hf, hc, hv, hread, -⟩
    match i, hf with
    | 0, rfl => cases hv; cases hread
    | 1, rfl => cases hc
    | 2, rfl => cases hv; cases hread
  have hquery (rows : List Row) : ∃ db, Database.query cities.bound (answering rows) = (.ok rows, db) := ⟨_, rfl⟩
  have hrouting : cities.routing = (Query.ofColumns city false).routing := rfl
  refine ⟨hrouting, hplain, ?_, ?_⟩
  · obtain ⟨db, hanswer⟩ := hquery [cityRow (.int 1) (.text "L")]
    obtain ⟨items, hitems, hfilled⟩ :=
      (Prepared.list_ofMetadata city.layout hrouting hplain hanswer (by simpa using hcarries _ _)).2.2.1
        hcolumns (by simpa using haccepts)
    obtain ⟨rome, rfl⟩ : ∃ rome, items = [rome] := List.length_eq_one_iff.1 hfilled.length_eq.symm
    have hrome := (List.forall₂_cons.1 hfilled).1
    refine ⟨rome, hitems, hrome, Content.flag.inj (hrome.others "isOpen" (by decide)), ?_⟩
    obtain ⟨v, hv, hread⟩ := hrome.declared 2 _ _ rfl rfl
    cases hv
    exact (Content.size.inj (Except.ok.inj hread)).symm
  · obtain ⟨db, hanswer⟩ := hquery [cityRow (.int 1) (.text "L"), cityRow (.int 2) .null]
    refine (Prepared.list_ofMetadata city.layout hrouting hplain hanswer
      (by simpa using ⟨hcarries _ _, hcarries _ _⟩)).2.2.2 hcolumns fun hall => ?_
    exact hall (cityRow (.int 2) .null) (by simp) 2 _
      ⟨_, "Size", .null, "no size", rfl, rfl, rfl, rfl, rfl⟩

end Select

end ParamQuery
