/-
A row becomes an item as a whole, or is an error, or has nothing to read.

A route gives something to its field (`Route.Gives`) or fails
(`Route.Fails`). What one route does to an item is one of the two, and no
other name in the item sees it (`readField_cases`). So a run along routes
comes through if each of them gives something, and then the item holds what
was given and else what it held (`readFields_ok_iff`, `holds_of_readFields`);
or it ends with the error of the first that fails (`readFields_error_iff`).
A route is only found for a column that a row lacks if the column is required
(`isSound_of_mem_routes`), so no route is ever passed over. `all_or_nothing`
puts this together for a row and for a list of rows.
-/
import Mathlib.Data.List.Forall2
import Mathlib.Data.List.ReduceOption
import ParamQuery.Proofs.Entity.Items
import ParamQuery.Proofs.Entity.Layout

namespace ParamQuery

/-! ## First in a list -/

/-- `P` holds of an element of the list, and every element before it is fine. -/
def ComesFirst {α : Type} (fine P : α → Prop) (xs : List α) : Prop :=
  ∃ before x after, xs = before ++ x :: after ∧ (∀ y ∈ before, fine y) ∧ P x

theorem not_comesFirst_nil {α : Type} {fine P : α → Prop} : ¬ ComesFirst fine P [] := by
  rintro ⟨before, x, after, hnil, -⟩
  cases before <;> cases hnil

theorem comesFirst_cons_iff {α : Type} {fine P : α → Prop} {x : α} {xs : List α} :
    ComesFirst fine P (x :: xs) ↔ P x ∨ fine x ∧ ComesFirst fine P xs := by
  constructor
  · rintro ⟨before, y, after, hsplit, hfine, hy⟩
    cases before with
    | nil =>
      obtain ⟨rfl, -⟩ := List.cons.inj hsplit
      exact .inl hy
    | cons z before =>
      obtain ⟨rfl, hxs⟩ := List.cons.inj hsplit
      exact .inr ⟨hfine x (by simp), before, y, after, hxs, fun y hy => hfine y (by simp [hy]), hy⟩
  · rintro (hx | ⟨hx, before, y, after, rfl, hfine, hy⟩)
    · exact ⟨[], x, xs, rfl, by simp, hx⟩
    · exact ⟨x :: before, y, after, rfl, List.forall_mem_cons.2 ⟨hx, hfine⟩, hy⟩

/-! ## One route -/

variable {α γ : Type}

namespace Route

variable {e : Entity α} {l : e.Layout γ} {row : Row} {route : Route}

/-- The row has the column of the route, and the field of its property reads the cell as `w`. -/
def Gives (l : e.Layout γ) (row : Row) (route : Route) (w : γ) : Prop :=
  ∃ v, row.get? route.column = .some v ∧ l.read route.property v = .ok w

/-- Why a route gives nothing: the row lacks its column, or the field does not take the cell. -/
inductive Fails (l : e.Layout γ) (row : Row) (route : Route) : (fault : Error) → Prop where
  | absent (lacks : row.get? route.column = .none) : Fails l row route (.absentColumn route.column)
  | refused {v : Value} {message : String} (cell : row.get? route.column = .some v)
    (refuses : l.read route.property v = .error message) : Fails l row route (.decode route.column message)

/-- The route is one of a field, and if it is optional, then its column is there. -/
structure IsSound (e : Entity α) (row : Row) (route : Route) : Prop where
  field : ∃ f, e.field? route.property = .some f
  present : route.optional = true → ∃ v, row.get? route.column = .some v

/-- Whatever fails, the error is one of decoding the route's column. -/
theorem Fails.decode {fault : Error} (h : route.Fails l row fault) :
    ∃ message, fault = .decode route.column message := by
  cases h with
  | absent => exact ⟨_, rfl⟩
  | refused => exact ⟨_, rfl⟩

theorem Gives.not_fails {w : γ} (h : route.Gives l row w) {fault : Error} : ¬ route.Fails l row fault := by
  obtain ⟨v, hcell, hread⟩ := h
  rintro (hlacks | ⟨hcell', hrefuses⟩)
  · rw [hcell] at hlacks
    cases hlacks
  · rw [hcell, Option.some.injEq] at hcell'
    rw [← hcell', hread] at hrefuses
    cases hrefuses

theorem Fails.unique {fault fault' : Error} (h : route.Fails l row fault) (h' : route.Fails l row fault') :
    fault = fault' := by
  cases h with
  | absent hlacks =>
    cases h' with
    | absent => rfl
    | refused hcell' => rw [hlacks] at hcell'; cases hcell'
  | refused hcell hrefuses =>
    cases h' with
    | absent hlacks' => rw [hcell] at hlacks'; cases hlacks'
    | refused hcell' hrefuses' =>
      rw [hcell, Option.some.injEq] at hcell'
      rw [← hcell', hrefuses, Except.error.injEq] at hrefuses'
      rw [hrefuses']

end Route

theorem Row.get?_of_hasColumn {row : Row} {column : String} (h : row.hasColumn column = true) :
    ∃ v, row.get? column = .some v := by
  obtain ⟨k, hk⟩ := Option.isSome_iff_exists.1 h
  obtain ⟨v, -, hget⟩ := Row.get?_of_position? hk
  exact ⟨v, hget⟩

namespace Routing

open Route (Gives Fails IsSound)

section Run

variable {e : Entity α} (l : e.Layout γ) {row : Row}

/-- **What one route does.** It gives something to its field, which every other name does not see; or it
fails. -/
theorem readField_cases {route : Route} (h : route.IsSound e row) (item : α) :
    (∃ read, readField e row item route = .ok read ∧ route.Gives l row (l.get route.property read) ∧
        ∀ name, name ≠ route.property → l.get name read = l.get name item) ∨
      ∃ fault, readField e row item route = .error fault ∧ route.Fails l row fault := by
  obtain ⟨f, hfield⟩ := h.field
  cases hcell : row.get? route.column with
  | none =>
    have hrequired : route.optional = false := by
      by_contra hoptional
      obtain ⟨v, hv⟩ := h.present (by simpa using hoptional)
      rw [hcell] at hv
      cases hv
    refine .inr ⟨.absentColumn route.column, ?_, .absent hcell⟩
    simp only [readField, hcell, hrequired, Bool.false_eq_true, if_false]
  | some v =>
    rw [readField, hcell]
    dsimp only
    rcases l.assign_cases hfield item v with ⟨read, hassign, hread, hothers⟩ | ⟨message, hassign, hread⟩
    · exact .inl ⟨read, by rw [hassign]; rfl, ⟨v, hcell, hread⟩, hothers⟩
    · exact .inr ⟨.decode route.column message, by rw [hassign]; rfl, .refused hcell hread⟩

/-! ## A run along routes -/

variable {routes : List Route}

/-- A run comes through if every route gives something. -/
theorem readFields_ok_iff (h : ∀ route ∈ routes, route.IsSound e row) (item : α) :
    (∃ read, readFields e row item routes = .ok read) ↔ ∀ route ∈ routes, ∃ w, route.Gives l row w := by
  induction routes generalizing item with
  | nil => simp [readFields]
  | cons route routes ih =>
    rw [List.forall_mem_cons] at h
    rw [readFields, List.forall_mem_cons]
    rcases readField_cases l h.1 item with ⟨read, hread, hgives, -⟩ | ⟨fault, hread, hfails⟩
    · have hrest := ih h.2 read
      rw [hread]
      dsimp only
      rw [hrest, and_iff_right ⟨_, hgives⟩]
    · rw [hread]
      constructor
      · rintro ⟨read, ⟨⟩⟩
      · rintro ⟨⟨w, hgives⟩, -⟩
        exact absurd hfails hgives.not_fails

/-- A run ends with the error of the first route that fails. -/
theorem readFields_error_iff (h : ∀ route ∈ routes, route.IsSound e row) (item : α) {fault : Error} :
    readFields e row item routes = .error fault ↔
      ComesFirst (∃ w, Gives l row · w) (Fails l row · fault) routes := by
  induction routes generalizing item with
  | nil => simp [readFields, not_comesFirst_nil]
  | cons route routes ih =>
    rw [List.forall_mem_cons] at h
    rw [readFields, comesFirst_cons_iff]
    rcases readField_cases l h.1 item with ⟨read, hread, hgives, -⟩ | ⟨fault', hread, hfails⟩
    · have hrest := ih h.2 read
      rw [hread]
      dsimp only
      rw [hrest, or_iff_right hgives.not_fails, and_iff_right ⟨_, hgives⟩]
    · rw [hread, Except.error.injEq]
      constructor
      · rintro rfl
        exact .inl hfails
      · rintro (hfails' | ⟨⟨w, hgives⟩, -⟩)
        · exact hfails.unique hfails'
        · exact absurd hfails hgives.not_fails

/-- A run that comes through leaves in the item what each route gave, and else what was there. No later
route has the property of an earlier one, so what was given stays. -/
theorem holds_of_readFields (h : ∀ route ∈ routes, route.IsSound e row)
    (hnodup : (routes.map (·.property)).Nodup) {item read : α} (hread : readFields e row item routes = .ok read) :
    (∀ route ∈ routes, route.Gives l row (l.get route.property read)) ∧
      ∀ name, name ∉ routes.map (·.property) → l.get name read = l.get name item := by
  induction routes generalizing item with
  | nil =>
    cases hread
    exact ⟨by simp, fun _ _ => rfl⟩
  | cons route routes ih =>
    rw [List.forall_mem_cons] at h
    rw [List.map_cons, List.nodup_cons] at hnodup
    rw [readFields] at hread
    rcases readField_cases l h.1 item with ⟨next, hnext, hgives, hothers⟩ | ⟨fault, hfault, -⟩
    · rw [hnext] at hread
      obtain ⟨hrest, hkept⟩ := ih h.2 hnodup.2 hread
      refine ⟨List.forall_mem_cons.2 ⟨?_, hrest⟩, fun name hname => ?_⟩
      · rwa [hkept _ hnodup.1]
      · rw [List.map_cons, List.mem_cons, not_or] at hname
        rw [hkept name hname.2, hothers name hname.1]
    · rw [hfault] at hread
      cases hread

end Run

/-! ## The routes of a row -/

variable {r : Routing α} {row : Row}

/-- An optional route is only found if the row has its column. -/
theorem present_of_route? {f : Field α} {route : Route} (h : r.route? row f = .some route)
    (hoptional : route.optional = true) : ∃ v, row.get? route.column = .some v := by
  simp only [route?, Option.orElse_eq_orElse, Option.orElse_eq_or, Option.or_eq_some_iff] at h
  rcases h with hmapped | ⟨-, hdeclared | ⟨-, hnamed⟩⟩
  · obtain ⟨column, -, rfl⟩ := Option.map_eq_some_iff.1 hmapped
    cases hoptional
  · obtain ⟨⟨column, optional⟩, -, hroute⟩ := Option.bind_eq_some_iff.1 hdeclared
    dsimp only at hroute
    split at hroute
    · rename_i hpresent
      cases hroute
      cases hoptional
      exact Row.get?_of_hasColumn (by simpa using hpresent)
    · cases hroute
  · unfold named? at hnamed
    split at hnamed
    · rename_i hpresent
      cases hnamed
      exact Row.get?_of_hasColumn (by simp_all)
    · cases hnamed

theorem map_property_routes (r : Routing α) (row : Row) :
    (r.routes row).map (·.property) =
      (r.entity.fields.filter fun f => (r.route? row f).isSome).map (·.property) := by
  rw [routes]
  generalize r.entity.fields = fields
  induction fields with
  | nil => rfl
  | cons f fields ih =>
    rw [List.filterMap_cons, List.filter_cons]
    cases hroute : r.route? row f with
    | none => simpa using ih
    | some route => simpa [property_of_route? hroute] using ih

/-- There is at most one route for each property, and they are in the order of the fields. -/
theorem routes_sublist (r : Routing α) (row : Row) :
    ((r.routes row).map (·.property)).Sublist (r.entity.fields.map (·.property)) := by
  rw [map_property_routes]
  exact List.filter_sublist.map _

theorem isSound_of_mem_routes (hnodup : (r.entity.fields.map (·.property)).Nodup) {route : Route}
    (h : route ∈ r.routes row) : route.IsSound r.entity row := by
  obtain ⟨f, hf, hroute⟩ := List.mem_filterMap.1 h
  refine ⟨⟨f, ?_⟩, present_of_route? hroute⟩
  rw [property_of_route? hroute]
  exact Entity.field?_of_mem hnodup hf

/-! ## Items -/

/-- The item that a row makes: a field that has a route holds what the route gives, and every other
name what the entity's own item holds under it. -/
structure IsMadeOf (r : Routing α) (l : r.entity.Layout γ) (row : Row) (item : α) : Prop where
  routed : ∀ route ∈ r.routes row, route.Gives l row (l.get route.property item)
  others : ∀ name, name ∉ (r.routes row).map (·.property) → l.get name item = l.get name r.entity.blank

/-- The error of the first route that fails, in the order of the fields. -/
def FirstFails (r : Routing α) (l : r.entity.Layout γ) (row : Row) (fault : Error) : Prop :=
  ComesFirst (∃ w, Gives l row · w) (Fails l row · fault) (r.routes row)

theorem item?_eq_none_iff : r.item? row = .ok .none ↔ r.routes row = [] := by
  rw [item?]
  split
  · rename_i hnil
    simp [hnil]
  · rename_i hsome
    have hroutes : r.routes row ≠ [] := hsome
    cases readFields r.entity row r.entity.blank (r.routes row) <;> simp [Except.map, hroutes]

theorem item?_of_routes (h : r.routes row ≠ []) :
    r.item? row = (readFields r.entity row r.entity.blank (r.routes row)).map .some := by
  rw [item?]
  split
  · rename_i hnil
    exact absurd hnil h
  · rfl

variable (l : r.entity.Layout γ)

section Distinct

variable (hnodup : (r.entity.fields.map (·.property)).Nodup)

include hnodup

theorem item?_some_iff :
    (∃ item, r.item? row = .ok (.some item)) ↔
      r.routes row ≠ [] ∧ ∀ route ∈ r.routes row, ∃ w, route.Gives l row w := by
  have hsound : ∀ route ∈ r.routes row, route.IsSound r.entity row := fun _ => isSound_of_mem_routes hnodup
  have hrun := readFields_ok_iff l hsound r.entity.blank
  by_cases hnil : r.routes row = []
  · rw [item?_eq_none_iff.2 hnil]
    simp [hnil]
  · rw [item?_of_routes hnil, and_iff_right hnil, ← hrun]
    cases readFields r.entity row r.entity.blank (r.routes row) <;> simp [Except.map]

theorem item?_error_iff {fault : Error} : r.item? row = .error fault ↔ r.FirstFails l row fault := by
  have hsound : ∀ route ∈ r.routes row, route.IsSound r.entity row := fun _ => isSound_of_mem_routes hnodup
  by_cases hnil : r.routes row = []
  · rw [item?_eq_none_iff.2 hnil, FirstFails, hnil]
    simp [not_comesFirst_nil]
  · rw [item?_of_routes hnil, FirstFails, ← readFields_error_iff l hsound r.entity.blank]
    cases readFields r.entity row r.entity.blank (r.routes row) <;> simp [Except.map]

theorem isMadeOf_of_item? {item : α} (h : r.item? row = .ok (.some item)) : r.IsMadeOf l row item := by
  have hsound : ∀ route ∈ r.routes row, route.IsSound r.entity row := fun _ => isSound_of_mem_routes hnodup
  have hroutes : r.routes row ≠ [] := fun hnil => by
    rw [item?_eq_none_iff.2 hnil] at h
    cases h
  rw [item?_of_routes hroutes] at h
  cases hread : readFields r.entity row r.entity.blank (r.routes row) with
  | error fault => rw [hread] at h; cases h
  | ok read =>
    rw [hread] at h
    cases h
    obtain ⟨hrouted, hothers⟩ := holds_of_readFields l hsound ((routes_sublist r row).nodup hnodup) hread
    exact ⟨hrouted, hothers⟩

variable {l}

/-- A field without a route holds what the entity's own item holds there. -/
theorem IsMadeOf.unrouted {item : α} (h : r.IsMadeOf l row item) {f : Field α} (hf : f ∈ r.entity.fields)
    (hroute : r.route? row f = .none) : l.get f.property item = l.get f.property r.entity.blank := by
  refine h.others _ fun hmem => ?_
  obtain ⟨route, hmem, hsame⟩ := List.mem_map.1 hmem
  obtain ⟨g, hg, hfound⟩ := List.mem_filterMap.1 hmem
  -- The route was found for a field of the same property, so for this one.
  have hproperty : g.property = f.property := (property_of_route? hfound).symm.trans hsame
  have hfield := Entity.field?_of_mem hnodup hg
  rw [hproperty, Entity.field?_of_mem hnodup hf, Option.some.injEq] at hfield
  rw [← hfield, hroute] at hfound
  cases hfound

end Distinct

/-! ## All rows -/

/-- The items of rows are those of the rows that make one, in order. -/
theorem items_ok_iff {rows : List Row} {items : List α} :
    r.items rows = .ok items ↔
      ∃ made : List (Option α), List.Forall₂ (fun row item? => r.item? row = .ok item?) rows made ∧
        items = made.reduceOption := by
  induction rows generalizing items with
  | nil => simp [Routing.items, eq_comm]
  | cons row rows ih =>
    rw [Routing.items]
    cases hitem : r.item? row with
    | error fault =>
      simp only [reduceCtorEq, false_iff]
      rintro ⟨made, hmade, -⟩
      cases hmade with
      | cons hhead => rw [hitem] at hhead; cases hhead
    | ok item? =>
      constructor
      · intro h
        cases hrest : r.items rows with
        | error fault => rw [hrest] at h; cases h
        | ok rest =>
          obtain ⟨made, hmade, rfl⟩ := ih.1 hrest
          rw [hrest] at h
          cases h
          refine ⟨item? :: made, .cons hitem hmade, ?_⟩
          cases item? <;> simp
      · rintro ⟨made, hmade, rfl⟩
        cases hmade with
        | cons hhead htail =>
          rw [hitem, Except.ok.injEq] at hhead
          subst hhead
          have hrest := ih.2 ⟨_, htail, rfl⟩
          dsimp only
          rw [hrest]
          cases item? <;> simp [Except.map]

/-- The error of rows is that of the first row that has one. -/
theorem items_error_iff {rows : List Row} {fault : Error} :
    r.items rows = .error fault ↔
      ComesFirst (fun row => ∃ item?, r.item? row = .ok item?) (fun row => r.item? row = .error fault) rows := by
  induction rows with
  | nil => simp [Routing.items, not_comesFirst_nil]
  | cons row rows ih =>
    rw [Routing.items, comesFirst_cons_iff, ← ih]
    cases hitem : r.item? row with
    | error fault' => simp
    | ok item? => cases r.items rows <;> simp [Except.map]

/-- **A row becomes an item as a whole, or is an error.** Take any entity of which the properties are
pairwise different and each field writes only itself, any projection, any map and any rows. Each property
has at most one route, in the order of the fields, and an optional one only if its column is there. A row
is dropped exactly if it has no route; it becomes an item exactly if every route gives something, and the
item holds what is given, and under every other name what the entity's own item holds; else the first
route that fails, in the order of the fields, is its error, which is one of decoding the route's column.
Rows become the items of those that are not dropped, in order, or the error of the first row that has
one. -/
theorem all_or_nothing (l : r.entity.Layout γ) (hnodup : (r.entity.fields.map (·.property)).Nodup) :
    (∀ row,
      ((r.routes row).map (·.property)).Sublist (r.entity.fields.map (·.property)) ∧
      ((r.routes row).map (·.property)).Nodup ∧
      (∀ route ∈ r.routes row, route.optional = true → ∃ v, row.get? route.column = .some v) ∧
      (r.item? row = .ok .none ↔ r.routes row = []) ∧
      ((∃ item, r.item? row = .ok (.some item)) ↔
        r.routes row ≠ [] ∧ ∀ route ∈ r.routes row, ∃ w, route.Gives l row w) ∧
      (∀ item, r.item? row = .ok (.some item) → r.IsMadeOf l row item) ∧
      (∀ fault, r.item? row = .error fault ↔ r.FirstFails l row fault) ∧
      ∀ (route : Route) (fault : Error), route.Fails l row fault → ∃ message, fault = .decode route.column message) ∧
    ∀ rows,
      (∀ items, r.items rows = .ok items ↔
        ∃ made : List (Option α), List.Forall₂ (fun row item? => r.item? row = .ok item?) rows made ∧
          items = made.reduceOption) ∧
      ∀ fault, r.items rows = .error fault ↔
        ComesFirst (fun row => ∃ item?, r.item? row = .ok item?) (fun row => r.item? row = .error fault) rows := by
  refine ⟨fun row => ⟨routes_sublist r row, (routes_sublist r row).nodup hnodup, fun route hroute => ?_,
    item?_eq_none_iff, item?_some_iff l hnodup, fun item => isMadeOf_of_item? l hnodup,
    fun fault => item?_error_iff l hnodup, fun route fault => Route.Fails.decode⟩,
    fun rows => ⟨fun items => items_ok_iff, fun fault => items_error_iff⟩⟩
  exact (isSound_of_mem_routes hnodup hroute).present

/-! ### Visitors -/

/-- A visitor, with whether there is a card, which nothing is read into. -/
structure Visitor where
  id : Int64
  name : String
  formal : Bool
  card : Bool

/-- Reads how a visitor is greeted, and nothing out of the missing value. -/
def readGreeting : Value → Except String Bool
  | .text "Dear" => .ok true
  | .text "Hello" => .ok false
  | _ => .error "no greeting"

/-- Visitors: a number and a greeting with columns, and a name that is mapped. -/
def visitor : Entity Visitor where
  typeName := "Visitor"
  table? := .none
  fields := [
    .of "id" (.some "Id") .int readNumber fun v id => { v with id },
    .of "name" .none .text readText fun v name => { v with name },
    .of "formal" (.some "Greeting") .text readGreeting fun v formal => { v with formal }]
  blank := ⟨-1, "guest", true, true⟩

/-- What a visitor holds. -/
inductive Visitor.Content where
  | number (i : Int64)
  | text (s : String)
  | flag (b : Bool)

open Visitor (Content)

def visitor.layout : visitor.Layout Content where
  get name v :=
    if name = "id" then .number v.id else if name = "name" then .text v.name
    else if name = "formal" then .flag v.formal else .flag v.card
  read property v :=
    if property = "id" then (readNumber v).map .number else if property = "name" then (readText v).map .text
    else (readGreeting v).map .flag
  writes := by
    simp only [visitor, List.forall_mem_cons]
    refine ⟨Field.writes_of Content.number (fun _ _ => rfl) ?_, Field.writes_of Content.text (fun _ _ => rfl) ?_,
      Field.writes_of Content.flag (fun _ _ => rfl) ?_, by simp⟩
    all_goals exact fun _ _ _ hname => by simp only [if_neg hname]

/-- A query of visitors with their full names. -/
def visitors : Routing Visitor := ⟨visitor, .ofFields ["Id"], .some [("name", "v.FullName")], false⟩

/-- A row with a full name. -/
def namedRow : Row := .ofValues ["ID", "FullName"] [.int 1, .text "Ada"]

/-- A row without one. -/
def namelessRow : Row := .ofValues ["ID"] [.int 2]

/-- A visitor is read along both routes, and greeted as every visitor is; one whose name is not in the
row is an error for all. -/
theorem all_or_nothing_visitors :
    (visitor.fields.map (·.property)).Nodup ∧
      (∃ item, visitors.item? namedRow = .ok (.some item) ∧ visitors.IsMadeOf visitor.layout namedRow item ∧
        item.formal = true ∧ item.card = true) ∧
      visitors.items [namedRow, namelessRow] = .error (.absentColumn "FullName") := by
  have hnodup : (visitors.entity.fields.map (·.property)).Nodup := by decide
  have hroutes (row : Row) : visitors.routes row =
      [⟨"id", "Id", .declared, false⟩, ⟨"name", "FullName", .mapped, false⟩] := by
    have hid : Projection.find? (.ofFields ["Id"]) "Id" = .some (.bare "Id") := by decide +kernel
    have hgreeting : Projection.find? (.ofFields ["Id"]) "Greeting" = .none := by decide +kernel
    have hwildcard : Projection.hasWildcard (.ofFields ["Id"]) = false := by decide +kernel
    have hname : (Projection.Entry.read "v.FullName").outputName = "FullName" := by decide +kernel
    have hbare : (Projection.Entry.bare "Id").outputName = "Id" := by decide +kernel
    simp [routes, visitors, visitor, Field.of, route?, mapped?, declared?, named?, selected?, FieldMap.get?, hid,
      hgreeting, hwildcard, hname, hbare]
  obtain ⟨hrow, hrows⟩ := all_or_nothing (r := visitors) visitor.layout hnodup
  obtain ⟨-, -, -, -, hsome, hmade, -, -⟩ := hrow namedRow
  obtain ⟨-, -, -, -, -, -, herror, -⟩ := hrow namelessRow
  have hgives : ∀ route ∈ visitors.routes namedRow, ∃ w, route.Gives visitor.layout namedRow w := by
    rw [hroutes, List.forall_mem_cons, List.forall_mem_singleton]
    exact ⟨⟨.number 1, .int 1, rfl, rfl⟩, .text "Ada", .text "Ada", rfl, rfl⟩
  obtain ⟨item, hitem⟩ := hsome.2 ⟨by simp [hroutes], hgives⟩
  have hothers := (hmade item hitem).others
  rw [hroutes] at hothers
  have hfault : visitors.item? namelessRow = .error (.absentColumn "FullName") := by
    refine (herror _).2 ?_
    unfold FirstFails
    rw [hroutes]
    refine comesFirst_cons_iff.2 (.inr ⟨⟨.number 2, .int 2, rfl, rfl⟩, ?_⟩)
    exact comesFirst_cons_iff.2 (.inl (.absent rfl))
  refine ⟨hnodup, ⟨item, hitem, hmade item hitem, ?_, ?_⟩, ?_⟩
  · exact Content.flag.inj (hothers "formal" (by simp))
  · exact Content.flag.inj (hothers "card" (by simp))
  · exact ((hrows _).2 _).2 (comesFirst_cons_iff.2 (.inr ⟨⟨_, hitem⟩, comesFirst_cons_iff.2 (.inl hfault)⟩))

end Routing

end ParamQuery
