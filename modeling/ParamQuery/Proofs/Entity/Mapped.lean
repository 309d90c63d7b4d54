/-
Fields that a query maps to columns.

The map says twice what is read: the statement selects its columns, and
each field is looked up by the name that its column has in the result. Both
take that name from the same text. So a mapped field is read from the cell
of its own column, whatever it declares and whatever is found by name
(`routes_of_mapFields`).
-/
import Mathlib.Data.List.Nodup
import ParamQuery.Proofs.Entity.Items
import ParamQuery.Proofs.Select.Independence

namespace ParamQuery

open Projection (Entry)

/-! ## Maps -/

namespace FieldMap

theorem mem_properties_insert {m : FieldMap} {p c r : String} (h : r ∈ (m.insert p c).properties) :
    r = p ∨ r ∈ m.properties := by
  induction m with
  | nil => exact .inl (by simpa [insert, properties] using h)
  | cons q m ih =>
    simp only [insert] at h
    split at h
    · exact .inr h
    · simp only [properties, List.map_cons, List.mem_cons] at h ⊢
      rcases h with rfl | h
      · exact .inr (.inl rfl)
      · rcases ih h with rfl | h
        · exact .inl rfl
        · exact .inr (.inr h)

/-- A field is mapped once, however often it is inserted. -/
theorem nodup_insert {m : FieldMap} (h : m.properties.Nodup) (p c : String) :
    (m.insert p c).properties.Nodup := by
  induction m with
  | nil => simp [insert, properties]
  | cons q m ih =>
    have hcons := List.nodup_cons.1 h
    simp only [insert]
    split
    · exact h
    · rename_i hq
      refine List.nodup_cons.2 ⟨fun hmem => ?_, ih hcons.2⟩
      rcases mem_properties_insert hmem with heq | hmem
      · exact hq heq
      · exact hcons.1 hmem

theorem nodup_ofPairs (pairs : List (String × String)) : (ofPairs pairs).properties.Nodup := by
  have hfold : ∀ m : FieldMap, m.properties.Nodup →
      (pairs.foldl (fun m p => m.insert p.1 p.2) m).properties.Nodup := by
    induction pairs with
    | nil => exact fun _ h => h
    | cons p pairs ih => exact fun m h => ih _ (nodup_insert h p.1 p.2)
  exact hfold [] .nil

theorem get?_of_mem {m : FieldMap} (h : m.properties.Nodup) {p c : String} (hmem : (p, c) ∈ m) :
    m.get? p = .some c := by
  have hfind : m.find? (·.1 == p) = .some (p, c) :=
    find?_eq_some_of_unique hmem (by simp) fun q hq hp =>
      List.inj_on_of_nodup_map h hq hmem (by simpa using hp)
  rw [get?, hfind]
  rfl

/-- A map that selects all its columns, each under a name of its own. -/
structure IsApart (m : FieldMap) : Prop where
  ne_nil : m ≠ []
  nonBlank : ∀ c ∈ m.columns, Text.isBlankText c = false
  apart : Text.AreApart (m.columns.map fun c => (Entry.read c).outputName)

theorem IsApart.ofFields {m : FieldMap} (h : m.IsApart) :
    Projection.ofFields m.columns = m.columns.map Entry.read := by
  have hkept : m.columns.filter (!Text.isBlankText ·) = m.columns :=
    List.filter_eq_self.2 fun c hc => by simp [h.nonBlank c hc]
  rw [Projection.ofFields, hkept]

end FieldMap

/-! ## Routes -/

variable {α : Type}

namespace Routing

/-- A field has the route that it is given, and no other. -/
theorem routes_of_field {r : Routing α} (hnodup : (r.entity.fields.map (·.property)).Nodup) (row : Row)
    {f : Field α} (hf : f ∈ r.entity.fields) :
    (r.routes row).filter (·.property == f.property) = (r.route? row f).toList := by
  have hothers : ∀ fields : List (Field α), (∀ g ∈ fields, g.property ≠ f.property) →
      (fields.filterMap (r.route? row)).filter (·.property == f.property) = [] := by
    intro fields hne
    refine List.filter_eq_nil_iff.2 fun route hroute => ?_
    obtain ⟨g, hg, hgiven⟩ := List.mem_filterMap.1 hroute
    rw [property_of_route? hgiven, beq_iff_eq]
    exact hne g hg
  obtain ⟨before, after, hsplit⟩ := List.append_of_mem hf
  rw [hsplit, List.map_append, List.map_cons, List.nodup_append, List.nodup_cons] at hnodup
  have hbefore := hothers before fun g hg => hnodup.2.2 _ (List.mem_map_of_mem hg) _ (by simp)
  have hafter := hothers after fun g hg heq => hnodup.2.1.1 (heq ▸ List.mem_map_of_mem hg)
  rw [routes, hsplit, List.filterMap_append, List.filter_append, hbefore, List.nil_append, List.filterMap_cons]
  cases hroute : r.route? row f with
  | none => exact hafter
  | some route => simp [property_of_route? hroute, hafter]

theorem route?_of_mapped {r : Routing α} {m : FieldMap} (hmap : r.map? = .some m) (row : Row) {f : Field α}
    {c : String} (hc : m.get? f.property = .some c) :
    r.route? row f = .some ⟨f.property, (Entry.read c).outputName, .mapped, false⟩ := by
  rw [route?, mapped?, hmap, Option.bind_some, hc]
  rfl

end Routing

namespace Select

/-- What is selected and what is mapped, if the last call about either maps fields. -/
theorem projection_run_of_mapFields {q : Query α} {calls : List Call} {m : FieldMap}
    (hlast : (ofKind .projection calls).getLast? = .some (.mapFields m)) (hne : m ≠ []) :
    (q.run calls).statement.projection = .ofFields m.columns ∧ (q.run calls).map? = .some m := by
  obtain ⟨before, hbefore⟩ := List.getLast?_eq_some_iff.1 hlast
  have hrun : (q.run calls).part .projection = ((q.run before).mapFields m).part .projection := by
    rw [(Query.part_run rfl rfl calls).1, hbefore, Query.run, List.foldl_append]
    rfl
  have hempty : m.isEmpty = false := by simpa using hne
  have hparts := Part.projection.inj hrun
  simpa [Query.mapFields, hempty, Query.withStatement] using hparts

/-- **A mapped field is read from its own column**, and from there only. -/
theorem routes_of_mapFields {q : Query α} {calls : List Call} {m : FieldMap} {pairs : List (String × String)}
    (hproperties : (q.entity.fields.map (·.property)).Nodup) (hpairs : m = .ofPairs pairs) (hm : m.IsApart)
    (hlast : (ofKind .projection calls).getLast? = .some (.mapFields m)) :
    (q.run calls).routing.projection = m.columns.map Entry.read ∧
      ∀ row : Row, row.Carries ((q.run calls).routing.projection.map Entry.outputName) →
        ∀ k p c, m[k]? = .some (p, c) → p ∈ q.entity.fields.map (·.property) →
          ((q.run calls).routing.routes row).filter (·.property == p) =
              [⟨p, (Entry.read c).outputName, .mapped, false⟩] ∧
            row.position? (Entry.read c).outputName = .some k ∧
            ∃ v, row.values[k]? = .some v ∧ row.get? (Entry.read c).outputName = .some v := by
  have hentity : (q.run calls).routing.entity = q.entity := Query.entity_run q calls
  obtain ⟨hprojection, hmap⟩ := projection_run_of_mapFields (q := q) hlast hm.ne_nil
  have hfields : (q.run calls).routing.projection = m.columns.map Entry.read := hprojection.trans hm.ofFields
  refine ⟨hfields, fun row hrow k p c hk hp => ?_⟩
  rw [hfields, List.map_map] at hrow
  have hname : (m.columns.map (Entry.outputName ∘ Entry.read))[k]? = .some (Entry.read c).outputName := by
    rw [FieldMap.columns, List.map_map, List.getElem?_map, hk]
    rfl
  have hposition := Row.position?_of_areApart hrow hm.apart hname
  have hcell : k < row.values.length := by
    rw [hrow.length_values]
    exact (List.getElem?_eq_some_iff.1 hname).1
  have hvalue := List.getElem?_eq_getElem hcell
  refine ⟨?_, hposition, _, hvalue, by rw [Row.get?, hposition, Option.bind_some, hvalue]⟩
  obtain ⟨f, hf, rfl⟩ := List.mem_map.1 hp
  have hget : m.get? f.property = .some c := by
    subst hpairs
    exact FieldMap.get?_of_mem (FieldMap.nodup_ofPairs pairs) (List.mem_of_getElem? hk)
  rw [Routing.routes_of_field (by rwa [hentity]) row (by rwa [hentity]), Routing.route?_of_mapped hmap row hget]
  rfl

/-- Insertions, of which the last changes the column of the first. -/
def remapped : List (String × String) :=
  [("id", "p.Id"), ("name", "p.Title"), ("age", "p.Years AS Age"), ("id", "p.Number as No")]

/-- Pupils with every field mapped, and looked for by name as well. -/
def remapping : List Call :=
  [.mapFields [("name", "p.Id")], .byPropertyName, .removeColumn "p.Name", .mapFields (.ofPairs remapped), .top 3]

def pupilRow : Row := .ofValues ["NO", "title", "AGE"] [.int 7, .text "Ann", .null]

theorem routes_of_mapFields_remapped :
    (pupil.fields.map (·.property)).Nodup ∧ (FieldMap.ofPairs remapped).IsApart ∧
      (ofKind .projection remapping).getLast? = .some (.mapFields (.ofPairs remapped)) ∧
      pupilRow.Carries (((Query.ofColumns pupil false).run remapping).routing.projection.map Entry.outputName) ∧
      ((((Query.ofColumns pupil false).run remapping).routing.routes pupilRow).filter (·.property == "id") =
          [⟨"id", "No", .mapped, false⟩] ∧
        pupilRow.position? "No" = .some 0 ∧
        ∃ v, pupilRow.values[0]? = .some v ∧ pupilRow.get? "No" = .some v) := by
  have hproperties : (pupil.fields.map (·.property)).Nodup := by decide
  have hm : (FieldMap.ofPairs remapped).IsApart :=
    ⟨by decide +kernel, by decide +kernel, by unfold Text.AreApart; decide +kernel⟩
  have hlast : (ofKind .projection remapping).getLast? = .some (.mapFields (.ofPairs remapped)) := rfl
  have hread : (Entry.read "p.Number as No").outputName = "No" := by decide +kernel
  obtain ⟨hprojection, hroutes⟩ :=
    routes_of_mapFields (q := Query.ofColumns pupil false) hproperties rfl hm hlast
  have hrow : pupilRow.Carries
      (((Query.ofColumns pupil false).run remapping).routing.projection.map Entry.outputName) := by
    rw [hprojection]
    unfold Row.Carries
    decide +kernel
  have hid := hroutes pupilRow hrow 0 "id" "p.Number as No" (by decide +kernel) (by decide)
  rw [hread] at hid
  exact ⟨hproperties, hm, hlast, hrow, hid⟩

end Select

end ParamQuery
