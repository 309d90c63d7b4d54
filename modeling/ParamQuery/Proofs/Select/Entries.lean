/-
The calls that drop a declared column, or put another expression in its
place.

An entry is looked for by the text that is declared. The column's own entry
answers for that text only if nothing was dropped from it and nothing was
read as an alias (`isFor_read_self_iff`), and an entry of another column
may answer as well: the calls touch every entry that answers, and the
column's own and no other exactly if it answers and stands alone
(`touched_iff`).
-/
import ParamQuery.Proofs.Entity.Layout
import ParamQuery.Proofs.Entity.Lookup
import ParamQuery.Select.Query

namespace ParamQuery

open Projection (Entry IsUnaliased)

variable {α : Type}

/-! ## Lengths -/

theorem Text.trim_isInfix (cs : List Char) : trim cs <:+: cs := by
  have hend : trimEnd (trimStart cs) <+: trimStart cs := by
    rw [trimEnd, ← List.reverse_suffix, List.reverse_reverse]
    exact List.dropWhile_suffix _
  exact hend.isInfix.trans (List.dropWhile_suffix _).isInfix

theorem Text.length_trimmed_le (s : String) : (trimmed s).toList.length ≤ s.toList.length := by
  rw [trimmed, String.toList_ofList]
  exact (trim_isInfix _).length_le

/-- Nothing is dropped from a text that keeps its length. -/
theorem Text.trimmed_eq_of_length {s : String} (h : s.toList.length ≤ (trimmed s).toList.length) :
    trimmed s = s := by
  rw [trimmed, String.toList_ofList] at h
  rw [trimmed, (trim_isInfix _).sublist.eq_of_length_le h, String.ofList_toList]

theorem Text.length_eq_of_same {a b : String} (h : sameIgnoringCase a b = true) :
    a.toList.length = b.toList.length := by
  have := congrArg List.length (eq_of_beq h)
  rwa [List.length_map, List.length_map] at this

namespace Projection

theorem Entry.length_lastSegment_le (s : String) : (lastSegment s).toList.length ≤ s.toList.length := by
  rw [lastSegment, String.toList_ofList, List.length_reverse]
  exact (List.takeWhile_sublist _).length_le.trans (by rw [List.length_reverse])

/-- An entry that is read out of a text is no longer than its parts, in expression and in name. -/
theorem Entry.length_make_le (expression : String) (alias? : Option String) {n : Nat}
    (he : expression.toList.length ≤ n) (ha : ∀ a ∈ alias?, a.toList.length ≤ n) :
    (make expression alias?).expression.toList.length ≤ n ∧
      (make expression alias?).outputName.toList.length ≤ n := by
  have hexpression := (Text.length_trimmed_le expression).trans he
  refine ⟨hexpression, ?_⟩
  rw [make, outputName]
  cases hname : alias?.bind Text.nonBlank? with
  | none => exact (length_lastSegment_le _).trans hexpression
  | some name =>
    obtain ⟨a, hsome, hkept⟩ := Option.bind_eq_some_iff.1 hname
    simp only [Text.nonBlank?] at hkept
    split at hkept
    · cases hkept
    · rw [← Option.some.inj hkept]
      exact (Text.length_trimmed_le a).trans (ha a hsome)

theorem Entry.length_le_of_isFor {e : Entry} {column : String} {n : Nat}
    (he : e.expression.toList.length ≤ n) (ho : e.outputName.toList.length ≤ n)
    (h : e.isFor column = true) : column.toList.length ≤ n := by
  rw [isFor, Bool.or_eq_true] at h
  rcases h with heq | hsame
  · rwa [← eq_of_beq heq]
  · rwa [← Text.length_eq_of_same hsame]

theorem Entry.length_le_of_isFor_bare {s column : String} (h : (bare s).isFor column = true) :
    column.toList.length ≤ s.toList.length :=
  length_le_of_isFor (e := bare s) (Nat.le_refl _) (length_lastSegment_le s) h

/-- The parts of a text that is cut are shorter than the text. -/
theorem Entry.length_read_of_cut {field : String} {parts : List Char × List Char}
    (h : cutAtAs? (Text.trim field.toList) = .some parts) :
    (read field).expression.toList.length < field.toList.length ∧
      (read field).outputName.toList.length < field.toList.length := by
  obtain ⟨before, after⟩ := parts
  obtain ⟨a, s, -, -, hcs⟩ := cutAtAs?_eq h
  have hlength := congrArg List.length hcs
  have htrim := (Text.trim_isInfix field.toList).length_le
  simp only [List.length_append, List.length_cons] at hlength
  have hbefore : (String.ofList before).toList.length ≤ before.length + after.length := by
    rw [String.toList_ofList]
    omega
  have hafter : ∀ t ∈ Option.some (String.ofList after), t.toList.length ≤ before.length + after.length := by
    rintro t ht
    rw [← Option.some.inj ht, String.toList_ofList]
    omega
  have hread : read field = make (.ofList before) (.some (.ofList after)) := by rw [read, h]
  obtain ⟨hexpression, hname⟩ := length_make_le _ _ hbefore hafter
  rw [hread]
  omega

/-- **A column's own entry answers for it if it is the text as it stands.** -/
theorem isFor_read_self_iff (column : String) :
    (Entry.read column).isFor column = true ↔ Text.trimmed column = column ∧ IsUnaliased column.toList := by
  constructor
  · intro h
    cases hcut : Entry.cutAtAs? (Text.trim column.toList) with
    | none =>
      rw [Entry.read_of_not_cut hcut] at h
      have htrimmed := Text.trimmed_eq_of_length (Entry.length_le_of_isFor_bare h)
      rw [Text.trim_of_trimmed htrimmed] at hcut
      exact ⟨htrimmed, cutAtAs?_eq_none_iff.1 hcut⟩
    | some parts =>
      obtain ⟨hexpression, hname⟩ := Entry.length_read_of_cut hcut
      have := Entry.length_le_of_isFor (n := column.toList.length - 1) (by omega) (by omega) h
      omega
  · rintro ⟨htrimmed, hunaliased⟩
    have hcut : Entry.cutAtAs? (Text.trim column.toList) = .none := by
      rw [Text.trim_of_trimmed htrimmed, cutAtAs?_eq_none_iff.2 hunaliased]
    rw [Entry.read_of_not_cut hcut, htrimmed]
    simp [Entry.isFor, Entry.bare]

end Projection

/-! ## Declared columns -/

namespace Entity

/-- The declared columns that a query of them all selects. -/
def selected (e : Entity α) : List String := e.columns.filter (!Text.isBlankText ·)

theorem ofFields_columns (e : Entity α) : Projection.ofFields e.columns = e.selected.map Entry.read := rfl

theorem hasColumn_of_mem {e : Entity α} {c : String} (hc : c ∈ e.columns) : e.hasColumn c = true := by
  obtain ⟨f, hf, hcolumn⟩ := List.mem_filterMap.1 hc
  exact List.any_eq_true.2 ⟨f, hf, by rw [hcolumn]; exact beq_self_eq_true _⟩

/-- No entry of another declared column answers for the column. -/
def IsAlone (e : Entity α) (c : String) : Prop :=
  ∀ d ∈ e.selected, d ≠ c → (Entry.read d).isFor c = false

theorem IsAlone.isFor_iff {e : Entity α} {c : String} (h : e.IsAlone c)
    (hown : c ∈ e.selected → (Entry.read c).isFor c = true) {d : String} (hd : d ∈ e.selected) :
    (Entry.read d).isFor c = true ↔ d = c := by
  constructor
  · intro hfor
    by_contra hne
    rw [h d hd hne] at hfor
    cases hfor
  · rintro rfl
    exact hown hd

end Entity

namespace Select

variable {e : Entity α} {c : String}

theorem projection_removeColumn (hc : c ∈ e.columns) (distinct : Bool) :
    ((Query.ofColumns e distinct).after (.removeColumn c)).statement.projection =
      (Projection.ofFields e.columns).erase c := by
  have hcolumn : (Query.ofColumns e distinct).entity.hasColumn c = true := Entity.hasColumn_of_mem hc
  rw [Query.after, Query.withProjection, if_pos hcolumn]
  rfl

theorem projection_mapColumn (hc : c ∈ e.columns) (distinct : Bool) (expression : String) (alias? : Option String) :
    ((Query.ofColumns e distinct).after (.mapColumn c expression alias?)).statement.projection =
      (Projection.ofFields e.columns).substitute c (.make expression alias?) := by
  have hcolumn : (Query.ofColumns e distinct).entity.hasColumn c = true := Entity.hasColumn_of_mem hc
  rw [Query.after, Query.withProjection, if_pos hcolumn]
  rfl

theorem erase_ofFields :
    (Projection.ofFields e.columns).erase c = (e.selected.filter fun d => !(Entry.read d).isFor c).map Entry.read := by
  rw [Entity.ofFields_columns, Projection.erase, List.filter_map]
  rfl

theorem substitute_ofFields (new : Entry) :
    (Projection.ofFields e.columns).substitute c new =
      e.selected.map fun d => if (Entry.read d).isFor c = true then new else .read d := by
  rw [Entity.ofFields_columns, Projection.substitute, List.map_map]
  rfl

theorem own_iff (hc : c ∈ e.columns) :
    (c ∈ e.selected → (Entry.read c).isFor c = true) ↔
      (Text.isBlankText c = false → Text.trimmed c = c ∧ IsUnaliased c.toList) := by
  rw [Projection.isFor_read_self_iff, Entity.selected, List.mem_filter, and_iff_right hc, Bool.not_eq_true']

theorem ofFields_erase (hnodup : e.columns.Nodup) :
    Projection.ofFields (e.columns.erase c) = (e.selected.erase c).map Entry.read := by
  have hselected : e.selected.Nodup := hnodup.filter _
  rw [hnodup.erase_eq_filter, hselected.erase_eq_filter, Projection.ofFields, Entity.selected, List.filter_filter,
    List.filter_filter]
  simp only [Bool.and_comm]

/-- If the right entry is dropped, the column's own answers for it: of the entries that read as that one
does, one is missing. -/
theorem own_of_erase (hnodup : e.columns.Nodup)
    (h : (Projection.ofFields e.columns).erase c = .ofFields (e.columns.erase c)) (hc : c ∈ e.selected) :
    (Entry.read c).isFor c = true := by
  by_contra hnot
  have hcount := congrArg (List.countP (· == Entry.read c)) h
  rw [erase_ofFields, ofFields_erase hnodup, List.countP_map, List.countP_map, List.countP_filter] at hcount
  have hall : e.selected.countP (fun d => ((· == Entry.read c) ∘ Entry.read) d && !(Entry.read d).isFor c) =
      e.selected.countP ((· == Entry.read c) ∘ Entry.read) := by
    refine List.countP_congr fun d _ => ?_
    simp only [Function.comp_apply, Bool.and_eq_true, beq_iff_eq, Bool.not_eq_true']
    refine and_iff_left_of_imp fun hread => ?_
    rwa [hread, ← Bool.not_eq_true]
  have hone := (List.perm_cons_erase hc).countP_eq ((· == Entry.read c) ∘ Entry.read)
  rw [List.countP_cons_of_pos (by simp)] at hone
  omega

theorem erase_ofFields_iff (hnodup : e.columns.Nodup) :
    (Projection.ofFields e.columns).erase c = .ofFields (e.columns.erase c) ↔
      (c ∈ e.selected → (Entry.read c).isFor c = true) ∧ e.IsAlone c := by
  have hselected : e.selected.Nodup := hnodup.filter _
  constructor
  · refine fun h => ⟨own_of_erase hnodup h, fun d hd hne => ?_⟩
    rw [erase_ofFields, ofFields_erase hnodup, hselected.erase_eq_filter] at h
    -- The entry of another column is kept, and what is kept does not answer.
    have hkept : Entry.read d ∈ (e.selected.filter (· != c)).map Entry.read :=
      List.mem_map_of_mem (List.mem_filter.2 ⟨hd, by simpa using hne⟩)
    rw [← h] at hkept
    obtain ⟨d', hd', hread⟩ := List.mem_map.1 hkept
    rw [← hread]
    simpa using (List.mem_filter.1 hd').2
  · rintro ⟨hown, halone⟩
    rw [erase_ofFields, ofFields_erase hnodup, hselected.erase_eq_filter]
    refine congrArg (List.map Entry.read) (List.filter_congr fun d hd => ?_)
    rw [Bool.eq_iff_iff, Bool.not_eq_true', bne_iff_ne, Bool.eq_false_iff]
    exact not_congr (halone.isFor_iff hown hd)

theorem substitute_ofFields_iff :
    (∀ expression alias?, (Projection.ofFields e.columns).substitute c (.make expression alias?) =
        e.selected.map fun d => if d = c then .make expression alias? else .read d) ↔
      (c ∈ e.selected → (Entry.read c).isFor c = true) ∧ e.IsAlone c := by
  simp only [substitute_ofFields, List.map_inj_left]
  -- Of two entries that could be put in a place, one differs from the entry that is there.
  have hdiffers (entry : Entry) : ∃ expression, Entry.make expression .none ≠ entry := by
    by_contra hall
    have hsame : ∀ expression, Entry.make expression .none = entry := by simpa using hall
    have hboth := (hsame "a").trans (hsame "b").symm
    revert hboth
    decide
  constructor
  · refine fun h => ⟨fun hc => ?_, fun d hd hne => ?_⟩
    · obtain ⟨expression, hne⟩ := hdiffers (.read c)
      by_contra hfor
      have hplace := h expression .none c hc
      rw [if_neg hfor, if_pos rfl] at hplace
      exact hne hplace.symm
    · obtain ⟨expression, hdiffer⟩ := hdiffers (.read d)
      rw [Bool.eq_false_iff]
      intro hfor
      have hplace := h expression .none d hd
      rw [if_pos hfor, if_neg hne] at hplace
      exact hdiffer hplace
  · rintro ⟨hown, halone⟩ expression alias? d hd
    simp only [halone.isFor_iff hown hd]

/-- **The calls touch every entry that answers for the column.** That is its own and no other exactly if
the column, unless it is blank, is the text of its own entry, and no entry of another answers for it. -/
theorem touched_iff (hnodup : e.columns.Nodup) (hc : c ∈ e.columns) (distinct : Bool) :
    ((Query.ofColumns e distinct).after (.removeColumn c)).statement.projection =
        (e.selected.filter fun d => !(Entry.read d).isFor c).map Entry.read ∧
      (∀ expression alias?,
        ((Query.ofColumns e distinct).after (.mapColumn c expression alias?)).statement.projection =
          e.selected.map fun d => if (Entry.read d).isFor c = true then .make expression alias? else .read d) ∧
      ((Entry.read c).isFor c = true ↔ Text.trimmed c = c ∧ IsUnaliased c.toList) ∧
      (((Query.ofColumns e distinct).after (.removeColumn c)).statement.projection =
          .ofFields (e.columns.erase c) ↔
        (Text.isBlankText c = false → Text.trimmed c = c ∧ IsUnaliased c.toList) ∧ e.IsAlone c) ∧
      ((∀ expression alias?,
          ((Query.ofColumns e distinct).after (.mapColumn c expression alias?)).statement.projection =
            e.selected.map fun d => if d = c then .make expression alias? else .read d) ↔
        (Text.isBlankText c = false → Text.trimmed c = c ∧ IsUnaliased c.toList) ∧ e.IsAlone c) := by
  simp only [projection_removeColumn hc, projection_mapColumn hc, ← own_iff hc]
  exact ⟨erase_ofFields, fun _ _ => substitute_ofFields _, Projection.isFor_read_self_iff c,
    erase_ofFields_iff hnodup, substitute_ofFields_iff⟩

/-- Products, with columns of similar names. -/
structure Product where
  id : Int64
  product : Int64
  name : String

def product : Entity Product where
  typeName := "Product"
  table? := .some "products"
  fields := [
    .of "id" (.some "Id") .int readNumber fun p id => { p with id },
    .of "product" (.some "ProductId") .int readNumber fun p product => { p with product },
    .of "name" (.some "p.Name") .text readText fun p name => { p with name }]
  blank := ⟨0, 0, ""⟩

theorem touched_product :
    product.columns.Nodup ∧ "Id" ∈ product.columns ∧
      ((Query.ofColumns product false).after (.removeColumn "Id")).statement.projection =
        .ofFields ["ProductId", "p.Name"] ∧
      ((Query.ofColumns product false).after (.mapColumn "Id" "q.Number" .none)).statement.projection =
        [.bare "q.Number", .bare "ProductId", .bare "p.Name"] := by
  have hnodup : product.columns.Nodup := by decide
  have hc : "Id" ∈ product.columns := by decide
  have hcut : Text.trimmed "Id" = "Id" ∧ Entry.cutAtAs? "Id".toList = .none := by decide
  have hplain : Text.isBlankText "Id" = false → Text.trimmed "Id" = "Id" ∧ IsUnaliased "Id".toList :=
    fun _ => ⟨hcut.1, Projection.cutAtAs?_eq_none_iff.1 hcut.2⟩
  have halone : product.IsAlone "Id" := by
    unfold Entity.IsAlone
    decide
  obtain ⟨-, -, -, hremove, hmap⟩ := touched_iff hnodup hc false
  refine ⟨hnodup, hc, hremove.2 ⟨hplain, halone⟩, (hmap.2 ⟨hplain, halone⟩ "q.Number" .none).trans ?_⟩
  decide

/-- Orders with their sums. -/
structure Purchase where
  number : Int64
  id : Int64
  total : Int64

def order : Entity Purchase where
  typeName := "Order"
  table? := .some "orders"
  fields := [
    .of "number" (.some "o.Id") .int readNumber fun o number => { o with number },
    .of "id" (.some "Id") .int readNumber fun o id => { o with id },
    .of "total" (.some "SUM(o.Total) AS Total") .int readNumber fun o total => { o with total }]
  blank := ⟨0, 0, 0⟩

/-- Without `Id` there is no `o.Id`, either. -/
theorem touched_order :
    order.columns.Nodup ∧ "Id" ∈ order.columns ∧
      ((Query.ofColumns order false).after (.removeColumn "Id")).statement.projection ≠
        .ofFields (order.columns.erase "Id") ∧
      ((Query.ofColumns order false).after (.mapColumn "Id" "x.Id" .none)).statement.projection ≠
        (order.selected.map fun d => if d = "Id" then .make "x.Id" .none else .read d) ∧
      "SUM(o.Total) AS Total" ∈ order.columns ∧
      ((Query.ofColumns order false).after (.removeColumn "SUM(o.Total) AS Total")).statement.projection ≠
        .ofFields (order.columns.erase "SUM(o.Total) AS Total") := by
  decide

end Select

end ParamQuery
