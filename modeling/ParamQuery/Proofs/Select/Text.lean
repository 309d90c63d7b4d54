/-
The markers in the text of a query. If every text that a query is given, or
that its entity declares, is closed, then so is every part of the statement
but its predicates (`ClosedTexts.run`), and the statement has the markers
of its predicates (`ClosedTexts.reads_text`).
-/
import ParamQuery.Proofs.Filter.Text
import ParamQuery.Proofs.Select.Restriction

namespace ParamQuery

open Markers (IsClosed IsName Reads isMark)

/-! ## Fields -/

namespace Projection

theorem Entry.cutAtAs?_eq {cs a b : List Char} (h : cutAtAs? cs = .some (a, b)) :
    ∃ x y : Char, x.toUpper = 'A' ∧ y.toUpper = 'S' ∧ cs = a ++ ' ' :: x :: y :: ' ' :: b := by
  induction cs generalizing a with
  | nil => simp [cutAtAs?] at h
  | cons c cs ih =>
    simp only [cutAtAs?] at h
    split at h
    · rename_i before after hcut
      simp only [Option.some.injEq, Prod.mk.injEq] at h
      obtain ⟨rfl, rfl⟩ := h
      obtain ⟨x, y, hx, hy, rfl⟩ := ih hcut
      exact ⟨x, y, hx, hy, rfl⟩
    · simp only [Option.map_eq_some_iff, Prod.mk.injEq] at h
      obtain ⟨after, hafter, rfl, rfl⟩ := h
      unfold behindAs? at hafter
      split at hafter
      · rename_i x y rest hcs
        split at hafter
        · rename_i hupper
          obtain rfl := Option.some.inj hafter
          exact ⟨x, y, hupper.1, hupper.2, hcs⟩
        · simp at hafter
      · simp at hafter

theorem isMark_of_toUpper {c : Char} (h : c.toUpper = 'A' ∨ c.toUpper = 'S') : isMark c = false := by
  simp only [isMark, Bool.or_eq_false_iff, beq_eq_false_iff_ne]
  constructor
  · rintro rfl
    revert h
    decide
  · rintro rfl
    revert h
    decide

/-- What is closed in an entry depends on its expression and its alias only. -/
theorem Entry.filter_make (expression : String) (alias? : Option String) :
    (make expression alias?).text.toList.filter isMark =
      (expression.toList ++ (alias?.getD "").toList).filter isMark := by
  have htrimmed : ∀ t : String, (Text.trimmed t).toList.filter isMark = t.toList.filter isMark := by
    intro t
    rw [Text.trimmed, String.toList_ofList, Markers.filter_trim]
  have has : (" AS ".toList).filter isMark = [] := rfl
  cases alias? with
  | none => simp [make, text, htrimmed]
  | some a =>
    simp only [make, text, Option.bind_some, Text.nonBlank?, Option.getD_some]
    by_cases ha : (Text.trimmed a).isEmpty = true
    · have hnil : a.toList.filter isMark = [] := by
        rw [← htrimmed, String.isEmpty_iff.1 ha]
        rfl
      simp [ha, htrimmed, hnil]
    · simp only [ha, Bool.false_eq_true, if_false, String.toList_append, List.filter_append, htrimmed, has,
        List.append_nil]

theorem Entry.isClosed_make {expression : String} {alias? : Option String}
    (he : IsClosed expression.toList) (ha : ∀ a ∈ alias?, IsClosed a.toList) :
    IsClosed (make expression alias?).text.toList := by
  rw [Markers.isClosed_congr (filter_make expression alias?)]
  refine he.append ?_
  cases alias? with
  | none => decide
  | some a => exact ha a rfl

/-- Reading a field loses no quote and no `@`. -/
theorem Entry.filter_read (field : String) :
    (read field).text.toList.filter isMark = field.toList.filter isMark := by
  unfold read
  split
  · rename_i before after hcut
    obtain ⟨x, y, hx, hy, hcs⟩ := cutAtAs?_eq hcut
    have hword : (' ' :: x :: y :: ' ' :: after).filter isMark = after.filter isMark := by
      have hblank : isMark ' ' = false := rfl
      simp [hblank, isMark_of_toUpper (.inl hx), isMark_of_toUpper (.inr hy)]
    rw [filter_make, ← Markers.filter_trim field.toList, hcs, List.filter_append, List.filter_append, hword]
    simp
  · simp [filter_make]

theorem Entry.isClosed_read {field : String} (h : IsClosed field.toList) :
    IsClosed (read field).text.toList := (Markers.isClosed_congr (filter_read field)).2 h

/-- A list whose entries are closed texts. -/
def IsClosed (p : Projection) : Prop := ∀ e ∈ p, Markers.IsClosed e.text.toList

theorem isClosed_ofFields {fields : List String} (h : ∀ f ∈ fields, Markers.IsClosed f.toList) :
    IsClosed (ofFields fields) := by
  intro e he
  obtain ⟨f, hf, rfl⟩ := List.mem_map.1 he
  exact Entry.isClosed_read (h f (List.mem_filter.1 hf).1)

theorem IsClosed.erase {p : Projection} (h : p.IsClosed) (column : String) : (p.erase column).IsClosed :=
  fun e he => h e (List.mem_filter.1 he).1

theorem IsClosed.substitute {p : Projection} (h : p.IsClosed) (column : String) {e : Entry}
    (he : Markers.IsClosed e.text.toList) : (p.substitute column e).IsClosed := by
  intro d hd
  obtain ⟨old, hold, rfl⟩ := List.mem_map.1 hd
  split
  · exact he
  · exact h old hold

theorem IsClosed.text {p : Projection} (h : p.IsClosed) : Markers.IsClosed p.text.toList := by
  rw [Projection.text, String.toList_intercalate]
  refine Markers.IsClosed.intercalate (by decide) fun t ht => ?_
  simp only [List.map_map, List.mem_map] at ht
  obtain ⟨e, he, rfl⟩ := ht
  exact h e he

end Projection

namespace Select

open ParamQuery.Filter

variable {α : Type}

/-! ## What a query is given -/

/-- The texts of a join. -/
def JoinRequest.fragments (r : JoinRequest) : List String := r.table :: r.alias?.toList ++ r.condition?.toList

/-- The texts that a call puts into the statement of an entity's query. -/
def Call.fragments (e : Entity α) : Call → List String
  | .fromTable table => [table]
  | .fromDefaultTable => e.table?.toList
  | .fromView table alias? joins => table :: alias?.toList ++ joins.flatMap JoinRequest.fragments
  | .restrict script => (testsOf (outline script)).map (·.1)
  | .orderBy column _ => [column]
  | .mapColumn _ expression alias? => expression :: alias?.toList
  | .mapFields m => m.columns
  | .top _ | .distinct | .removeColumn _ | .byPropertyName => []

/-- The texts that a query begins with. -/
def Beginning.fragments (e : Entity α) : Beginning → List String
  | .columns _ => e.columns
  | .fields names _ => names
  | .auto => e.columns ++ e.table?.toList

/-! ## Closed statements -/

/-- A statement whose parts are closed texts, but for the values of its predicates. -/
structure ClosedTexts (st : Statement) : Prop where
  projection : st.projection.IsClosed
  source : ∀ source ∈ st.source?, IsClosed source.text.toList
  columns : ∀ column ∈ columnsOf st.predicates, IsClosed column.toList
  order : ∀ order ∈ st.order?, IsClosed order.text.toList

theorem isClosed_aliased {table : String} {alias? : Option String} (ht : IsClosed table.toList)
    (ha : ∀ a ∈ alias?, IsClosed a.toList) : IsClosed (aliased table alias?).toList := by
  cases alias? with
  | none => exact ht
  | some a =>
    simp only [aliased, String.toList_append]
    exact (ht.append (by decide)).append (ha a rfl)

theorem isClosed_bind_nonBlank? {alias? : Option String} (h : ∀ a ∈ alias?, IsClosed a.toList) :
    ∀ a ∈ alias?.bind Text.nonBlank?, IsClosed a.toList := by
  intro a ha
  obtain ⟨b, hb, hba⟩ := Option.bind_eq_some_iff.1 ha
  exact Markers.isClosed_of_nonBlank? (h b hb) hba

theorem JoinRequest.isClosed_text {r : JoinRequest} {j : Join} (hj : r.join? = .some j)
    (h : ∀ t ∈ r.fragments, IsClosed t.toList) : IsClosed j.text.toList := by
  obtain ⟨condition, hcondition, rfl⟩ := Option.map_eq_some_iff.1 hj
  have htable : IsClosed (Text.trimmed r.table).toList :=
    Markers.isClosed_trimmed.2 (h _ (by simp [fragments]))
  have halias : ∀ a ∈ r.alias?.bind Text.nonBlank?, IsClosed a.toList :=
    isClosed_bind_nonBlank? fun a ha => h a (by simp [fragments, Option.mem_def.1 ha])
  have hon : IsClosed (Text.trimmed condition).toList :=
    Markers.isClosed_trimmed.2 (h _ (by simp [fragments, hcondition]))
  simp only [Join.text, String.toList_append]
  have hkind : IsClosed r.kind.words.toList := by cases r.kind <;> decide
  have hspace : IsClosed " ".toList := by decide
  have hword : IsClosed " ON ".toList := by decide
  exact (((hkind.append hspace).append (isClosed_aliased htable halias)).append hword).append hon

theorem Source.isClosed_text {s : Source} (ht : IsClosed s.table.toList)
    (ha : ∀ a ∈ s.alias?, IsClosed a.toList) (hj : ∀ j ∈ s.joins, IsClosed j.text.toList) :
    IsClosed s.text.toList := by
  rw [Source.text, String.toList_intercalate]
  refine IsClosed.intercalate (by decide) fun t hmem => ?_
  simp only [List.map_cons, List.map_map, List.mem_cons, List.mem_map] at hmem
  rcases hmem with rfl | ⟨j, hj', rfl⟩
  · rw [String.toList_append]
    exact IsClosed.append (by decide) (isClosed_aliased ht ha)
  · exact hj j hj'

theorem Order.isClosed_text {o : Order} (h : IsClosed o.column.toList) : IsClosed o.text.toList := by
  simp only [Order.text, String.toList_append]
  refine IsClosed.append (IsClosed.append (IsClosed.append (by decide) h) (by decide)) ?_
  cases o.descending <;> decide

/-! ## Calls -/

namespace ClosedTexts

theorem withSource {q : Query α} (h : ClosedTexts q.statement) {s : Source} (hs : IsClosed s.text.toList) :
    ClosedTexts (q.withSource s).statement :=
  ⟨h.projection, by simpa [Query.withSource, Query.withStatement] using hs, h.columns, h.order⟩

theorem fromDefaultTable {q : Query α} (h : ClosedTexts q.statement)
    (ht : ∀ t ∈ q.entity.table?, IsClosed t.toList) : ClosedTexts q.fromDefaultTable.statement := by
  unfold Query.fromDefaultTable
  split
  · rename_i table htable
    exact h.withSource (Source.isClosed_text (ht table htable) (by simp) (by simp))
  · exact h

theorem withProjection {q : Query α} (h : ClosedTexts q.statement) (column : String)
    {change : Projection → Projection} (hp : (change q.statement.projection).IsClosed) :
    ClosedTexts (q.withProjection column change).statement := by
  unfold Query.withProjection
  split
  · exact ⟨hp, h.source, h.columns, h.order⟩
  · exact h

theorem mapFields {q : Query α} (h : ClosedTexts q.statement) {m : FieldMap}
    (hm : ∀ t ∈ m.columns, IsClosed t.toList) : ClosedTexts (q.mapFields m).statement := by
  unfold Query.mapFields
  split
  · split <;> exact h
  · exact ⟨Projection.isClosed_ofFields hm, h.source, h.columns, h.order⟩

/-- A call that is given closed texts keeps the statement closed. -/
theorem after {q : Query α} (h : ClosedTexts q.statement) {call : Call}
    (hcall : ∀ t ∈ call.fragments q.entity, IsClosed t.toList) :
    ClosedTexts (q.after call).statement := by
  cases call with
  | restrict script =>
    refine ⟨h.projection, h.source, ?_, h.order⟩
    intro column hcolumn
    rw [Query.after, (restrict_eq q script).1, columnsOf_conjoin, columnsOf_predicatesOf,
      List.mem_append] at hcolumn
    rcases hcolumn with hcolumn | hcolumn
    · exact h.columns column hcolumn
    · exact hcall column hcolumn
  | fromTable table =>
    have ht : IsClosed (Text.trimmed table).toList :=
      Markers.isClosed_trimmed.2 (hcall table (by simp [Call.fragments]))
    exact h.withSource (Source.isClosed_text ht (by simp) (by simp))
  | fromDefaultTable => exact h.fromDefaultTable fun t ht => hcall t (by simpa [Call.fragments] using ht)
  | fromView table alias? joins =>
    have ht : IsClosed (Text.trimmed table).toList :=
      Markers.isClosed_trimmed.2 (hcall table (by simp [Call.fragments]))
    have ha : ∀ a ∈ alias?.bind Text.nonBlank?, IsClosed a.toList :=
      isClosed_bind_nonBlank? fun a ha => hcall a (by simp [Call.fragments, Option.mem_def.1 ha])
    refine h.withSource (Source.isClosed_text ht ha fun j hj => ?_)
    obtain ⟨r, hr, hrj⟩ := List.mem_filterMap.1 hj
    exact JoinRequest.isClosed_text hrj fun t ht =>
      hcall t (List.mem_append_right _ (List.mem_flatMap.2 ⟨r, hr, ht⟩))
  | orderBy column descending =>
    simp only [Query.after, Query.orderBy]
    split
    · refine ⟨h.projection, h.source, h.columns, ?_⟩
      intro o ho
      obtain rfl := Option.some.inj ho
      exact Order.isClosed_text (hcall column (by simp [Call.fragments]))
    · exact h
  | removeColumn column => exact h.withProjection column (h.projection.erase column)
  | mapColumn column expression alias? =>
    refine h.withProjection column (h.projection.substitute column (Projection.Entry.isClosed_make ?_ ?_))
    · exact hcall expression (by simp [Call.fragments])
    · exact fun a ha => hcall a (by simp [Call.fragments, Option.mem_def.1 ha])
  | mapFields m => exact h.mapFields hcall
  | top n =>
    simp only [Query.after, Query.top]
    split
    · exact ⟨h.projection, h.source, h.columns, h.order⟩
    · exact h
  | distinct => exact ⟨h.projection, h.source, h.columns, h.order⟩
  | byPropertyName => exact h

theorem run {q : Query α} (h : ClosedTexts q.statement) {calls : List Call}
    (hcalls : ∀ call ∈ calls, ∀ t ∈ call.fragments q.entity, IsClosed t.toList) :
    ClosedTexts (q.run calls).statement := by
  induction calls generalizing q with
  | nil => exact h
  | cons call calls ih =>
    refine ih (h.after (hcalls call (by simp))) ?_
    rw [Query.entity_after]
    exact fun c hc => hcalls c (by simp [hc])

end ClosedTexts

theorem closedTexts_selecting {e : Entity α} {fields : List String} (distinct : Bool)
    (h : ∀ f ∈ fields, IsClosed f.toList) :
    ClosedTexts (Query.selecting e (.ofFields fields) distinct).statement :=
  ⟨Projection.isClosed_ofFields h, by simp [Query.selecting],
    by simp [Query.selecting, columnsOf, leavesOf], by simp [Query.selecting]⟩

theorem closedTexts_query {e : Entity α} {b : Beginning} (h : ∀ t ∈ b.fragments e, IsClosed t.toList) :
    ClosedTexts (b.query e).statement ∧ (b.query e).entity = e := by
  cases b with
  | columns distinct => exact ⟨closedTexts_selecting distinct h, rfl⟩
  | fields names distinct =>
    have hbegin := closedTexts_selecting (e := e) distinct h
    simp only [Beginning.query, Query.ofFields]
    split
    · exact ⟨hbegin, rfl⟩
    · exact ⟨hbegin, rfl⟩
  | auto =>
    have hbegin : ClosedTexts (Query.ofColumns e false).statement :=
      closedTexts_selecting false fun f hf => h f (List.mem_append_left _ hf)
    have htable : ∀ t ∈ e.table?, IsClosed t.toList := fun t ht =>
      h t (List.mem_append_right _ (by simpa using ht))
    have hentity (q : Query α) : q.fromDefaultTable.entity = q.entity := q.entity_after .fromDefaultTable
    simp only [Beginning.query, Query.auto, hentity]
    split
    · exact ⟨ClosedTexts.fromDefaultTable hbegin htable, rfl⟩
    · exact ⟨ClosedTexts.fromDefaultTable hbegin htable, rfl⟩

/-! ## The text -/

theorem isClosed_natText (n : Nat) : IsClosed (Number.natText n).toList := by
  refine Markers.isClosed_iff.2 ?_
  have hmarks : (Number.natText n).toList.filter isMark = [] := by
    rw [List.filter_eq_nil_iff, Number.natText, String.toList_ofList]
    intro c hc
    simp only [isMark, Bool.or_eq_true, beq_iff_eq, not_or]
    exact ⟨Number.ne_of_mem_digits hc (by decide), Number.ne_of_mem_digits hc (by decide)⟩
  rw [← Markers.closes_filter, hmarks]
  rfl

/-- **The markers of a query's text are those of its predicates.** -/
theorem ClosedTexts.reads_text {st : Statement} (h : ClosedTexts st)
    (hnames : ∀ n ∈ namesOf st.predicates, IsName n) (d : Dialect) :
    Reads (namesOf st.predicates) (st.text d).toList := by
  have hpredicates : Reads (namesOf st.predicates) (Markers.spaced [st.predicateText]) :=
    (reads_render h.columns hnames).spaced_singleton
  have hbefore : Reads [] (Markers.spaced (["SELECT"] ++ (if st.distinct then ["DISTINCT"] else []) ++
      (st.topText? d).toList ++ [st.projection.text] ++ (st.source?.map Source.text).toList)) := by
    refine Markers.reads_spaced_of_isClosed fun t ht => ?_
    simp only [List.mem_append, List.mem_singleton, Option.mem_toList, Option.map_eq_some_iff] at ht
    rcases ht with (((rfl | ht) | ht) | rfl) | ⟨source, hsource, rfl⟩
    · decide
    · split at ht
      · obtain rfl := List.mem_singleton.1 ht
        decide
      · simp at ht
    · cases d with
      | postgres => simp [Statement.topText?] at ht
      | named =>
        obtain ⟨n, -, rfl⟩ := Option.map_eq_some_iff.1 ht
        simp only [String.toList_append]
        exact (IsClosed.append (by decide) (isClosed_natText n)).append (by decide)
    · exact h.projection.text
    · exact h.source source hsource
  have hbehind : Reads [] (Markers.spaced ((st.order?.map Order.text).toList ++
      (st.limitText? d).toList)) := by
    refine Markers.reads_spaced_of_isClosed fun t ht => ?_
    simp only [List.mem_append, Option.mem_toList, Option.map_eq_some_iff] at ht
    rcases ht with ⟨order, horder, rfl⟩ | ht
    · exact h.order order horder
    · cases d with
      | named => simp [Statement.limitText?] at ht
      | postgres =>
        obtain ⟨n, -, rfl⟩ := Option.map_eq_some_iff.1 ht
        rw [String.toList_append]
        exact IsClosed.append (by decide) (isClosed_natText n)
  have hparts := (hbefore.spaced_append hpredicates).spaced_append hbehind
  rw [List.nil_append, List.append_nil] at hparts
  refine Markers.Reads.intercalate_normalize ?_
  simpa [Statement.parts] using hparts

end Select

end ParamQuery
