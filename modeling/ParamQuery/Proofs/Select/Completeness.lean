/-
Whether a statement that is made lacks a part.

Nothing is made without an entry and without a source. Fields that are
blank are left out, but a declared column can be replaced by a blank
expression, and a blank name is taken for a table. Nothing else can be
missing (`isComplete_iff`).
-/
import Mathlib.Data.List.Induction
import ParamQuery.Proofs.Construction.Binding
import ParamQuery.Proofs.Select.Entries
import ParamQuery.Proofs.Select.Origins
import ParamQuery.Proofs.Select.OutputName

namespace ParamQuery

open Text (IsTrimmed isBlankText)

theorem Text.isBlankText_iff {s : String} : isBlankText s = true ↔ words s.toList = [] := by
  rw [isBlankText, List.all_eq_true, ← normalize_eq_nil_iff_words, normalize_eq_nil_iff]

theorem Text.isBlankText_eq_false_iff {s : String} : isBlankText s = false ↔ words s.toList ≠ [] := by
  rw [← Bool.not_eq_true, isBlankText_iff]

/-- Blanks at the ends do not count. -/
theorem Text.isBlankText_trimmed (s : String) : isBlankText (trimmed s) = isBlankText s := by
  rw [Bool.eq_iff_iff, isBlankText_iff, isBlankText_iff, trimmed, String.toList_ofList, words_trim]

/-! ## Entries -/

namespace Projection.Entry

/-- What every entry is: its parts have nothing to trim, and an alias is not blank. -/
structure IsMade (e : Entry) : Prop where
  expression : IsTrimmed e.expression.toList
  named : ∀ a ∈ e.alias?, IsTrimmed a.toList ∧ a.toList ≠ []

theorem isMade_make (expression : String) (alias? : Option String) : (make expression alias?).IsMade := by
  have htrimmed (s : String) : IsTrimmed (Text.trimmed s).toList := by
    rw [Text.trimmed, String.toList_ofList]
    exact Text.isTrimmed_trim _
  refine ⟨htrimmed _, fun a ha => ?_⟩
  obtain ⟨given, -, hkept⟩ := Option.bind_eq_some_iff.1 ha
  simp only [Text.nonBlank?] at hkept
  split at hkept
  · cases hkept
  · rename_i hne
    obtain rfl := Option.some.inj hkept
    exact ⟨htrimmed _, by simpa [String.isEmpty_iff] using hne⟩

theorem isMade_read (field : String) : (read field).IsMade := by
  unfold read
  split
  · exact isMade_make _ _
  · exact isMade_make _ _

/-- A field that is not blank has something in its expression. -/
theorem expression_read {field : String} (h : isBlankText field = false) :
    isBlankText (read field).expression = false := by
  cases hcut : cutAtAs? (Text.trim field.toList) with
  | none =>
    rw [read_of_not_cut hcut, bare, Text.isBlankText_trimmed]
    exact h
  | some parts =>
    obtain ⟨before, after⟩ := parts
    obtain ⟨-, -, hbefore, -, -⟩ := words_of_cut (Text.isTrimmed_trim _) hcut
    rw [read_of_cut hcut, make, Text.isBlankText_trimmed, Text.isBlankText_eq_false_iff, String.toList_ofList]
    exact hbefore

theorem IsMade.text {e : Entry} (h : e.IsMade) (hne : isBlankText e.expression = false) :
    IsTrimmed e.text.toList ∧ e.text.toList ≠ [] := by
  have hexpression : e.expression.toList ≠ [] := fun hnil => by
    rw [Text.isBlankText_eq_false_iff, hnil] at hne
    exact hne rfl
  rw [Entry.text]
  cases halias : e.alias? with
  | none => exact ⟨h.expression, hexpression⟩
  | some a =>
    obtain ⟨ha, hane⟩ := h.named a halias
    have hall := h.expression.between ha hexpression hane " AS ".toList
    simp only [String.toList_append, List.append_assoc]
    exact ⟨hall, by simp [hexpression]⟩

end Projection.Entry

/-- **A list of entries is normalised entry by entry.** -/
theorem Projection.normalized_text {p : Projection} (h : ∀ e ∈ p, IsTrimmed e.text.toList ∧ e.text.toList ≠ []) :
    Text.normalized p.text = ", ".intercalate (p.map fun e => Text.normalized e.text) := by
  rw [← String.toList_inj, Text.normalized, String.toList_ofList, text, String.toList_intercalate,
    String.toList_intercalate]
  refine (Text.normalize_commas fun t ht => ?_).trans ?_
  · simp only [List.map_map, List.mem_map] at ht
    obtain ⟨e, he, rfl⟩ := ht
    exact h e he
  · simp [Text.normalized, Function.comp_def]

theorem Projection.normalize_text_ne_nil {p : Projection}
    (h : ∀ e ∈ p, IsTrimmed e.text.toList ∧ e.text.toList ≠ []) (hne : p ≠ []) :
    Text.normalize p.text.toList ≠ [] := by
  obtain ⟨e, entries, rfl⟩ := List.exists_cons_of_ne_nil hne
  obtain ⟨htrimmed, hfirst⟩ := h e (by simp)
  obtain ⟨c, cs, htext⟩ := List.exists_cons_of_ne_nil hfirst
  have hc : Text.isBlank c = false := htrimmed.front c (by rw [htext]; rfl)
  have hmem : c ∈ e.text.toList := htext ▸ List.mem_cons_self
  rw [text, String.toList_intercalate]
  exact List.ne_nil_of_mem (Text.mem_normalize hc (Text.mem_intercalate hmem (by simp) _))

namespace Select

variable {α : Type}

/-! ## Replacements -/

/-- Whether a call drops an entry or puts another in its place. -/
def Call.overwrites (e : Entity α) (entry : Projection.Entry) : Call → Bool
  | .removeColumn column | .mapColumn column .. => e.hasColumn column && entry.isFor column
  | .mapFields m => !m.isEmpty
  | .top _ | .distinct | .fromTable _ | .fromDefaultTable | .fromView .. | .restrict _ | .orderBy ..
  | .byPropertyName => false

/-- A declared column that had an entry was replaced, and no later call overwrote the new entry. -/
def Replaced (e : Entity α) (b : Beginning) (calls : List Call) (expression : String) (alias? : Option String) :
    Prop :=
  ∃ before column after, calls = before ++ .mapColumn column expression alias? :: after ∧
    e.hasColumn column = true ∧ ((b.query e).run before).statement.projection.selects column = true ∧
    ∀ call ∈ after, call.overwrites e (.make expression alias?) = false

variable {e : Entity α} {b : Beginning} {calls : List Call} {expression : String} {alias? : Option String}

theorem replacement_notMem_originsOf (fields : List String) :
    Origin.replacement expression alias? ∉ originsOf fields := by
  simp [originsOf]

/-- What one call makes of a replacement. -/
theorem replacement_mem_call_iff {os : List Origin} {call : Call} :
    .replacement expression alias? ∈ call.origins e os ↔
      .replacement expression alias? ∈ os ∧ call.overwrites e (.make expression alias?) = false ∨
        ∃ column, call = .mapColumn column expression alias? ∧ e.hasColumn column = true ∧
          ∃ o ∈ os, o.isFor column = true := by
  cases call with
  | removeColumn column =>
    simp only [Call.origins, Call.overwrites]
    split
    · rename_i hcolumn
      simp [hcolumn, Origin.isFor, Origin.entry]
    · rename_i hcolumn
      simp [hcolumn]
  | mapColumn column new newAlias? =>
    simp only [Call.origins, Call.overwrites]
    split
    · rename_i hcolumn
      simp only [hcolumn, Bool.true_and, List.mem_map]
      constructor
      · rintro ⟨o, ho, heq⟩
        split at heq
        · rename_i hfor
          obtain ⟨rfl, rfl⟩ := Origin.replacement.inj heq
          exact .inr ⟨column, rfl, hcolumn, o, ho, hfor⟩
        · rename_i hfor
          subst heq
          exact .inl ⟨ho, Bool.eq_false_iff.2 hfor⟩
      · rintro (⟨ho, hfor⟩ | ⟨column', heq, -, o, ho, hfor⟩)
        · exact ⟨_, ho, if_neg (by simpa [Origin.isFor, Origin.entry] using hfor)⟩
        · obtain ⟨rfl, rfl, rfl⟩ := Call.mapColumn.inj heq
          exact ⟨o, ho, if_pos hfor⟩
    · rename_i hcolumn
      simp only [hcolumn, Bool.false_and, and_true]
      refine ⟨.inl, fun h => h.elim id ?_⟩
      rintro ⟨column', heq, hcolumn', -⟩
      obtain ⟨rfl, -, -⟩ := Call.mapColumn.inj heq
      exact absurd hcolumn' hcolumn
  | mapFields m =>
    simp only [Call.origins, Call.overwrites]
    split
    · rename_i hempty
      simp [hempty]
    · rename_i hempty
      simp [hempty, replacement_notMem_originsOf]
  | top _ | distinct | fromTable _ | fromDefaultTable | fromView _ _ _ | restrict _ | orderBy _ _
  | byPropertyName => simp [Call.origins, Call.overwrites]

/-- **What is left of the replacements.** -/
theorem replacement_mem_origins_iff :
    .replacement expression alias? ∈ origins e b calls ↔ Replaced e b calls expression alias? := by
  have hselects (calls : List Call) (column : String) :
      ((b.query e).run calls).statement.projection.selects column = true ↔
        ∃ o ∈ origins e b calls, o.isFor column = true := by
    rw [projection_query_run, Projection.selects, List.any_map, List.any_eq_true]
    rfl
  induction calls using List.reverseRecOn with
  | nil =>
    refine iff_of_false ?_ (by simp [Replaced])
    cases b <;> exact replacement_notMem_originsOf _
  | append_singleton calls call ih =>
    have hlast : origins e b (calls ++ [call]) = call.origins e (origins e b calls) := by
      rw [origins, List.foldl_append]
      rfl
    rw [hlast, replacement_mem_call_iff]
    constructor
    · rintro (⟨hmem, hkept⟩ | ⟨column, rfl, hcolumn, hfor⟩)
      · obtain ⟨before, column, after, rfl, hcolumn, hselected, hafter⟩ := ih.1 hmem
        refine ⟨before, column, after ++ [call], by simp, hcolumn, hselected, fun c hc => ?_⟩
        rcases List.mem_append.1 hc with hc | hc
        · exact hafter c hc
        · obtain rfl := List.mem_singleton.1 hc
          exact hkept
      · exact ⟨calls, column, [], rfl, hcolumn, (hselects calls column).2 hfor, by simp⟩
    · rintro ⟨before, column, after, heq, hcolumn, hselected, hafter⟩
      rcases List.eq_nil_or_concat after with rfl | ⟨after, last, rfl⟩
      · obtain ⟨rfl, hcall⟩ := List.append_inj' heq rfl
        exact .inr ⟨column, List.singleton_inj.1 hcall, hcolumn, (hselects calls column).1 hselected⟩
      · have heq' : calls ++ [call] = (before ++ .mapColumn column expression alias? :: after) ++ [last] := by
          simpa using heq
        obtain ⟨rfl, hcall⟩ := List.append_inj' heq' rfl
        obtain rfl := List.singleton_inj.1 hcall
        have hearlier : Replaced e b (before ++ .mapColumn column expression alias? :: after) expression alias? :=
          ⟨before, column, after, rfl, hcolumn, hselected, fun c hc => hafter c (by simp [hc])⟩
        exact .inl ⟨ih.2 hearlier, hafter call (by simp)⟩

theorem isMade_of_mem {entry : Projection.Entry} (h : entry ∈ ((b.query e).run calls).statement.projection) :
    entry.IsMade := by
  rw [projection_query_run] at h
  obtain ⟨o, -, rfl⟩ := List.mem_map.1 h
  cases o with
  | field text => exact Projection.Entry.isMade_read text
  | replacement expression alias? => exact Projection.Entry.isMade_make expression alias?

/-- No field that is blank is kept. -/
theorem field_mem_origins {text : String} (h : .field text ∈ origins e b calls) : isBlankText text = false := by
  have horiginsOf {fields : List String} (hmem : .field text ∈ originsOf fields) : isBlankText text = false := by
    obtain ⟨f, hf, heq⟩ := List.mem_map.1 hmem
    obtain rfl := Origin.field.inj heq
    simpa using (List.mem_filter.1 hf).2
  have hcall {os : List Origin} (call : Call) (hmem : .field text ∈ call.origins e os) :
      .field text ∈ os ∨ isBlankText text = false := by
    cases call with
    | removeColumn column =>
      simp only [Call.origins] at hmem
      split at hmem
      · exact .inl (List.mem_filter.1 hmem).1
      · exact .inl hmem
    | mapColumn column new newAlias? =>
      simp only [Call.origins] at hmem
      split at hmem
      · obtain ⟨o, ho, heq⟩ := List.mem_map.1 hmem
        split at heq
        · cases heq
        · exact .inl (heq ▸ ho)
      · exact .inl hmem
    | mapFields m =>
      simp only [Call.origins] at hmem
      split at hmem
      · exact .inl hmem
      · exact .inr (horiginsOf hmem)
    | top _ | distinct | fromTable _ | fromDefaultTable | fromView _ _ _ | restrict _ | orderBy _ _
    | byPropertyName => exact .inl hmem
  induction calls using List.reverseRecOn with
  | nil => cases b <;> exact horiginsOf h
  | append_singleton calls call ih =>
    rw [origins, List.foldl_append] at h
    exact (hcall call h).elim ih id

/-- **Which entries have nothing in their expression.** -/
theorem exists_blank_iff :
    (∃ entry ∈ ((b.query e).run calls).statement.projection, isBlankText entry.expression = true) ↔
      ∃ expression alias?, isBlankText expression = true ∧ Replaced e b calls expression alias? := by
  simp only [← replacement_mem_origins_iff]
  rw [projection_query_run]
  constructor
  · rintro ⟨entry, hentry, hblank⟩
    obtain ⟨o, ho, rfl⟩ := List.mem_map.1 hentry
    cases o with
    | field text =>
      rw [Origin.entry, Projection.Entry.expression_read (field_mem_origins ho)] at hblank
      cases hblank
    | replacement expression alias? =>
      exact ⟨expression, alias?, by rwa [Origin.entry, Projection.Entry.make, Text.isBlankText_trimmed] at hblank, ho⟩
  · rintro ⟨expression, alias?, hblank, ho⟩
    exact ⟨.make expression alias?, List.mem_map.2 ⟨_, ho, rfl⟩,
      by rwa [Projection.Entry.make, Text.isBlankText_trimmed]⟩

theorem expressions_nonBlank_iff :
    (∀ entry ∈ ((b.query e).run calls).statement.projection, isBlankText entry.expression = false) ↔
      ∀ expression alias?, isBlankText expression = true → ¬ Replaced e b calls expression alias? := by
  have hnone : (¬ ∃ entry ∈ ((b.query e).run calls).statement.projection, isBlankText entry.expression = true) ↔ _ :=
    not_congr exists_blank_iff
  simpa only [not_exists, not_and, Bool.not_eq_true] using hnone

/-! ## Tables -/

/-- The table that a call names for an entity's query. -/
def Call.table? (e : Entity α) : Call → Option String
  | .fromTable table | .fromView table .. => .some table
  | .fromDefaultTable => e.table?
  | .top _ | .distinct | .restrict _ | .orderBy .. | .removeColumn _ | .mapColumn .. | .mapFields _
  | .byPropertyName => .none

/-- The table that a query begins with. -/
def Beginning.table? (e : Entity α) : Beginning → Option String
  | .auto => e.table?
  | .columns _ | .fields .. => .none

/-- The tables that are named, in order. -/
def tables (e : Entity α) (b : Beginning) (calls : List Call) : List String :=
  (b.table? e).toList ++ calls.filterMap (Call.table? e)

/-- Whether the table of the source is blank, if there is a source. -/
def Query.tableIsBlank? (q : Query α) : Option Bool := q.statement.source?.map (isBlankText ·.table)

theorem tableIsBlank?_fromDefaultTable (q : Query α) :
    q.fromDefaultTable.tableIsBlank? = (q.entity.table?.map isBlankText).or q.tableIsBlank? := by
  rw [Query.fromDefaultTable]
  cases q.entity.table? with
  | none => rfl
  | some table => rfl

theorem tableIsBlank?_after (q : Query α) (call : Call) :
    (q.after call).tableIsBlank? = ((call.table? q.entity).map isBlankText).or q.tableIsBlank? := by
  have hother (hkind : call.kind ≠ .source) : (q.after call).tableIsBlank? = q.tableIsBlank? := by
    rw [Query.tableIsBlank?, Part.source.inj (q.part_after_of_ne hkind), Query.tableIsBlank?]
  cases call with
  | fromTable table => exact congrArg Option.some (Text.isBlankText_trimmed table)
  | fromView table alias? joins => exact congrArg Option.some (Text.isBlankText_trimmed table)
  | fromDefaultTable => exact tableIsBlank?_fromDefaultTable q
  | top _ | distinct | restrict _ | orderBy _ _ | removeColumn _ | mapColumn _ _ _ | mapFields _
  | byPropertyName => exact hother (by simp [Call.kind])

/-- **The source is the table that was named last.** -/
theorem tableIsBlank?_run :
    ((b.query e).run calls).tableIsBlank? = (tables e b calls).getLast?.map isBlankText := by
  induction calls using List.reverseRecOn with
  | nil =>
    cases b with
    | columns distinct => rfl
    | fields names distinct =>
      simp only [Beginning.query, Query.ofFields]
      split <;> rfl
    | auto =>
      have hbegin (q : Query α) (hentity : q.entity = e) (hnone : q.tableIsBlank? = .none) :
          q.fromDefaultTable.tableIsBlank? = e.table?.map isBlankText := by
        rw [tableIsBlank?_fromDefaultTable, hentity, hnone, Option.or_none]
      have hlast : (tables e .auto []).getLast? = e.table? := by
        rw [tables, Beginning.table?]
        cases e.table? <;> rfl
      rw [hlast]
      simp only [Beginning.query, Query.auto]
      split
      · exact hbegin _ rfl rfl
      · exact hbegin _ rfl rfl
  | append_singleton calls call ih =>
    have htables : tables e b (calls ++ [call]) = tables e b calls ++ (call.table? e).toList := by
      rw [tables, List.filterMap_append, ← List.append_assoc, ← tables]
      cases h : call.table? e <;> simp [h]
    have hentity : ((b.query e).run calls).entity = e := by
      rw [Query.entity_run, (projection_query e b).2]
    have hrun : (b.query e).run (calls ++ [call]) = ((b.query e).run calls).after call := by
      rw [Query.run, List.foldl_append]
      rfl
    rw [hrun, tableIsBlank?_after, hentity, htables, List.getLast?_append, ih]
    cases call.table? e <;> rfl

theorem table_nonBlank_iff {source : Source} (hsource : ((b.query e).run calls).statement.source? = .some source) :
    isBlankText source.table = false ↔ ∀ table ∈ (tables e b calls).getLast?, isBlankText table = false := by
  have htable : .some (isBlankText source.table) = (tables e b calls).getLast?.map isBlankText := by
    rw [← tableIsBlank?_run, Query.tableIsBlank?, hsource]
    rfl
  cases hlast : (tables e b calls).getLast? with
  | none => simp [hlast] at htable
  | some table =>
    rw [hlast, Option.map_some, Option.some.injEq] at htable
    simp [htable]

/-! ## Statements -/

/-- A statement in which nothing is missing. -/
structure Statement.IsComplete (st : Statement) : Prop where
  selects : st.projection ≠ []
  fields : ∀ entry ∈ st.projection, isBlankText entry.expression = false
  source : ∃ source, st.source? = .some source ∧ isBlankText source.table = false

namespace Statement

/-- The words in front of the fields. -/
def opening (st : Statement) (d : Dialect) : List String :=
  ["SELECT"] ++ (if st.distinct then ["DISTINCT"] else []) ++ (st.topText? d).toList

/-- Every part of the opening is one word. -/
theorem isWord_opening (st : Statement) (d : Dialect) : ∀ t ∈ st.opening d, Text.IsWord t.toList := by
  have hseen {w : String} (hw : w.toList.all (!Text.isBlank ·) = true) : ∀ c ∈ w.toList, Text.isBlank c = false := by
    simpa using hw
  intro t ht
  rw [opening, List.mem_append, List.mem_append] at ht
  rcases ht with (ht | ht) | ht
  · obtain rfl := List.mem_singleton.1 ht
    exact ⟨by decide, hseen (by decide)⟩
  · split at ht
    · obtain rfl := List.mem_singleton.1 ht
      exact ⟨by decide, hseen (by decide)⟩
    · simp at ht
  · cases d with
    | postgres => simp [topText?] at ht
    | named =>
      obtain ⟨n, -, rfl⟩ := Option.map_eq_some_iff.1 (Option.mem_toList.1 ht)
      refine ⟨by simp, fun c hc => ?_⟩
      simp only [String.toList_append, List.mem_append] at hc
      rcases hc with (hc | hc) | hc
      · exact hseen (by decide) c hc
      · exact Markers.isBlank_of_isNameChar (isName_natText n c hc)
      · exact hseen (by decide) c hc

theorem normalized_opening (st : Statement) (d : Dialect) :
    ∀ t ∈ st.opening d, Text.normalize t.toList = t.toList ∧ t.toList ≠ [] := by
  intro t ht
  have hword := st.isWord_opening d t ht
  exact ⟨by rw [Text.normalize, Text.words_of_isWord hword, List.intercalate_singleton], hword.1⟩

/-- The words of a source: its table follows `FROM`. -/
theorem exists_words_source (source : Source) :
    ∃ rest, Text.words source.text.toList = Text.words "FROM".toList ++ (Text.words source.table.toList ++ rest) := by
  have hblank : Text.isBlank ' ' = true := by decide
  have hspace : " ".toList = [' '] := rfl
  have hfrom (t : List Char) : Text.words ("FROM ".toList ++ t) = Text.words "FROM".toList ++ Text.words t :=
    Text.words_append_blank hblank "FROM".toList t
  obtain ⟨behind, hbehind⟩ : ∃ behind, Text.words (aliased source.table source.alias?).toList =
      Text.words source.table.toList ++ behind := by
    cases source.alias? with
    | none => exact ⟨[], (List.append_nil _).symm⟩
    | some a =>
      have halias : (aliased source.table (.some a)).toList = source.table.toList ++ ' ' :: ("AS " ++ a).toList := by
        simp [aliased]
      exact ⟨_, by rw [halias, Text.words_append_blank hblank]⟩
  rw [Source.text, Text.words_intercalate_tokens, List.flatMap_cons, String.toList_append, hfrom, hbehind,
    List.append_assoc, List.append_assoc]
  exact ⟨_, rfl⟩

/-- The words of a statement: its opening, its entries and its table, and what stands behind them. -/
theorem exists_words_parts {st : Statement} {source : Source} (hsource : st.source? = .some source) (d : Dialect) :
    ∃ behind, (∀ w ∈ behind, Text.IsWord w) ∧
      Text.words (" ".intercalate (st.parts d)).toList =
        ((st.opening d).map String.toList ++ [st.projection.text.toList, "FROM".toList, source.table.toList] ++
          behind).flatMap Text.words := by
  have hspace : " ".toList = [' '] := rfl
  obtain ⟨rest, hrest⟩ := exists_words_source source
  let others := [st.predicateText] ++ (st.order?.map Order.text).toList ++ (st.limitText? d).toList
  have hwords : ∀ w ∈ rest ++ others.flatMap (Text.words ·.toList), Text.IsWord w := by
    intro w hw
    rcases List.mem_append.1 hw with hw | hw
    · exact Text.isWord_of_mem_words (hrest ▸ List.mem_append_right _ (List.mem_append_right _ hw))
    · obtain ⟨t, -, hw⟩ := List.mem_flatMap.1 hw
      exact Text.isWord_of_mem_words hw
  refine ⟨_, hwords, ?_⟩
  rw [String.toList_intercalate, hspace, Text.words_intercalate_texts, List.flatMap_append,
    List.flatMap_congr fun w hw => Text.words_of_isWord (hwords w hw), List.flatMap_singleton']
  simp [parts, opening, hsource, hrest, others, List.flatMap_map]

theorem IsComplete.text_ne_nil {st : Statement} (h : st.IsComplete)
    (hmade : ∀ entry ∈ st.projection, entry.IsMade) :
    ∀ entry ∈ st.projection, IsTrimmed entry.text.toList ∧ entry.text.toList ≠ [] :=
  fun entry hentry => (hmade entry hentry).text (h.fields entry hentry)

/-- Every part of a complete statement can be seen, up to its table. -/
theorem IsComplete.normalize_ne_nil {st : Statement} (h : st.IsComplete)
    (hmade : ∀ entry ∈ st.projection, entry.IsMade) {source : Source} (hsource : st.source? = .some source)
    (d : Dialect) :
    ∀ t ∈ (st.opening d).map String.toList ++ [st.projection.text.toList, "FROM".toList, source.table.toList],
      Text.normalize t ≠ [] := by
  intro t ht
  simp only [List.mem_append, List.mem_map, List.mem_cons, List.not_mem_nil, or_false] at ht
  rcases ht with ⟨t, ht, rfl⟩ | rfl | rfl | rfl
  · obtain ⟨hkept, hne⟩ := st.normalized_opening d t ht
    rwa [hkept]
  · exact Projection.normalize_text_ne_nil (h.text_ne_nil hmade) h.selects
  · decide
  · obtain ⟨_, hother, htable⟩ := h.source
    obtain rfl := Option.some.inj (hsource.symm.trans hother)
    rwa [Ne, Text.normalize_eq_nil_iff_words, ← Ne, ← Text.isBlankText_eq_false_iff]

/-- **The text of a complete statement.** -/
theorem IsComplete.text {st : Statement} (h : st.IsComplete) (hmade : ∀ entry ∈ st.projection, entry.IsMade)
    (d : Dialect) :
    ∃ table rest, st.text d = " ".intercalate
        (st.opening d ++
          [", ".intercalate (st.projection.map fun entry => Text.normalized entry.text), "FROM", table] ++ rest) ∧
      (∀ entry ∈ st.projection, Text.normalized entry.text ≠ "") ∧
      st.source?.map (Text.normalized ·.table) = .some table ∧ table ≠ "" := by
  obtain ⟨source, hsource, -⟩ := h.source
  obtain ⟨behind, hbehind, hwords⟩ := exists_words_parts hsource d
  have hentries := h.text_ne_nil hmade
  have hparts := h.normalize_ne_nil hmade hsource d
  have hnonempty {t : String} (ht : Text.normalize t.toList ≠ []) : Text.normalized t ≠ "" := fun heq =>
    ht (by simpa [Text.normalized] using congrArg String.toList heq)
  have hself {w : List Char} (hw : w ∈ behind) : Text.normalize w = w := by
    rw [Text.normalize, Text.words_of_isWord (hbehind w hw), List.intercalate_singleton]
  have hseen : ∀ t ∈ (st.opening d).map String.toList ++
      [st.projection.text.toList, "FROM".toList, source.table.toList] ++ behind, Text.normalize t ≠ [] := by
    intro t ht
    rcases List.mem_append.1 ht with ht | ht
    · exact hparts t ht
    · rw [hself ht]
      exact (hbehind t ht).1
  refine ⟨Text.normalized source.table, behind.map String.ofList, ?_, fun entry hentry => hnonempty ?_, ?_,
    hnonempty (hparts _ (by simp))⟩
  · have hopening : (st.opening d).map (Text.normalize ∘ String.toList) = (st.opening d).map String.toList :=
      List.map_congr_left fun t ht => (st.normalized_opening d t ht).1
    have hrest : behind.map Text.normalize = behind := (List.map_congr_left fun w hw => hself hw).trans (List.map_id _)
    have hfrom : Text.normalize "FROM".toList = "FROM".toList := by decide
    rw [← Projection.normalized_text hentries, ← String.toList_inj, Statement.text, Text.normalized,
      String.toList_ofList, Text.normalize_eq_intercalate hwords hseen, String.toList_intercalate]
    simp only [List.map_append, List.map_map, hopening, hrest, List.map_cons, List.map_nil, hfrom, Text.normalized,
      String.toList_ofList]
    simp [Function.comp_def]
  · obtain ⟨htrimmed, hne⟩ := hentries entry hentry
    exact Text.normalize_ne_nil htrimmed hne
  · rw [hsource]
    rfl

end Statement

/-- A query that is made has an entry and a source. -/
theorem parts_of_prepare {q : Query α} {d : Dialect} {p : Prepared α} (h : q.prepare d = .ok p) :
    q.statement.projection ≠ [] ∧ ∃ source, q.statement.source? = .some source := by
  have hnone : q.incomplete? = .none := by
    rw [Query.prepare] at h
    split at h
    · cases h
    · assumption
  rw [Query.incomplete?, Option.orElse_eq_orElse, Option.orElse_eq_or, Option.or_eq_none_iff] at hnone
  obtain ⟨-, hparts⟩ := hnone
  split at hparts
  · cases hparts
  · rename_i hprojection
    split at hparts
    · cases hparts
    · rename_i hsource
      exact ⟨by simpa using hprojection, Option.ne_none_iff_exists'.1 (by simpa using hsource)⟩

/-- **When a statement that is made is complete.** It has an entry and a source, and nothing is missing
in it exactly if no declared column is left replaced by a blank expression, and the table that was named
last is not blank. Then its text for either dialect is its opening, its entries with commas between
them, the table behind `FROM`, and further words, with single spaces between; no entry and no table is
blank. -/
theorem isComplete_iff {d : Dialect} {p : Prepared α} (h : ((b.query e).run calls).prepare d = .ok p) :
    let st := ((b.query e).run calls).statement
    (st.projection ≠ [] ∧ ∃ source, st.source? = .some source) ∧
      (st.IsComplete ↔
        (∀ expression alias?, isBlankText expression = true → ¬ Replaced e b calls expression alias?) ∧
          ∀ table ∈ (tables e b calls).getLast?, isBlankText table = false) ∧
      (st.IsComplete → ∀ d : Dialect, ∃ table rest, st.text d = " ".intercalate
          (st.opening d ++
            [", ".intercalate (st.projection.map fun entry => Text.normalized entry.text), "FROM", table] ++ rest) ∧
        (∀ entry ∈ st.projection, Text.normalized entry.text ≠ "") ∧
        st.source?.map (Text.normalized ·.table) = .some table ∧ table ≠ "") := by
  intro st
  obtain ⟨hprojection, source, hsource⟩ := parts_of_prepare h
  refine ⟨⟨hprojection, source, hsource⟩, ?_, fun hcomplete => hcomplete.text fun _ => isMade_of_mem⟩
  rw [← expressions_nonBlank_iff, ← table_nonBlank_iff hsource]
  constructor
  · rintro ⟨-, hentries, other, hother, hblank⟩
    obtain rfl := Option.some.inj (hsource.symm.trans hother)
    exact ⟨hentries, hblank⟩
  · rintro ⟨hentries, hblank⟩
    exact ⟨hprojection, hentries, source, hsource, hblank⟩

/-- Calls that leave nothing out in the end: a blank expression and a blank table are overwritten. -/
def overwriting : List Call :=
  [.mapColumn "ProductId" " " .none, .fromTable "\t", .mapFields [("id", "p.Id"), ("name", "p.Name AS  Label")],
    .fromView "products" (.some "p") []]

theorem isComplete_overwriting :
    ∃ p, ((Beginning.auto.query product).run overwriting).prepare .named = .ok p ∧
      ((Beginning.auto.query product).run overwriting).statement.IsComplete ∧
      p.sql = "SELECT p.Id, p.Name AS Label FROM products AS p" := by
  obtain ⟨p, hp⟩ : ∃ p, ((Beginning.auto.query product).run overwriting).prepare .named = .ok p := ⟨_, rfl⟩
  have horigins : origins product .auto overwriting = [.field "p.Id", .field "p.Name AS  Label"] := by decide +kernel
  have hlast : (tables product .auto overwriting).getLast? = .some "products" := by decide +kernel
  have hcomplete := (isComplete_iff hp).2.1.2 ⟨fun expression alias? _ hreplaced => by
    have hmem := replacement_mem_origins_iff.2 hreplaced
    simp [horigins] at hmem, fun table htable => by
    obtain rfl := Option.some.inj (hlast.symm.trans htable)
    decide⟩
  refine ⟨p, hp, hcomplete, ?_⟩
  obtain rfl := Except.ok.inj hp
  decide +kernel

/-- A statement without a table, and one with an empty entry. -/
theorem parts_missing :
    (∃ p, ((Beginning.auto.query product).run [.fromTable "  "]).prepare .named = .ok p ∧
      p.sql = "SELECT Id, ProductId, p.Name FROM" ∧
      ¬ ((Beginning.auto.query product).run [.fromTable "  "]).statement.IsComplete) ∧
    ∃ p, ((Beginning.auto.query product).run [.mapColumn "ProductId" "  " .none]).prepare .named = .ok p ∧
      p.sql = "SELECT Id, , p.Name FROM products" ∧
      ¬ ((Beginning.auto.query product).run [.mapColumn "ProductId" "  " .none]).statement.IsComplete := by
  refine ⟨⟨_, rfl, ?_, fun h => ?_⟩, ⟨_, rfl, ?_, fun h => ?_⟩⟩
  · decide +kernel
  · obtain ⟨source, hsource, hblank⟩ := h.source
    obtain rfl := Option.some.inj hsource
    revert hblank
    decide +kernel
  · decide +kernel
  · have hentry : Projection.Entry.make "  " .none ∈
        ((Beginning.auto.query product).run [.mapColumn "ProductId" "  " .none]).statement.projection := by
      decide +kernel
    have hblank := h.fields _ hentry
    revert hblank
    decide +kernel

end Select

end ParamQuery
