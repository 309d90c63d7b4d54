/-
What PostgreSQL is sent, for every statement that can be made of closed
texts and whose names are apart: the text with its markers numbered in
order, and all values in the order of their allocation
(`bound_postgres_eq`).
-/
import ParamQuery.Proofs.Construction.Basic
import ParamQuery.Proofs.Select.Text
import ParamQuery.Proofs.Statement.Binding
import ParamQuery.Proofs.Write.Text

namespace ParamQuery

open Markers (IsClosed IsName Reads)

/-! ## Names -/

theorem isName_append {a b : String} (ha : IsName a) (hb : IsName b) : IsName (a ++ b) := by
  intro c hc
  rw [String.toList_append, List.mem_append] at hc
  exact hc.elim (ha c) (hb c)

theorem isName_natText (n : Nat) : IsName (Number.natText n) := by
  intro c hc
  rw [Number.natText, String.toList_ofList] at hc
  simp [Text.isNameChar, Char.isAlphanum, Number.isDigit_of_mem_digits hc]

theorem isName_stemOf (column : String) : IsName (stemOf column) := by
  simp only [stemOf]
  split
  · intro c hc
    obtain rfl : c = 'p' := by simpa using hc
    decide
  · intro c hc
    rw [String.toList_ofList] at hc
    exact (List.mem_filter.1 hc).2

/-- Slots whose stems can be carried by markers. -/
def Slots.HasNames (s : Slots) : Prop := ∀ slot ∈ s, IsName slot.1

theorem Slots.HasNames.append {s t : Slots} (hs : s.HasNames) (ht : t.HasNames) : (s ++ t).HasNames :=
  fun slot h => (List.mem_append.1 h).elim (hs slot) (ht slot)

theorem Slots.HasNames.number {s : Slots} (h : s.HasNames) (n : Nat) :
    ∀ name ∈ (Slots.number n s).names, IsName name := by
  induction s generalizing n with
  | nil => simp [Slots.number, Params.names]
  | cons slot s ih =>
    intro name hname
    rcases List.mem_cons.1 hname with rfl | hname
    · exact isName_append (h slot (by simp)) (isName_natText n)
    · exact ih (fun t ht => h t (by simp [ht])) (n + 1) name hname

theorem Filter.Condition.hasNames_slots (column : String) (condition : Condition) :
    (condition.slots column).HasNames := by
  have hstem := isName_stemOf column
  intro slot hslot
  cases condition with
  | between min max =>
    simp only [slots, List.mem_cons, List.not_mem_nil, or_false] at hslot
    rcases hslot with rfl | rfl
    · intro c hc
      obtain rfl | rfl | rfl : c = 'M' ∨ c = 'i' ∨ c = 'n' := by simpa using hc
      · decide
      · decide
      · decide
    · intro c hc
      obtain rfl | rfl | rfl : c = 'M' ∨ c = 'a' ∨ c = 'x' := by simpa using hc
      · decide
      · decide
      · decide
  | member vs negated =>
    obtain ⟨v, -, rfl⟩ := List.mem_map.1 hslot
    exact hstem
  | compare op v | like v =>
    obtain rfl := List.mem_singleton.1 hslot
    exact hstem
  | is word | not word | isNull | notNull => simp [slots] at hslot

theorem Filter.hasNames_slotsOf (es : List Element) : (slotsOf es).HasNames := by
  intro slot hslot
  obtain ⟨t, -, ht⟩ := List.mem_flatMap.1 hslot
  exact t.2.hasNames_slots t.1 slot ht

theorem hasNames_slotsOfFields (fields : Fields) : (slotsOfFields fields).HasNames := by
  intro slot hslot
  obtain ⟨f, -, rfl⟩ := List.mem_map.1 hslot
  dsimp only
  exact isName_stemOf _

theorem Making.hasNames_slots (making : Making) : making.slots.HasNames := by
  cases making with
  | insert table fields => exact hasNames_slotsOfFields fields
  | update table sets script =>
    exact (hasNames_slotsOfFields _).append (Filter.hasNames_slotsOf _)
  | delete table script => exact Filter.hasNames_slotsOf _

theorem Select.hasNames_slotsOfCalls (calls : List Call) : (slotsOfCalls calls).HasNames := by
  intro slot hslot
  obtain ⟨script, -, hs⟩ := List.mem_flatMap.1 hslot
  exact Filter.hasNames_slotsOf _ slot hs

/-! ## Writes -/

namespace Making

/-- The texts that a write is given. -/
def fragments : Making → List String
  | .insert table fields => table :: fields.map (·.1)
  | .update table sets script =>
    table :: (written sets).map (·.1) ++ (Filter.testsOf (Filter.outline script)).map (·.1)
  | .delete table script => table :: (Filter.testsOf (Filter.outline script)).map (·.1)

theorem names_statement (making : Making) : making.statement.names = (Slots.number 0 making.slots).names := by
  cases making with
  | insert table fields =>
    simp [statement, Write.Statement.names, Write.Statement.assignments, Write.Statement.predicates,
      names_assign, slots, Params.next]
  | update table sets script =>
    have hlength : (slotsOfFields (written sets)).length = (written sets).length := by
      simp [slotsOfFields]
    simp [statement, Write.Statement.names, Write.Statement.assignments, Write.Statement.predicates,
      names_assign, slots, Params.next, Filter.namesOf_predicatesOf, Slots.names_number_append, hlength]
  | delete table script =>
    simp [statement, Write.Statement.names, Write.Statement.assignments, Write.Statement.predicates,
      slots, Filter.namesOf_predicatesOf]

theorem isClosed_columns_assign {fields : Fields} (h : ∀ t ∈ fields.map (·.1), IsClosed t.toList) :
    ∀ column ∈ (Write.assign [] fields).1.map (·.column), IsClosed column.toList := by
  intro column hcolumn
  rw [columns_assign] at hcolumn
  obtain ⟨f, hf, rfl⟩ := List.mem_map.1 hcolumn
  exact Markers.isClosed_trimmed.2 (h f.1 (List.mem_map_of_mem hf))

/-- A write that is given closed texts has no others in its statement. -/
theorem isClosed_fragments {making : Making} (h : ∀ t ∈ making.fragments, IsClosed t.toList) :
    ∀ t ∈ making.statement.fragments, IsClosed t.toList := by
  intro t ht
  cases making with
  | insert table fields =>
    rcases List.mem_cons.1 ht with rfl | ht
    · exact Markers.isClosed_trimmed.2 (h table (by simp [fragments]))
    · exact isClosed_columns_assign (fun t ht => h t (List.mem_cons_of_mem _ ht)) t ht
  | update table sets script =>
    rcases List.mem_append.1 ht with ht | ht
    · rcases List.mem_cons.1 ht with rfl | ht
      · exact Markers.isClosed_trimmed.2 (h table (by simp [fragments]))
      · exact isClosed_columns_assign
          (fun t ht => h t (List.mem_append_left _ (List.mem_cons_of_mem _ ht))) t ht
    · rw [Filter.columnsOf_predicatesOf] at ht
      exact h t (List.mem_append_right _ ht)
  | delete table script =>
    rcases List.mem_cons.1 ht with rfl | ht
    · exact Markers.isClosed_trimmed.2 (h table (by simp [fragments]))
    · rw [Filter.columnsOf_predicatesOf] at ht
      exact h t (List.mem_cons_of_mem _ ht)

end Making

/-! ## Statements -/

namespace Construction

/-- The texts that a statement is made of: those that were given, and those that were declared. -/
def fragments : Construction → List String
  | .select e b calls => b.fragments e ++ calls.flatMap (Select.Call.fragments e)
  | .write making keys _ => making.fragments ++ keys

/-- The text of a statement has one marker for each parameter, in the order of their allocation. -/
theorem reads_text {c : Construction} {s : Assembled} (h : c.assemble = .ok s)
    (hclosed : ∀ t ∈ c.fragments, IsClosed t.toList) (d : Dialect) :
    Reads s.params.names (s.text d).toList := by
  cases c with
  | select e b calls =>
    have hparams := params_eq h
    obtain rfl := assemble_select h
    obtain ⟨hbegin, hentity⟩ := Select.closedTexts_query (e := e) (b := b) fun t ht =>
      hclosed t (List.mem_append_left _ ht)
    have hcalls : ∀ call ∈ calls, ∀ t ∈ call.fragments (b.query e).entity, IsClosed t.toList := by
      rw [hentity]
      exact fun call hcall t ht =>
        hclosed t (List.mem_append_right _ (List.mem_flatMap.2 ⟨call, hcall, ht⟩))
    have hmarkers : Filter.namesOf (query e b calls).statement.predicates = (query e b calls).params.names :=
      ((Select.isSound_query e b).run calls).names
    have hnames : ∀ n ∈ (query e b calls).params.names, IsName n := by
      rw [show (query e b calls).params = _ from hparams]
      exact (Select.hasNames_slotsOfCalls calls).number 0
    have hread := (hbegin.run hcalls).reads_text (by rwa [← hmarkers] at hnames) d
    rwa [show Filter.namesOf ((b.query e).run calls).statement.predicates = _ from hmarkers] at hread
  | write making keys scalar =>
    obtain ⟨hparams, key?, hkey, htext⟩ := assemble_write h
    have hkey' : ∀ key ∈ key?, IsClosed key.toList := by
      intro key hmem
      rcases hkey key hmem with rfl | ⟨k, hk, rfl⟩
      · decide
      · exact Markers.isClosed_trimmed.2 (hclosed k (List.mem_append_right _ hk))
    have hfragments : ∀ t ∈ making.statement.fragments, IsClosed t.toList :=
      Making.isClosed_fragments fun t ht => hclosed t (List.mem_append_left _ ht)
    have hnames : ∀ n ∈ making.statement.names, IsName n := by
      rw [making.names_statement]
      exact making.hasNames_slots.number 0
    rw [hparams, htext, ← making.names_statement]
    exact Write.Statement.reads_text hfragments hkey' hnames d

/-- **What PostgreSQL is sent.** If a statement is made of closed texts and its names are apart, its
text is cut into characters and one marker for each parameter, in the order of their allocation.
Binding succeeds; it writes the same characters with the markers numbered from one on, and sends
every value in that order, just as they are sent with named markers. -/
theorem bound_postgres_eq {c : Construction} {s : Assembled} (h : c.assemble = .ok s)
    (hnames : s.params.names.Nodup) (hclosed : ∀ t ∈ c.fragments, IsClosed t.toList) :
    let pieces := Markers.pieces false (s.text .postgres).toList
    pieces.flatMap Markers.Piece.text = (s.text .postgres).toList ∧
      Markers.names pieces = s.params.names ∧
      c.bound .postgres = .ok ⟨.ofList (Markers.renumbered 1 pieces), s.params.values⟩ ∧
      c.bound .named = .ok ⟨s.text .named, s.params.values⟩ := by
  intro pieces
  have hmarkers : Markers.namesIn false (s.text .postgres).toList = s.params.names := by
    simpa using reads_text h hclosed .postgres [] (by decide)
  refine ⟨Markers.flatMap_text_pieces _ _, hmarkers, ?_, ?_⟩
  · rw [bound_eq, h]
    exact bindNumbered_eq hnames hmarkers
  · rw [bound_eq, h]
    rfl

/-- A query with two filters, and a field in which a quoted text looks like a marker. -/
def quoting : Construction :=
  .select ⟨"T", .none, [], ()⟩ (.fields ["'x@y' AS M"] false)
    [.fromTable "t", .restrict [.test .none "a" (.compare .greater (.text "1")), .test .or "a" .isNull],
      .restrict [.test .none "b" (.between (.text "2") (.text "3"))]]

theorem quoting_bound :
    ∃ s, quoting.assemble = .ok s ∧ s.params.names.Nodup ∧
      (∀ t ∈ quoting.fragments, IsClosed t.toList) ∧
      s.text .postgres =
        "SELECT 'x@y' AS M FROM t WHERE ( a > @a0 OR a IS NULL ) AND b BETWEEN @Min1 AND @Max2" ∧
      quoting.bound .postgres =
        .ok ⟨"SELECT 'x@y' AS M FROM t WHERE ( a > $1 OR a IS NULL ) AND b BETWEEN $2 AND $3",
          [.text "1", .text "2", .text "3"]⟩ := by
  obtain ⟨s, hs⟩ : ∃ s, quoting.assemble = .ok s := ⟨_, rfl⟩
  have hnames : s.params.names.Nodup := by
    rw [params_eq hs]
    decide +kernel
  have hclosed : ∀ t ∈ quoting.fragments, IsClosed t.toList := by decide +kernel
  have htext : s.text .postgres =
      "SELECT 'x@y' AS M FROM t WHERE ( a > @a0 OR a IS NULL ) AND b BETWEEN @Min1 AND @Max2" := by
    rw [assemble_select hs]
    decide +kernel
  have hbound := (bound_postgres_eq hs hnames hclosed).2.2.1
  refine ⟨s, hs, hnames, hclosed, htext, ?_⟩
  rw [hbound, params_eq hs, htext]
  congr 2
  decide +kernel

end Construction

end ParamQuery
