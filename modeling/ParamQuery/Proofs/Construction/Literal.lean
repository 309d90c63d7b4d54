/-
What becomes of the literals in the texts that a statement is made of.

Normalising is the last step, and it does not look at quotes: every literal
is normalised by itself, and so is the rest as if nothing were in the
literals. So a statement keeps the literals that it is given exactly if
these are normalised, and no field is read out of the middle of one
(`literals_text_iff`).
-/
import ParamQuery.Proofs.Construction.Clause
import ParamQuery.Proofs.Select.Literal

namespace ParamQuery

open Markers (IsName spaced)
open Text (HasLiterals IsPaired literalsOf)

/-! ## Writes -/

namespace Write

/-- The tokens of a clause. -/
def clauseTokens (ps : List Filter.Predicate) : List String :=
  if ps.isEmpty then ["WHERE 1=0"] else Filter.Predicate.tokensOfList ps

theorem words_clause (ps : List Filter.Predicate) :
    Text.words (clause ps).toList = (clauseTokens ps).flatMap fun t => Text.words t.toList := by
  unfold clause clauseTokens
  split
  · simp
  · exact Filter.words_render_tokens ps

theorem hasLiterals_clauseTokens {ps : List Filter.Predicate}
    (h : ∀ column ∈ Filter.columnsOf ps, IsPaired column.toList) (hnames : ∀ n ∈ Filter.namesOf ps, IsName n) :
    HasLiterals (literalsOf (Filter.columnsOf ps)) (spaced (clauseTokens ps)) := by
  unfold clauseTokens
  split
  · rename_i hnil
    rw [List.isEmpty_iff.1 hnil]
    exact Text.hasLiterals_of_notMem (by decide)
  · exact Filter.hasLiterals_tokensOfList ps fun leaf hl =>
      ⟨h leaf.1 (List.mem_map_of_mem hl), fun n hn => hnames n (List.mem_flatMap.2 ⟨leaf, hl, hn⟩)⟩

namespace Statement

/-- The parts of a statement in front of its clause, if it has one. -/
def head (d : Dialect) (key? : Option String) : Statement → List String
  | .insert table columns =>
    match key?, d with
    | .none, _ => [insertHead table columns, insertValues columns]
    | .some key, .named => [insertHead table columns, "OUTPUT Inserted." ++ key, insertValues columns]
    | .some key, .postgres => [insertHead table columns, insertValues columns, "RETURNING " ++ key]
  | .update table sets _ => ["UPDATE " ++ table, "SET " ++ ", ".intercalate (sets.map Assignment.text)]
  | .delete table _ => ["DELETE FROM " ++ table]

/-- The predicates of the clause, if there is one. -/
def clause? : Statement → Option (List Filter.Predicate)
  | .insert .. => .none
  | .update _ _ ps | .delete _ ps => .some ps

/-- The tokens of a statement: its parts, and of a clause each token. -/
def tokens (st : Statement) (d : Dialect) (key? : Option String) : List String :=
  st.head d key? ++ st.clause?.elim [] clauseTokens

/-- The text of a statement as it is put together, before blanks are normalised. -/
def plain (st : Statement) (d : Dialect) (key? : Option String) : String := " ".intercalate (st.tokens d key?)

/-- The texts in a statement that may give back a column, in the order in which they stand there. -/
def placed (key? : Option String) (st : Statement) : List String :=
  st.fragments ++ if st.isInsert then key?.toList else []

theorem rawText_eq (st : Statement) (d : Dialect) (key? : Option String) :
    st.rawText d key? = " ".intercalate (st.head d key? ++ (st.clause?.map clause).toList) := by
  rw [← String.toList_inj]
  cases st with
  | insert table columns =>
    cases key? with
    | none => simp [rawText, insertText, head, clause?]
    | some key => cases d <;> simp [rawText, insertText, head, clause?]
  | update table sets ps => simp [rawText, head, clause?]
  | delete table ps => simp [rawText, head, clause?]

theorem text_eq_normalized_plain (st : Statement) (d : Dialect) (key? : Option String) :
    st.text d key? = Text.normalized (st.plain d key?) := by
  refine Text.normalized_eq_of_words ?_
  rw [rawText_eq, plain, Text.words_intercalate_tokens, Text.words_intercalate_tokens, tokens, List.flatMap_append,
    List.flatMap_append]
  cases st.clause? with
  | none => rfl
  | some ps => simp [words_clause]

end Statement

theorem hasLiterals_insertHead {table : String} {columns : List Assignment}
    (h : ∀ t ∈ table :: columns.map (·.column), IsPaired t.toList) :
    HasLiterals (literalsOf (table :: columns.map (·.column))) (Statement.insertHead table columns).toList := by
  have htable := (h table (by simp)).hasLiterals
  have hcolumns := Text.hasLiterals_commas columns (·.column) fun a ha =>
    (h a.column (List.mem_cons_of_mem _ (List.mem_map_of_mem ha))).hasLiterals
  have := ((((Text.hasLiterals_word (w := "INSERT INTO ") (by decide)).append htable).append
    (Text.hasLiterals_word (w := " (") (by decide))).append hcolumns).append
    (Text.hasLiterals_word (w := ")") (by decide))
  simpa [Statement.insertHead, literalsOf, List.flatMap_map] using this

theorem hasLiterals_insertValues {columns : List Assignment} (hnames : ∀ a ∈ columns, IsName a.name) :
    HasLiterals [] (Statement.insertValues columns).toList := by
  have hmarkers := Text.hasLiterals_commas columns (fun a => marker a.name) fun a ha =>
    Filter.hasLiterals_marker (hnames a ha)
  rw [List.flatMap_eq_nil_iff.2 fun _ _ => rfl] at hmarkers
  rw [Statement.insertValues, String.toList_append, String.toList_append]
  exact ((Text.hasLiterals_word (by decide)).append hmarkers).append (Text.hasLiterals_word (by decide))

theorem hasLiterals_sets {sets : List Assignment} (h : ∀ t ∈ sets.map (·.column), IsPaired t.toList)
    (hnames : ∀ a ∈ sets, IsName a.name) :
    HasLiterals (literalsOf (sets.map (·.column))) (", ".intercalate (sets.map Assignment.text)).toList := by
  have hone : ∀ a ∈ sets, HasLiterals (Text.literals a.column.toList) a.text.toList := fun a ha => by
    have hequals : HasLiterals [] " = ".toList := Text.hasLiterals_of_notMem (by decide)
    have := ((h a.column (List.mem_map_of_mem ha)).hasLiterals.append hequals).append
      (Filter.hasLiterals_marker (hnames a ha))
    simpa [Assignment.text] using this
  simpa [literalsOf, List.flatMap_map] using Text.hasLiterals_commas sets Assignment.text hone

/-- **The literals of a write as it is put together are those of the texts in it.** -/
theorem Statement.hasLiterals_tokens {st : Statement} {key? : Option String}
    (h : ∀ t ∈ st.placed key?, IsPaired t.toList) (hnames : ∀ n ∈ st.names, IsName n) (d : Dialect) :
    HasLiterals (literalsOf (st.placed key?)) (spaced (st.tokens d key?)) := by
  cases st with
  | insert table columns =>
    have hhead : HasLiterals (literalsOf (table :: columns.map (·.column))) (insertHead table columns).toList :=
      hasLiterals_insertHead fun t ht => h t (List.mem_append_left _ ht)
    have hvalues : HasLiterals [] (insertValues columns).toList :=
      hasLiterals_insertValues fun a ha => hnames _ (List.mem_append_left _ (List.mem_map_of_mem ha))
    cases key? with
    | none => simpa [placed, fragments, tokens, head, clause?] using hhead.spaced_cons hvalues.spaced_singleton
    | some key =>
      have hkey := (h key (by simp [placed, isInsert])).hasLiterals
      cases d with
      | named =>
        have houtput : HasLiterals (Text.literals key.toList) ("OUTPUT Inserted." ++ key).toList := by
          simpa using (Text.hasLiterals_word (w := "OUTPUT Inserted.") (by decide)).append hkey
        have := hhead.spaced_cons (houtput.spaced_cons hvalues.spaced_singleton)
        simpa [placed, isInsert, fragments, tokens, head, clause?, literalsOf] using this
      | postgres =>
        have hreturning : HasLiterals (Text.literals key.toList) ("RETURNING " ++ key).toList := by
          simpa using (Text.hasLiterals_word (w := "RETURNING ") (by decide)).append hkey
        have := hhead.spaced_cons (hvalues.spaced_cons hreturning.spaced_singleton)
        simpa [placed, isInsert, fragments, tokens, head, clause?, literalsOf] using this
  | update table sets ps =>
    simp only [placed, fragments, isInsert, Bool.false_eq_true, if_false, List.append_nil, List.mem_append] at h
    have htable : HasLiterals (Text.literals table.toList) ("UPDATE " ++ table).toList := by
      simpa using (Text.hasLiterals_word (w := "UPDATE ") (by decide)).append (h table (.inl (by simp))).hasLiterals
    have hassigned : HasLiterals (literalsOf (sets.map (·.column)))
        (", ".intercalate (sets.map Assignment.text)).toList :=
      hasLiterals_sets (fun t ht => h t (.inl (List.mem_cons_of_mem _ ht))) fun a ha =>
        hnames _ (List.mem_append_left _ (List.mem_map_of_mem ha))
    have hset : HasLiterals (literalsOf (sets.map (·.column)))
        ("SET " ++ ", ".intercalate (sets.map Assignment.text)).toList := by
      simpa using (Text.hasLiterals_word (w := "SET ") (by decide)).append hassigned
    have hclause := hasLiterals_clauseTokens (fun c hc => h c (.inr hc)) fun n hn =>
      hnames n (List.mem_append_right _ hn)
    have := htable.spaced_cons (hset.spaced_cons hclause)
    simpa [placed, isInsert, fragments, tokens, head, clause?, literalsOf] using this
  | delete table ps =>
    simp only [placed, fragments, isInsert, Bool.false_eq_true, if_false, List.append_nil, List.mem_cons] at h
    have htable : HasLiterals (Text.literals table.toList) ("DELETE FROM " ++ table).toList := by
      simpa using (Text.hasLiterals_word (w := "DELETE FROM ") (by decide)).append (h table (.inl rfl)).hasLiterals
    have hclause := hasLiterals_clauseTokens (fun c hc => h c (.inr hc)) fun n hn =>
      hnames n (by simpa [names, assignments, predicates] using hn)
    have := htable.spaced_cons hclause
    simpa [placed, isInsert, fragments, tokens, head, clause?, literalsOf] using this

/-- Of the names of a generated column the last one counts. -/
theorem key_foldl_withKey (w : Write) (keys : List String) :
    (keys.foldl withKey w).key = (keys.getLast?.map Text.trimmed).getD w.key := by
  induction keys generalizing w with
  | nil => rfl
  | cons key keys ih =>
    rw [List.foldl_cons, ih, List.getLast?_cons]
    cases keys.getLast? with
    | none => rfl
    | some last => rfl

end Write

/-! ## Statements -/

/-- Texts that are taken one by one to lists of equal lengths. -/
theorem flatMap_eq_flatMap_iff {α β : Type} {f g : α → List β} {xs : List α}
    (h : ∀ x ∈ xs, (f x).length = (g x).length) : xs.flatMap f = xs.flatMap g ↔ ∀ x ∈ xs, f x = g x := by
  induction xs with
  | nil => simp
  | cons x xs ih =>
    rw [List.flatMap_cons, List.flatMap_cons, List.append_eq_append_iff_of_size_eq_left (h x (by simp)),
      List.forall_mem_cons, ih fun y hy => h y (by simp [hy])]

/-- The column that a write gives back. -/
def Making.returned? (making : Making) (keys : List String) (scalar : Bool) : Option String :=
  if scalar && making.statement.isInsert then .some ((keys.getLast?.map Text.trimmed).getD Write.defaultKey)
  else .none

namespace Construction

/-- What the entries of a query were made of. A write has none. -/
def origins : Construction → List Select.Origin
  | .select e b calls => Select.origins e b calls
  | .write .. => []

/-- The other texts in a statement, in the order in which they stand there. Of a table, an alias, a
condition of a join and a column that is written the blanks at the ends are dropped. -/
def others : Construction → List String
  | .select e b calls => (query e b calls).statement.others
  | .write making keys scalar => making.statement.placed (making.returned? keys scalar)

/-- The texts that a statement is made of, in the order in which they stand there; fields as they were
given. -/
def supplied (c : Construction) : List String := c.origins.flatMap Select.Origin.texts ++ c.others

/-- The text of a statement as it is put together, before blanks are normalised. -/
def plain (d : Dialect) : Construction → String
  | .select e b calls => (query e b calls).statement.plain d
  | .write making keys scalar => making.statement.plain d (making.returned? keys scalar)

theorem text_eq_normalized_plain {c : Construction} {s : Assembled} (h : c.assemble = .ok s) (d : Dialect) :
    s.text d = Text.normalized (c.plain d) := by
  cases c with
  | select e b calls =>
    rw [assemble_select h]
    exact Select.Statement.text_eq_normalized_plain _ d
  | write making keys scalar =>
    simp only [assemble] at h
    cases hw : making.write with
    | error e => simp [hw, Except.map] at h
    | ok w =>
      simp only [hw, Except.map, Except.ok.injEq] at h
      obtain ⟨hstatement, -, hkey⟩ := Making.write_eq hw
      have hreturned : (if scalar then (keys.foldl Write.withKey w).returned? else .none) =
          making.returned? keys scalar := by
        rw [Write.returned?, Write.statement_foldl_withKey, Write.key_foldl_withKey, hstatement, hkey,
          Making.returned?]
        cases scalar <;> rfl
      rw [← h]
      dsimp only
      rw [hreturned, Write.statement_foldl_withKey, hstatement]
      exact Write.Statement.text_eq_normalized_plain _ d _

theorem isName_of_mem_predicates {α : Type} (e : Entity α) (b : Select.Beginning) (calls : List Select.Call) :
    ∀ n ∈ Filter.namesOf (query e b calls).statement.predicates, IsName n := by
  have hparams : (query e b calls).params = Slots.number 0 (Select.slotsOfCalls calls) := by
    simp [query, Select.params_run, Select.query_eq, Params.next]
  rw [query, ((Select.isSound_query e b).run calls).names, ← query, hparams]
  exact (Select.hasNames_slotsOfCalls calls).number 0

/-- The literals of a statement as it is put together. -/
theorem literals_plain {c : Construction} (h : ∀ t ∈ c.supplied, IsPaired t.toList) (d : Dialect) :
    Text.literals (c.plain d).toList =
      c.origins.flatMap (fun o => Text.literals o.entry.text.toList) ++ literalsOf c.others := by
  cases c with
  | select e b calls =>
    have hentries := Select.projection_query_run e b calls
    have hpaired : ∀ t ∈ (query e b calls).statement.fragments, IsPaired t.toList := by
      intro t ht
      rcases List.mem_append.1 ht with ht | ht
      · rw [query, hentries, List.map_map] at ht
        obtain ⟨o, ho, rfl⟩ := List.mem_map.1 ht
        exact o.isPaired_entry fun t ht => h t (List.mem_append_left _ (List.mem_flatMap.2 ⟨o, ho, ht⟩))
      · exact h t (List.mem_append_right _ ht)
    have htokens := Select.Statement.hasLiterals_tokens hpaired (isName_of_mem_predicates e b calls) d
    rw [plain, Select.Statement.plain, htokens.intercalate_spaces.literals, Select.Statement.fragments, literalsOf,
      List.flatMap_append, query, hentries, List.flatMap_map, List.flatMap_map]
    rfl
  | write making keys scalar =>
    have hnames : ∀ n ∈ making.statement.names, IsName n := by
      rw [making.names_statement]
      exact making.hasNames_slots.number 0
    have htokens := Write.Statement.hasLiterals_tokens (fun t ht => h t (List.mem_append_right _ ht)) hnames d
    rw [plain, Write.Statement.plain, htokens.intercalate_spaces.literals]
    rfl

/-- **When a statement keeps the literals that it is given.** If the quotes of every text are paired,
the literals in the text for a dialect are those of the texts, in order, exactly if each of them is
normalised and no field was read out of the middle of one. Outside of the literals blanks are
normalised, and nothing else is changed of the statement as it was put together. -/
theorem literals_text_iff {c : Construction} {s : Assembled} (h : c.assemble = .ok s)
    (hpaired : ∀ t ∈ c.supplied, IsPaired t.toList) (d : Dialect) :
    (Text.literals (s.text d).toList = literalsOf c.supplied ↔
        (∀ l ∈ literalsOf c.supplied, Text.normalize l = l) ∧ ∀ o ∈ c.origins, o.IsKept) ∧
      Text.outside (s.text d).toList = Text.normalize (Text.outside (c.plain d).toList) := by
  have htext : (s.text d).toList = Text.normalize (c.plain d).toList := by
    rw [text_eq_normalized_plain h d, Text.normalized, String.toList_ofList]
  refine ⟨?_, by rw [htext, Text.outside_normalize]⟩
  have htexts : ∀ o ∈ c.origins, ∀ t ∈ o.texts, IsPaired t.toList := fun o ho t ht =>
    hpaired t (List.mem_append_left _ (List.mem_flatMap.2 ⟨o, ho, ht⟩))
  have hsupplied : literalsOf c.supplied = c.origins.flatMap (literalsOf ·.texts) ++ literalsOf c.others := by
    rw [supplied, literalsOf, List.flatMap_append, List.flatMap_assoc]
    rfl
  have hlength : ∀ o ∈ c.origins, ((Text.literals o.entry.text.toList).map Text.normalize).length =
      (literalsOf o.texts).length := fun o ho => by
    rw [List.length_map, Select.Origin.length_literals (htexts o ho)]
  -- Entries and other texts keep their numbers of literals, so each can be looked at by itself.
  have hall : (c.origins.flatMap fun o => (Text.literals o.entry.text.toList).map Text.normalize).length =
      (c.origins.flatMap (literalsOf ·.texts)).length := by
    rw [List.length_flatMap, List.length_flatMap, List.map_congr_left hlength]
  calc Text.literals (s.text d).toList = literalsOf c.supplied
      ↔ (c.origins.flatMap fun o => (Text.literals o.entry.text.toList).map Text.normalize) ++
          (literalsOf c.others).map Text.normalize =
          c.origins.flatMap (literalsOf ·.texts) ++ literalsOf c.others := by
        rw [htext, Text.literals_normalize, literals_plain hpaired, List.map_append, List.map_flatMap, hsupplied]
    _ ↔ (∀ o ∈ c.origins, (∀ l ∈ literalsOf o.texts, Text.normalize l = l) ∧ o.IsKept) ∧
          ∀ l ∈ literalsOf c.others, Text.normalize l = l := by
        rw [List.append_eq_append_iff_of_size_eq_left hall, flatMap_eq_flatMap_iff hlength, Text.map_normalize_eq_iff]
        exact and_congr_left fun _ => forall₂_congr fun o ho => Select.Origin.literals_iff (htexts o ho)
    _ ↔ (∀ l ∈ literalsOf c.supplied, Text.normalize l = l) ∧ ∀ o ∈ c.origins, o.IsKept := by
        rw [hsupplied]
        simp only [List.mem_append, List.mem_flatMap]
        exact ⟨fun ⟨horigins, hothers⟩ => ⟨fun l hl => hl.elim (fun ⟨o, ho, hl⟩ => (horigins o ho).1 l hl) (hothers l),
            fun o ho => (horigins o ho).2⟩,
          fun ⟨hnormal, hkept⟩ => ⟨fun o ho => ⟨fun l hl => hnormal l (.inl ⟨o, ho, hl⟩), hkept o ho⟩,
            fun l hl => hnormal l (.inr hl)⟩⟩

/-- A query with a label, and a literal in the column of its filter. -/
def labelling (label : String) : Construction :=
  .select ⟨"T", .none, [], ()⟩ (.fields ["Id", label] false)
    [.fromTable "t", .restrict [.test .none "Kind = 'c d' AND Name" .notNull]]

theorem literals_text_labelling :
    ∃ s, (labelling "'a b'  as  Label").assemble = .ok s ∧
      (∀ t ∈ (labelling "'a b'  as  Label").supplied, IsPaired t.toList) ∧
      ∀ d, Text.literals (s.text d).toList = ["'a b'".toList, "'c d'".toList] := by
  have hpaired : ∀ t ∈ (labelling "'a b'  as  Label").supplied, IsPaired t.toList := by decide +kernel
  have hkept : (∀ l ∈ literalsOf (labelling "'a b'  as  Label").supplied, Text.normalize l = l) ∧
      ∀ o ∈ (labelling "'a b'  as  Label").origins, o.IsKept := by
    decide +kernel
  obtain ⟨s, hs⟩ : ∃ s, (labelling "'a b'  as  Label").assemble = .ok s := ⟨_, rfl⟩
  refine ⟨s, hs, hpaired, fun d => ((literals_text_iff hs hpaired d).1.2 hkept).trans ?_⟩
  decide +kernel

/-- A run of blanks in a literal becomes one space, and an `AS` in a literal is written in capitals. -/
theorem literals_lost :
    (∃ s, (labelling "'a  b' AS Label").assemble = .ok s ∧
      ∀ d, s.text d = "SELECT Id, 'a b' AS Label FROM t WHERE Kind = 'c d' AND Name IS NOT NULL" ∧
        Text.literals (s.text d).toList ≠ literalsOf (labelling "'a  b' AS Label").supplied) ∧
    ∃ s, (labelling "'x as y'").assemble = .ok s ∧
      ∀ d, s.text d = "SELECT Id, 'x AS y' FROM t WHERE Kind = 'c d' AND Name IS NOT NULL" ∧
        Text.literals (s.text d).toList ≠ literalsOf (labelling "'x as y'").supplied := by
  constructor
  · refine ⟨_, rfl, fun d => ?_⟩
    cases d <;> decide +kernel
  · refine ⟨_, rfl, fun d => ?_⟩
    cases d <;> decide +kernel

end Construction

end ParamQuery
