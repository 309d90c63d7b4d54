/-
No write goes out without a clause.

`Write.clause_eq_iff`: the clause of a list of predicates is the one that
holds of no row exactly if the list is empty, for every test leaves a
character in the text that this clause does not have. `isGuarded_text`: the
text of an update or a deletion is its head and then such a clause.
-/
import ParamQuery.Proofs.Construction.Basic
import ParamQuery.Proofs.Filter.Shape

namespace ParamQuery

/-! ## What predicates leave in the text -/

namespace Filter

/-- A character that is seen and is none of those of the clause that holds of no row. -/
def IsTelling (c : Char) : Prop := Text.isBlank c = false ∧ c ∉ "WHERE 1=0".toList

instance (c : Char) : Decidable (IsTelling c) := inferInstanceAs (Decidable (_ ∧ _))

theorem isTelling_of_mem_signs {c : Char} (h : c ∈ signs) : IsTelling c := by
  have hall : signs.all (decide <| IsTelling ·) = true := by decide
  exact of_decide_eq_true (List.all_eq_true.1 hall c h)

/-- The text of predicates has such a character. -/
theorem exists_telling_render {ps : List Predicate} (h : ps ≠ []) :
    ∃ c ∈ (render ps).toList, IsTelling c := by
  obtain ⟨p, rest, rfl⟩ := List.exists_cons_of_ne_nil h
  obtain ⟨token, hmem, c, hc, hsign⟩ := p.exists_sign
  have htoken := Predicate.mem_tokensOfList_of_mem_body hmem rest
  refine ⟨c, ?_, isTelling_of_mem_signs hsign⟩
  rw [toList_render]
  exact Text.mem_normalize (isBlank_of_mem_signs hsign)
    (Text.mem_intercalate hc (List.mem_map_of_mem htoken) _)

end Filter

/-! ## Clauses -/

namespace Write

open ParamQuery.Filter (IsClause Predicate)

/-- A clause holds of no row only if it has no predicate. No predicate can be written so. -/
theorem clause_eq_iff (ps : List Predicate) : clause ps = "WHERE 1=0" ↔ ps = [] := by
  constructor
  · intro h
    cases ps with
    | nil => rfl
    | cons p ps =>
      obtain ⟨c, hc, htelling⟩ := Filter.exists_telling_render (List.cons_ne_nil p ps)
      have hrender : Filter.render (p :: ps) = "WHERE 1=0" := h
      exact absurd (hrender ▸ hc) htelling.2
  · rintro rfl
    rfl

theorem exists_clause_eq {ps : List Predicate} (h : IsClause ps) : ∃ rest, clause ps = "WHERE " ++ rest := by
  unfold clause
  split
  · exact ⟨"1=0", rfl⟩
  · cases ps with
    | nil => contradiction
    | cons p ps => exact Filter.render_clause (h p rfl) ps

@[simp] theorem normalized_clause (ps : List Predicate) : Text.normalized (clause ps) = clause ps := by
  unfold clause
  split
  · decide
  · exact Filter.normalized_render ps

/-- A head in which something is seen is normalised alone: neither it nor the clause is lost, and
neither changes the other. -/
theorem normalized_guarded {head : String} (hhead : Filter.IsVisible head) {ps : List Predicate}
    (h : IsClause ps) :
    Text.normalized (head ++ " " ++ clause ps) = Text.normalized head ++ " " ++ clause ps := by
  have hseen : Text.normalized head ≠ "" := by
    obtain ⟨c, hc, hb⟩ := hhead
    exact Text.normalized_ne_empty hb hc
  have hbegun : clause ps ≠ "" := by
    obtain ⟨rest, hrest⟩ := exists_clause_eq h
    simp [hrest]
  rw [Text.normalized_append_space, normalized_clause, Text.joined_of_ne hseen hbegun]

/-- Naming the generated column leaves the statement as it is. -/
theorem statement_foldl_withKey (w : Write) (keys : List String) :
    (keys.foldl withKey w).statement = w.statement := by
  obtain ⟨key, hkey, -⟩ := w.foldl_withKey keys
  rw [hkey]

end Write

/-! ## Updates and deletions -/

namespace Construction

/-- A text that is a head and then the clause of a filter: the clause begins with `WHERE`, it is the
one that holds of no row exactly if the filter has no predicate, and it is the filter's own text
otherwise. -/
def IsGuarded (head : String) (f : Filter) (text : String) : Prop :=
  ∃ clause rest : String, text = Text.normalized head ++ " " ++ clause ∧ clause = "WHERE " ++ rest ∧
    (clause = "WHERE 1=0" ↔ f.predicates = []) ∧ (f.predicates ≠ [] → clause = f.text)

theorem isGuarded_clause {head : String} (hhead : Filter.IsVisible head) (ps : Params)
    (script : List Filter.Step) :
    IsGuarded head ((Filter.continuing ps).run script)
      (Text.normalized (head ++ " " ++ Write.clause ((Filter.continuing ps).run script).predicates)) := by
  have hclause := Filter.isClause_continuing_run ps script
  obtain ⟨rest, hrest⟩ := Write.exists_clause_eq hclause
  refine ⟨_, rest, Write.normalized_guarded hhead hclause, hrest, Write.clause_eq_iff _, fun hne => ?_⟩
  rw [Write.clause, if_neg (by simpa using hne), Filter.text]

/-- The head of an update. -/
def updateHead (table : String) (sets : List Write.Assignment) : String :=
  "UPDATE " ++ Text.trimmed table ++ " SET " ++ ", ".intercalate (sets.map Write.Assignment.text)

/-- The head of a deletion. -/
def deleteHead (table : String) : String := "DELETE FROM " ++ Text.trimmed table

theorem isVisible_updateHead (table : String) (sets : List Write.Assignment) :
    Filter.IsVisible (updateHead table sets) :=
  ⟨'U', by simp [updateHead], by decide⟩

theorem isVisible_deleteHead (table : String) : Filter.IsVisible (deleteHead table) :=
  ⟨'D', by simp [deleteHead], by decide⟩

/-- What is rendered of a deletion, however it is run. -/
theorem assemble_delete (table : String) (script : List Filter.Step) (keys : List String) (scalar : Bool) :
    ∃ s, (Construction.write (.delete table script) keys scalar).assemble = .ok s ∧
      ∀ d, s.text d =
        Text.normalized (deleteHead table ++ " " ++ Write.clause (Filter.empty.run script).predicates) := by
  refine ⟨_, rfl, fun d => ?_⟩
  dsimp only
  rw [Write.statement_foldl_withKey]
  rfl

/-- What is rendered of an update that writes something, however it is run. -/
theorem assemble_update (table : String) {sets : List Fields} (h : written sets ≠ [])
    (script : List Filter.Step) (keys : List String) (scalar : Bool) :
    let assigned := Write.assign [] (written sets)
    ∃ s, (Construction.write (.update table sets script) keys scalar).assemble = .ok s ∧
      ∀ d, s.text d = Text.normalized (updateHead table assigned.1 ++ " " ++
        Write.clause ((Filter.continuing assigned.2).run script).predicates) := by
  intro assigned
  have hassigned : (Write.assign [] (written sets)).1.isEmpty = false := by
    obtain ⟨f, fields, hw⟩ := List.exists_cons_of_ne_nil h
    simp [hw, Write.assign]
  simp only [assemble, Making.write, Write.Update.foldl_set_ofTable, Write.Update.restrict, hassigned,
    Bool.false_eq_true, if_false, Except.map]
  refine ⟨_, rfl, fun d => ?_⟩
  dsimp only
  rw [Write.statement_foldl_withKey]
  rfl

/-- An update that writes nothing is refused. -/
theorem assemble_update_of_nil (table : String) {sets : List Fields} (h : written sets = [])
    (script : List Filter.Step) (keys : List String) (scalar : Bool) :
    (Construction.write (.update table sets script) keys scalar).assemble =
      .error (.configuration "You have to specify the fields to update with field_values(...).") := by
  simp only [assemble, Making.write, Write.Update.foldl_set_ofTable, Write.Update.restrict, h,
    Write.assign, List.isEmpty_nil, if_true, Except.map]

/-- **No write goes out without a clause.** Whatever its script, and run for the number of rows or
for a value, a deletion is its head and the clause of the filter; and so is an update, whose filter
goes on behind the parameters that it writes, unless it writes nothing and is refused. -/
theorem isGuarded_text (table : String) (sets : List Fields) (script : List Filter.Step)
    (keys : List String) (scalar : Bool) :
    (∃ s, (Construction.write (.delete table script) keys scalar).assemble = .ok s ∧
      ∀ d, IsGuarded (deleteHead table) (Filter.empty.run script) (s.text d)) ∧
    (let assigned := Write.assign [] (written sets)
    if written sets = [] then
      (Construction.write (.update table sets script) keys scalar).assemble =
        .error (.configuration "You have to specify the fields to update with field_values(...).")
    else
      ∃ s, (Construction.write (.update table sets script) keys scalar).assemble = .ok s ∧
        ∀ d, IsGuarded (updateHead table assigned.1) ((Filter.continuing assigned.2).run script)
          (s.text d)) := by
  constructor
  · obtain ⟨s, hs, htext⟩ := assemble_delete table script keys scalar
    refine ⟨s, hs, fun d => ?_⟩
    rw [htext]
    exact isGuarded_clause (isVisible_deleteHead table) [] script
  · intro assigned
    split
    · rename_i hnone
      exact assemble_update_of_nil table hnone script keys scalar
    · rename_i hsome
      obtain ⟨s, hs, htext⟩ := assemble_update table hsome script keys scalar
      refine ⟨s, hs, fun d => ?_⟩
      rw [htext]
      exact isGuarded_clause (isVisible_updateHead table _) _ script

/-- A deletion whose filter adds something, and an update of whose filter nothing is left. -/
theorem isGuarded_text_visitors :
    (∃ s, (Construction.write (.delete " Visitors " [.test .none "Id" (.compare .equal (.int 1))]) [] false).assemble =
        .ok s ∧ ∀ d, s.text d = "DELETE FROM Visitors WHERE Id = @Id0") ∧
      ∃ s, (Construction.write (.update "Visitors" [[("Age", .int 30)]] [.group .none [[]]]) [] true).assemble =
        .ok s ∧ ∀ d, s.text d = "UPDATE Visitors SET Age = @Age0 WHERE 1=0" := by
  obtain ⟨⟨s, hs, hdeleted⟩, -⟩ :=
    isGuarded_text " Visitors " [] [.test .none "Id" (.compare .equal (.int 1))] [] false
  obtain ⟨t, ht, hupdated⟩ := (isGuarded_text "Visitors" [[("Age", .int 30)]] [.group .none [[]]] [] true).2
  refine ⟨⟨s, hs, fun d => ?_⟩, t, ht, fun d => ?_⟩
  · obtain ⟨clause, -, htext, -, -, hown⟩ := hdeleted d
    rw [htext, hown (List.cons_ne_nil _ _)]
    decide +kernel
  · obtain ⟨clause, -, htext, -, hnone, -⟩ := hupdated d
    rw [htext, hnone.2 rfl]
    decide +kernel

/-- A script of which nothing is left: groups that are empty or hold a list of no values, and a column
that is not tested. -/
example : (Write.delete "t" [.group .none [[.test .none "a" (.member [] false)], []], .dropped .or "b"]).sql =
    "DELETE FROM t WHERE 1=0" := by
  decide +kernel

end Construction

end ParamQuery
