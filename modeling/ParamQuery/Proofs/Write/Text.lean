/-
The markers in the text of a write: those of the values that are written,
then those of the filter (`Statement.reads_text`).
-/
import ParamQuery.Proofs.Filter.Text
import ParamQuery.Write.Statement

namespace ParamQuery.Write

open ParamQuery.Filter
open Markers (IsClosed IsName Reads)

namespace Statement

/-- What is assigned. -/
def assignments : Statement → List Assignment
  | .insert _ columns => columns
  | .update _ sets _ => sets
  | .delete _ _ => []

/-- The predicates. -/
def predicates : Statement → List Predicate
  | .insert _ _ => []
  | .update _ _ ps => ps
  | .delete _ ps => ps

/-- The names of the markers, in order. -/
def names (st : Statement) : List String := st.assignments.map (·.name) ++ namesOf st.predicates

/-- The texts in a statement. -/
def fragments : Statement → List String
  | .insert table columns => table :: columns.map (·.column)
  | .update table sets ps => table :: sets.map (·.column) ++ columnsOf ps
  | .delete table ps => table :: columnsOf ps

end Statement

theorem reads_clause {ps : List Predicate} (hcolumns : ∀ column ∈ columnsOf ps, IsClosed column.toList)
    (hnames : ∀ n ∈ namesOf ps, IsName n) : Reads (namesOf ps) (clause ps).toList := by
  unfold clause
  split
  · rename_i hps
    rw [List.isEmpty_iff.1 hps]
    exact IsClosed.reads (by decide)
  · exact reads_render hcolumns hnames

theorem isClosed_insertHead {table : String} {columns : List Assignment} (ht : IsClosed table.toList)
    (hc : ∀ a ∈ columns, IsClosed a.column.toList) :
    IsClosed (Statement.insertHead table columns).toList := by
  simp only [Statement.insertHead, String.toList_append, String.toList_intercalate]
  have hcolumns : IsClosed (", ".toList.intercalate ((columns.map (·.column)).map String.toList)) := by
    refine IsClosed.intercalate (by decide) fun t hmem => ?_
    simp only [List.map_map, List.mem_map] at hmem
    obtain ⟨a, ha, rfl⟩ := hmem
    exact hc a ha
  exact (((IsClosed.append (by decide) ht).append (by decide)).append hcolumns).append (by decide)

theorem reads_insertValues {columns : List Assignment} (hnames : ∀ a ∈ columns, IsName a.name) :
    Reads (columns.map (·.name)) (Statement.insertValues columns).toList := by
  have hmarkers : Reads (columns.map (·.name))
      (", ".intercalate ((columns.map (·.name)).map marker)).toList :=
    reads_markers (by simpa using hnames)
  have hopen : IsClosed "VALUES (".toList := by decide
  have hclose : IsClosed ")".toList := by decide
  simp only [Statement.insertValues, String.toList_append]
  rw [List.map_map] at hmarkers
  exact (hopen.reads_append hmarkers).append_closed hclose (by decide)

theorem reads_insertText {table : String} {columns : List Assignment} {key? : Option String}
    (ht : IsClosed table.toList) (hc : ∀ a ∈ columns, IsClosed a.column.toList)
    (hkey : ∀ key ∈ key?, IsClosed key.toList) (hnames : ∀ a ∈ columns, IsName a.name) (d : Dialect) :
    Reads (columns.map (·.name)) (Statement.insertText table columns d key?).toList := by
  have hhead := isClosed_insertHead ht hc
  have hspace : IsClosed " ".toList := by decide
  have hvalues := reads_insertValues hnames
  cases key? with
  | none =>
    simp only [Statement.insertText, String.toList_append]
    exact (hhead.append hspace).reads_append hvalues
  | some key =>
    have hclosed : IsClosed key.toList := hkey key rfl
    cases d with
    | named =>
      have houtput : IsClosed " OUTPUT Inserted.".toList := by decide
      simp only [Statement.insertText, String.toList_append]
      exact (((hhead.append houtput).append hclosed).append hspace).reads_append hvalues
    | postgres =>
      have hreturning : IsClosed (" RETURNING ".toList ++ key.toList) := IsClosed.append (by decide) hclosed
      simp only [Statement.insertText, String.toList_append]
      rw [List.append_assoc]
      exact ((hhead.append hspace).reads_append hvalues).append_closed hreturning
        (Markers.ends_append (by decide) (by decide) _)

theorem reads_assignments {sets : List Assignment} (hc : ∀ a ∈ sets, IsClosed a.column.toList)
    (hnames : ∀ a ∈ sets, IsName a.name) :
    Reads (sets.map (·.name)) (", ".intercalate (sets.map Assignment.text)).toList := by
  have heq : IsClosed " = ".toList := by decide
  have hone : ∀ a ∈ sets, Reads [a.name] a.text.toList := fun a ha => by
    simp only [Assignment.text, String.toList_append]
    exact ((hc a ha).append heq).reads_append (Markers.reads_marker (hnames a ha))
  have := Markers.reads_commas (fun a : Assignment => [a.name]) Assignment.text hone
  rwa [← List.map_eq_flatMap] at this

/-- **The markers of a write's text are those of its assignments, then those of its predicates.** -/
theorem Statement.reads_text {st : Statement} {key? : Option String}
    (hfragments : ∀ t ∈ st.fragments, IsClosed t.toList) (hkey : ∀ key ∈ key?, IsClosed key.toList)
    (hnames : ∀ n ∈ st.names, IsName n) (d : Dialect) : Reads st.names (st.text d key?).toList := by
  rw [text, Text.normalized, String.toList_ofList]
  refine Markers.Reads.normalize ?_
  cases st with
  | insert table columns =>
    have hassigned : ∀ a ∈ columns, IsName a.name := fun a ha =>
      hnames _ (List.mem_append_left _ (List.mem_map_of_mem ha))
    have hcolumns : ∀ a ∈ columns, IsClosed a.column.toList := fun a ha =>
      hfragments _ (List.mem_cons_of_mem _ (List.mem_map_of_mem ha))
    have hread := reads_insertText (hfragments table (by simp [fragments])) hcolumns hkey hassigned d
    simpa [names, assignments, predicates, rawText] using hread
  | update table sets ps =>
    have hupdate : IsClosed "UPDATE ".toList := by decide
    have hset : IsClosed " SET ".toList := by decide
    have htable : IsClosed table.toList := hfragments table (by simp [fragments])
    have hsets : Reads (sets.map (·.name)) (", ".intercalate (sets.map Assignment.text)).toList :=
      reads_assignments
        (fun a ha => hfragments _ (List.mem_append_left _ (List.mem_cons_of_mem _ (List.mem_map_of_mem ha))))
        (fun a ha => hnames _ (List.mem_append_left _ (List.mem_map_of_mem ha)))
    have hclause : Reads (namesOf ps) (clause ps).toList :=
      reads_clause (fun c hc => hfragments c (List.mem_append_right _ hc))
        (fun n hn => hnames n (List.mem_append_right _ hn))
    simp only [rawText, String.toList_append]
    have hbefore := ((hupdate.append htable).append hset).reads_append hsets
    have hbehind : Reads (namesOf ps) (" ".toList ++ (clause ps).toList) :=
      IsClosed.reads_append (by decide) hclause
    rw [List.append_assoc]
    exact hbefore.append hbehind (Markers.ends_append (by decide) (by decide) _)
  | delete table ps =>
    have hdelete : IsClosed "DELETE FROM ".toList := by decide
    have hspace : IsClosed " ".toList := by decide
    have htable : IsClosed table.toList := hfragments table (by simp [fragments])
    have hclause : Reads (namesOf ps) (clause ps).toList :=
      reads_clause (fun c hc => hfragments c (List.mem_cons_of_mem _ hc))
        (fun n hn => hnames n (by simpa [names, assignments, predicates] using hn))
    simp only [rawText, String.toList_append]
    exact ((hdelete.append htable).append hspace).reads_append hclause

end ParamQuery.Write
