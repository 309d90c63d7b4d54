/-
The markers in the text of predicates. If the columns are closed texts, the
text of a list of predicates has the markers of the list, in reading order
(`reads_render`).
-/
import ParamQuery.Proofs.Filter.Reading
import ParamQuery.Proofs.Statement.Markers

namespace ParamQuery.Filter

open Markers (IsClosed IsName Reads spaced)

/-- A leaf whose column is a closed text, and whose names are such that markers can carry them. -/
def IsPlain (leaf : String × Test) : Prop := IsClosed leaf.1.toList ∧ ∀ n ∈ leaf.2.names, IsName n

theorem Connector.reads_token (c : Connector) : Reads [] (spaced c.token?.toList) := by
  cases c with
  | none => exact Markers.reads_nil
  | clause | and | or => exact Markers.reads_nil.spaced_cons (by decide)

theorem Comparator.isClosed_text (op : Comparator) : IsClosed op.text.toList := by
  cases op <;> decide

theorem Keyword.isClosed_text (word : Keyword) : IsClosed word.text.toList := by
  cases word <;> decide

/-- Markers with commas between them. -/
theorem reads_markers {names : List String} (h : ∀ n ∈ names, IsName n) :
    Reads names (", ".intercalate (names.map marker)).toList := by
  have := Markers.reads_commas (fun n => [n]) marker fun n hn => Markers.reads_marker (h n hn)
  simpa using this

theorem Test.reads_tokens {t : Test} (h : ∀ n ∈ t.names, IsName n) : Reads t.names (spaced t.tokens) := by
  cases t with
  | compare op name =>
    exact (Markers.reads_marker (h name (by simp [names]))).spaced_singleton.spaced_cons op.isClosed_text
  | isNull => exact Markers.reads_nil.spaced_cons (by decide)
  | notNull => exact Markers.reads_nil.spaced_cons (by decide)
  | is word =>
    refine Markers.reads_nil.spaced_cons ?_
    rw [String.toList_append]
    exact IsClosed.append (by decide) word.isClosed_text
  | not word =>
    refine Markers.reads_nil.spaced_cons ?_
    rw [String.toList_append]
    exact IsClosed.append (by decide) word.isClosed_text
  | between min max =>
    have hmin := Markers.reads_marker (h min (by simp [names]))
    have hmax := Markers.reads_marker (h max (by simp [names]))
    have hword : IsClosed "BETWEEN ".toList := by decide
    have hand : IsClosed " AND ".toList := by decide
    refine Reads.spaced_singleton ?_
    simp only [String.toList_append]
    exact ((hword.reads_append hmin).append_closed hand (by decide)).append hmax
      (Markers.ends_marker max)
  | member ns negated =>
    have hopen : IsClosed "( ".toList := by decide
    have hclose : IsClosed " )".toList := by decide
    refine Reads.spaced_cons (by cases negated <;> decide) (Reads.spaced_singleton ?_)
    simp only [String.toList_append]
    exact (hopen.reads_append (reads_markers h)).append_closed hclose (by decide)

mutual

theorem Predicate.reads_tokens :
    ∀ p : Predicate, (∀ leaf ∈ p.leaves, IsPlain leaf) → Reads p.names (spaced p.tokens)
  | .comparison c column test, h => by
    obtain ⟨hcolumn, hnames⟩ := h (column, test) (by simp [Predicate.leaves])
    rw [Predicate.tokens, names_comparison]
    exact c.reads_token.spaced_append ((Test.reads_tokens hnames).spaced_cons hcolumn)
  | .group c children, h => by
    have hchildren := reads_tokensOfList children (by simpa [Predicate.leaves] using h)
    have hclose : Reads [] (spaced [")"]) := Markers.reads_nil.spaced_cons (by decide)
    have := (c.reads_token.spaced_append (hchildren.spaced_cons (t := "(") (by decide))).spaced_append hclose
    simpa [Predicate.tokens] using this

theorem reads_tokensOfList :
    ∀ ps : List Predicate, (∀ leaf ∈ leavesOf ps, IsPlain leaf) →
      Reads (namesOf ps) (spaced (Predicate.tokensOfList ps))
  | [], _ => Markers.reads_nil
  | p :: ps, h => by
    rw [namesOf_cons, Predicate.tokensOfList]
    exact (Predicate.reads_tokens p fun leaf hl => h leaf (by simp [leavesOf, hl])).spaced_append
      (reads_tokensOfList ps fun leaf hl => h leaf (by simp [leavesOf, hl]))

end

/-- **The text of predicates has their markers**, in reading order. -/
theorem reads_render {ps : List Predicate} (hcolumns : ∀ column ∈ columnsOf ps, IsClosed column.toList)
    (hnames : ∀ n ∈ namesOf ps, IsName n) : Reads (namesOf ps) (render ps).toList := by
  refine (reads_tokensOfList ps ?_).intercalate_normalize
  rintro ⟨column, test⟩ hleaf
  exact ⟨hcolumns column (List.mem_map.2 ⟨_, hleaf, rfl⟩),
    fun n hn => hnames n (List.mem_flatMap.2 ⟨_, hleaf, hn⟩)⟩

end ParamQuery.Filter
