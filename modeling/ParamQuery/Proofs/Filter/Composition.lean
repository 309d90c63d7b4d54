/-
The text of predicates that are put together.

`render_of_parts`: the text of two lists is that of the one and that of the
other with a space between them. It has single spaces and none at an end,
whatever blanks the columns have, and of all such texts it is the one with
the words of the tokens. So a filter that is put behind another has the
text of the predicates of both.
-/
import ParamQuery.Proofs.Filter.Applied
import ParamQuery.Proofs.Filter.Lexemes

namespace ParamQuery.Filter

theorem isSpaced_render (ps : List Predicate) : Text.IsSpaced (render ps).toList := by
  rw [toList_render]
  exact Text.isSpaced_normalize _

/-- Of the texts with single spaces, that of predicates is the one with the words of the tokens. -/
theorem eq_render_iff {t : String} (ht : Text.IsSpaced t.toList) (ps : List Predicate) :
    t = render ps ↔ Text.words t.toList = wordsOf (Predicate.tokensOfList ps) := by
  rw [wordsOf, ← words_render_tokens, ← String.toList_inj]
  exact ⟨congrArg Text.words, ht.eq_of_words (isSpaced_render ps)⟩

/-- **The text of predicates is put together from the texts of its parts.** The text of two lists is
that of the one and that of the other with a space between them, or only the one if the other list
is empty. Whatever blanks the columns have, it has single spaces and none at an end, normalising
leaves it as it is, and of such texts it is the one with the words of the tokens. So a filter that
is applied to another has the text of the predicates of both, those of the applied one behind AND
or behind OR. -/
theorem render_of_parts (ps qs : List Predicate) :
    let text := render (ps ++ qs)
    text = Text.joined (render ps) (render qs) ∧
      (text = "" ↔ ps = [] ∧ qs = []) ∧
      Text.IsSpaced text.toList ∧
      Text.normalized text = text ∧
      (∀ t : String, Text.IsSpaced t.toList →
        (t = text ↔ Text.words t.toList = wordsOf (Predicate.tokensOfList (ps ++ qs)))) ∧
      ∀ e f : Filter, e.predicates ≠ [] → f.predicates ≠ [] →
        f.applyAnd e.text = render (e.predicates ++ leadWith .and f.predicates) ∧
          f.applyOr e.text = render (e.predicates ++ leadWith .or f.predicates) := by
  intro text
  have hempty : text = "" ↔ ps = [] ∧ qs = [] := by
    rw [← List.append_eq_nil_iff]
    constructor
    · exact not_imp_not.1 render_ne_empty
    · intro h
      simp [text, h]
  refine ⟨render_append_eq_joined ps qs, hempty, isSpaced_render _, normalized_render _,
    fun t ht => eq_render_iff ht _, fun e f he hf => ?_⟩
  have hbehind (c : Connector) : f.applyTo c e.text = render (e.predicates ++ leadWith c f.predicates) := by
    rw [applyTo_text, behind, if_neg (by simpa using he)]
  exact ⟨hbehind .and, hbehind .or⟩

/-- Columns with blanks at their ends and within, and one of nothing else. -/
theorem render_of_parts_blanks :
    let e := empty.run [.test .none "\u00A0Open \u2003Tickets\n" .isNull]
    let f := (continuing e.params).run
      [.test .none "\u2028" (.is .true), .group .or [[.test .none "Owner\u3000Id " (.compare .equal (.int 3))]]]
    let t := "WHERE Open Tickets IS NULL AND IS TRUE OR ( Owner Id = @OwnerId0 )"
    e.predicates ≠ [] ∧ f.predicates ≠ [] ∧ Text.IsSpaced t.toList ∧
      e.text = "WHERE Open Tickets IS NULL" ∧ f.text = "WHERE IS TRUE OR ( Owner Id = @OwnerId0 )" ∧
      f.applyAnd e.text = t ∧
      t = render (e.predicates ++ leadWith .and f.predicates) ∧
      Text.words t.toList = wordsOf (Predicate.tokensOfList (e.predicates ++ leadWith .and f.predicates)) := by
  intro e f t
  have he : e.predicates ≠ [] := List.ne_nil_of_length_pos (by decide +kernel)
  have hf : f.predicates ≠ [] := List.ne_nil_of_length_pos (by decide +kernel)
  have ht : Text.IsSpaced t.toList := by decide +kernel
  have happlied : f.applyAnd e.text = t := by decide +kernel
  obtain ⟨-, -, -, -, htold, hbehind⟩ := render_of_parts e.predicates (leadWith .and f.predicates)
  have htext : t = render (e.predicates ++ leadWith .and f.predicates) := happlied.symm.trans (hbehind e f he hf).1
  exact ⟨he, hf, ht, by decide +kernel, by decide +kernel, happlied, htext, (htold t ht).1 htext⟩

end ParamQuery.Filter
