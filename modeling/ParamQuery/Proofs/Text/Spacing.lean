/-
Blanks of normalised texts, and texts with a space between them.

`normalize_eq_self_iff`: the texts that normalising leaves as they are are
those with single spaces and none at an end. Such a text is told by its
words (`IsSpaced.eq_of_words`). A text that is cut at a space is normalised
part by part (`normalized_append_space`), and so are tokens in two lists.
-/
import Mathlib.Data.List.Chain
import ParamQuery.Proofs.Text.Trimmed

namespace ParamQuery.Text

/-! ## Single spaces -/

/-- No two blanks side by side, and no blank but the space. -/
structure HasSingleSpaces (s : List Char) : Prop where
  apart : s.IsChain fun c d => isBlank c = false ∨ isBlank d = false
  space : ∀ c ∈ s, isBlank c = true → c = ' '

namespace HasSingleSpaces

variable {c : Char} {s : List Char}

theorem nil : HasSingleSpaces [] := ⟨.nil, by simp⟩

theorem tail (h : HasSingleSpaces (c :: s)) : HasSingleSpaces s :=
  ⟨h.apart.tail, fun d hd => h.space d (List.mem_cons_of_mem _ hd)⟩

theorem cons_of_not_blank (hc : isBlank c = false) (h : HasSingleSpaces s) : HasSingleSpaces (c :: s) := by
  refine ⟨List.isChain_cons.2 ⟨fun _ _ => .inl hc, h.apart⟩, List.forall_mem_cons.2 ⟨fun hblank => ?_, h.space⟩⟩
  simp [hc] at hblank

theorem cons_space (h : HasSingleSpaces s) (front : ∀ d ∈ s.head?, isBlank d = false) :
    HasSingleSpaces (' ' :: s) :=
  ⟨List.isChain_cons.2 ⟨fun d hd => .inr (front d hd), h.apart⟩, List.forall_mem_cons.2 ⟨fun _ => rfl, h.space⟩⟩

/-- What follows a blank is none. -/
theorem front_of_blank (h : HasSingleSpaces (c :: s)) (hc : isBlank c = true) :
    ∀ d ∈ s.head?, isBlank d = false := by
  intro d hd
  exact ((List.isChain_cons.1 h.apart).1 d hd).resolve_left (by simp [hc])

/-- Behind a word nothing changes, if a word comes last. -/
theorem tight_eq_self (h : HasSingleSpaces s) (back : ∀ d ∈ s.getLast?, isBlank d = false) : tight s = s := by
  induction s with
  | nil => rfl
  | cons c s ih =>
    by_cases hc : isBlank c = true
    · have hs : s ≠ [] := by
        rintro rfl
        simp [back c rfl] at hc
      have hback : ∀ d ∈ s.getLast?, isBlank d = false := by
        rwa [List.getLast?_cons_of_ne_nil hs] at back
      -- Behind the blank stands a word, and there both ways of going on are one.
      have hrest : normalize s = s :=
        (IsTrimmed.tight ⟨h.front_of_blank hc, hback⟩).symm.trans (ih h.tail hback)
      rw [tight, if_pos hc, hrest, if_neg hs, h.space c List.mem_cons_self hc]
    · have hback : ∀ d ∈ s.getLast?, isBlank d = false := by
        by_cases hs : s = []
        · simp [hs]
        · rwa [List.getLast?_cons_of_ne_nil hs] at back
      rw [tight, if_neg hc, ih h.tail hback]

end HasSingleSpaces

theorem hasSingleSpaces_normalize (s : List Char) : HasSingleSpaces (normalize s) := by
  -- What goes on behind a word is followed as well.
  suffices hboth : HasSingleSpaces (normalize s) ∧ HasSingleSpaces (tight s) from hboth.1
  induction s with
  | nil => exact ⟨.nil, .nil⟩
  | cons c s ih =>
    obtain ⟨hnormal, htight⟩ := ih
    by_cases hc : isBlank c = true
    · rw [normalize_cons_blank hc, tight, if_pos hc]
      refine ⟨hnormal, ?_⟩
      split
      · exact .nil
      · exact hnormal.cons_space (isTrimmed_normalize s).front
    · have hc' : isBlank c = false := by simpa using hc
      have hcons : HasSingleSpaces (c :: tight s) := htight.cons_of_not_blank hc'
      rw [normalize_cons hc', tight, if_neg hc]
      exact ⟨hcons, hcons⟩

/-- A text with single spaces, none of them at an end. -/
structure IsSpaced (s : List Char) : Prop extends IsTrimmed s, HasSingleSpaces s

theorem isSpaced_normalize (s : List Char) : IsSpaced (normalize s) :=
  ⟨isTrimmed_normalize s, hasSingleSpaces_normalize s⟩

/-- **What normalising leaves as it is** are the texts with single spaces and none at an end. -/
theorem normalize_eq_self_iff {s : List Char} : normalize s = s ↔ IsSpaced s := by
  constructor
  · intro h
    rw [← h]
    exact isSpaced_normalize s
  · intro h
    rw [← h.toIsTrimmed.tight]
    exact h.toHasSingleSpaces.tight_eq_self h.back

instance (s : List Char) : Decidable (IsSpaced s) := decidable_of_iff _ normalize_eq_self_iff

/-- A single blank that is not the space does not stay. -/
example : IsSpaced "Unit Price".toList ∧ ¬ IsSpaced "Unit\u00A0Price".toList := by decide

/-- A text with single spaces is told by its words. -/
theorem IsSpaced.eq_of_words {s t : List Char} (hs : IsSpaced s) (ht : IsSpaced t) (h : words s = words t) :
    s = t := by
  rw [← normalize_eq_self_iff.2 hs, ← normalize_eq_self_iff.2 ht]
  exact normalize_eq_of_words h

/-! ## A space between two texts -/

/-- Two texts with one space between them, or only the one if the other is empty. -/
def joined (s t : String) : String := if s = "" then t else if t = "" then s else s ++ " " ++ t

theorem joined_of_ne {s t : String} (hs : s ≠ "") (ht : t ≠ "") : joined s t = s ++ " " ++ t := by
  rw [joined, if_neg hs, if_neg ht]

theorem normalized_eq_empty_iff {s : String} : normalized s = "" ↔ words s.toList = [] := by
  rw [← String.toList_inj, normalized, String.toList_ofList, String.toList_empty, normalize_eq_nil_iff_words]

theorem normalized_ne_empty {c : Char} (hc : isBlank c = false) {s : String} (h : c ∈ s.toList) :
    normalized s ≠ "" := by
  rw [Ne, normalized_eq_empty_iff, ← normalize_eq_nil_iff_words]
  exact List.ne_nil_of_mem (mem_normalize hc h)

theorem words_append_space (s t : String) :
    words (s ++ " " ++ t).toList = words s.toList ++ words t.toList := by
  rw [String.toList_append, String.toList_append, List.append_assoc]
  exact words_append_blank (by decide) _ _

/-- **A text that is cut at a space is normalised part by part**, whatever blanks the parts have at
their ends, and also if there is nothing else in one of them. -/
theorem normalized_append_space (s t : String) :
    normalized (s ++ " " ++ t) = joined (normalized s) (normalized t) := by
  by_cases hs : words s.toList = []
  · rw [joined, if_pos (normalized_eq_empty_iff.2 hs)]
    exact normalized_eq_of_words (by rw [words_append_space, hs, List.nil_append])
  · have hs' : normalized s ≠ "" := fun h => hs (normalized_eq_empty_iff.1 h)
    by_cases ht : words t.toList = []
    · rw [joined, if_neg hs', if_pos (normalized_eq_empty_iff.2 ht)]
      exact normalized_eq_of_words (by rw [words_append_space, ht, List.append_nil])
    · have ht' : normalized t ≠ "" := fun h => ht (normalized_eq_empty_iff.1 h)
      rw [← normalize_eq_nil_iff_words] at hs ht
      rw [joined_of_ne hs' ht', ← String.toList_inj]
      simp only [normalized, String.toList_append, String.toList_ofList, List.append_assoc]
      exact normalize_append_blank (by decide) hs ht

/-- Tokens in two lists are normalised list by list. -/
theorem normalized_intercalate_append (ts us : List String) :
    normalized (" ".intercalate (ts ++ us)) =
      joined (normalized (" ".intercalate ts)) (normalized (" ".intercalate us)) := by
  rw [← normalized_append_space]
  refine normalized_eq_of_words ?_
  rw [words_append_space, words_intercalate_tokens, words_intercalate_tokens, words_intercalate_tokens,
    List.flatMap_append]

end ParamQuery.Text
