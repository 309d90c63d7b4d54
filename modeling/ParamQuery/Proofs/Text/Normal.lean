/-
Normalising, character by character. In front of a character that is not a
blank the text is settled, and what follows it goes on as `tight` says: a
run of blanks is one space there, if anything comes behind it.

`normalize_append_blank`: a blank separates two texts, each normalised.
`exists_tight_append_cons`: so does a character of a word.
`mem_normalize`: what is not a blank is never lost.
-/
import ParamQuery.Text.Blank

namespace ParamQuery.Text

/-- What becomes of a text that follows a character of a word. -/
def tight : List Char → List Char
  | [] => []
  | c :: s =>
    if isBlank c then (if normalize s = [] then [] else ' ' :: normalize s) else c :: tight s

theorem normalize_eq_nil_iff_words {s : List Char} : normalize s = [] ↔ words s = [] := by
  constructor
  · intro h
    rw [← words_normalize, h]; rfl
  · intro h
    rw [normalize, h]; rfl

theorem intercalate_wordsFrom {w : List Char} (hw : w ≠ []) (s : List Char) :
    [' '].intercalate (wordsFrom w s) = w ++ tight s := by
  induction s generalizing w with
  | nil => simp [wordsFrom, closeWord, hw, tight]
  | cons c s ih =>
    simp only [wordsFrom, tight]
    split
    · have hclose : closeWord w (wordsFrom [] s) = w :: words s := by simp [closeWord, hw, words]
      rw [hclose]
      by_cases hs : words s = []
      · simp [normalize_eq_nil_iff_words.2 hs, hs]
      · rw [if_neg (by rwa [normalize_eq_nil_iff_words]), List.intercalate_cons_of_ne_nil hs, normalize]
        simp
    · rw [ih (by simp)]; simp

@[simp] theorem normalize_nil : normalize [] = [] := rfl

theorem normalize_cons_blank {c : Char} (h : isBlank c = true) (s : List Char) :
    normalize (c :: s) = normalize s := by
  simp [normalize, words, wordsFrom, h, closeWord]

theorem normalize_cons {c : Char} (h : isBlank c = false) (s : List Char) :
    normalize (c :: s) = c :: tight s := by
  simp only [normalize, words, wordsFrom, h, Bool.false_eq_true, if_false, List.nil_append]
  rw [intercalate_wordsFrom (by simp)]
  rfl

theorem normalize_eq_nil_iff {s : List Char} : normalize s = [] ↔ ∀ c ∈ s, isBlank c = true := by
  induction s with
  | nil => simp
  | cons c s ih =>
    by_cases hc : isBlank c = true
    · simp [normalize_cons_blank hc, ih, hc]
    · have hc' : isBlank c = false := by simpa using hc
      simp [normalize_cons hc', hc']

/-- A blank between two texts that are not blank becomes a space between the two normalised. -/
theorem normalize_append_blank {b : Char} (hb : isBlank b = true) {s t : List Char}
    (hs : normalize s ≠ []) (ht : normalize t ≠ []) :
    normalize (s ++ b :: t) = normalize s ++ ' ' :: normalize t := by
  rw [Ne, normalize_eq_nil_iff_words] at hs ht
  simp only [normalize, words_append_blank hb]
  generalize words s = ws at hs
  induction ws with
  | nil => exact absurd rfl hs
  | cons w ws ih =>
    cases ws with
    | nil => rw [List.singleton_append, List.intercalate_cons_of_ne_nil ht]; simp
    | cons v vs =>
      rw [List.cons_append, List.intercalate_cons_of_ne_nil (by simp),
        List.intercalate_cons_of_ne_nil (by simp), ih (by simp)]
      simp

/-- Normalising loses nothing that is not a blank. -/
theorem mem_normalize {c : Char} (hc : isBlank c = false) {s : List Char} (h : c ∈ s) : c ∈ normalize s := by
  -- Behind a character that is kept, `tight` goes on, so both are followed along the text.
  suffices hboth : c ∈ normalize s ∧ c ∈ tight s from hboth.1
  induction s with
  | nil => simp at h
  | cons d s ih =>
    by_cases hd : isBlank d = true
    · have hne : c ≠ d := fun he => by simp [he, hd] at hc
      obtain ⟨hnormal, -⟩ := ih ((List.mem_cons.1 h).resolve_left hne)
      have hs : normalize s ≠ [] := List.ne_nil_of_mem hnormal
      exact ⟨by rwa [normalize_cons_blank hd], by simp [tight, hd, hs, hnormal]⟩
    · have hd' : isBlank d = false := by simpa using hd
      have htight : c ∈ d :: tight s := by
        rcases List.mem_cons.1 h with rfl | h
        · exact List.mem_cons_self
        · exact List.mem_cons_of_mem _ (ih h).2
      exact ⟨by rwa [normalize_cons hd'], by simpa [tight, hd'] using htight⟩

theorem mem_of_mem_tight {c : Char} (hc : isBlank c = false) {s : List Char} :
    (c ∈ normalize s → c ∈ s) ∧ (c ∈ tight s → c ∈ s) := by
  induction s with
  | nil => exact ⟨id, id⟩
  | cons d s ih =>
    by_cases hd : isBlank d = true
    · refine ⟨fun h => ?_, fun h => ?_⟩
      · rw [normalize_cons_blank hd] at h
        exact List.mem_cons_of_mem _ (ih.1 h)
      · rw [tight, if_pos hd] at h
        split at h
        · simp at h
        · rcases List.mem_cons.1 h with rfl | h
          · exact absurd hc (by decide)
          · exact List.mem_cons_of_mem _ (ih.1 h)
    · have htight : c ∈ d :: tight s → c ∈ d :: s := fun h =>
        (List.mem_cons.1 h).elim (fun he => he ▸ List.mem_cons_self) fun h => List.mem_cons_of_mem _ (ih.2 h)
      rw [normalize_cons (by simpa using hd), tight, if_neg hd]
      exact ⟨htight, htight⟩

/-- What becomes of a text in front of a character that is no blank does not depend on what follows,
and has no characters but blanks and those of the text. -/
theorem exists_tight_append_cons {c : Char} (hc : isBlank c = false) (s : List Char) :
    ∃ s', (∀ d ∈ s', isBlank d = true ∨ d ∈ s) ∧ ∀ t, tight (s ++ c :: t) = s' ++ c :: tight t := by
  -- Both ways of going on are followed along the text.
  suffices hboth :
      (∃ s', (∀ d ∈ s', isBlank d = true ∨ d ∈ s) ∧ ∀ t, normalize (s ++ c :: t) = s' ++ c :: tight t) ∧
      ∃ s', (∀ d ∈ s', isBlank d = true ∨ d ∈ s) ∧ ∀ t, tight (s ++ c :: t) = s' ++ c :: tight t from
    hboth.2
  induction s with
  | nil =>
    have htight (t : List Char) : tight (c :: t) = c :: tight t := by rw [tight, if_neg (by simp [hc])]
    exact ⟨⟨[], by simp, fun t => normalize_cons hc t⟩, ⟨[], by simp, htight⟩⟩
  | cons d s ih =>
    obtain ⟨⟨u, humem, hu⟩, ⟨v, hvmem, hv⟩⟩ := ih
    have hlater {w : List Char} (hw : ∀ x ∈ w, isBlank x = true ∨ x ∈ s) :
        ∀ x ∈ w, isBlank x = true ∨ x ∈ d :: s :=
      fun x hx => (hw x hx).imp_right (List.mem_cons_of_mem _)
    by_cases hd : isBlank d = true
    · refine ⟨⟨u, hlater humem, fun t => ?_⟩, ⟨' ' :: u, ?_, fun t => ?_⟩⟩
      · rw [List.cons_append, normalize_cons_blank hd, hu]
      · intro x hx
        rcases List.mem_cons.1 hx with rfl | hx
        · exact .inl (by decide)
        · exact hlater humem x hx
      · have hne : u ++ c :: tight t ≠ [] := by simp
        rw [List.cons_append, tight, if_pos hd, hu, if_neg hne, List.cons_append]
    · have hmem : ∀ x ∈ d :: v, isBlank x = true ∨ x ∈ d :: s := by
        intro x hx
        rcases List.mem_cons.1 hx with rfl | hx
        · exact .inr List.mem_cons_self
        · exact hlater hvmem x hx
      refine ⟨⟨d :: v, hmem, fun t => ?_⟩, ⟨d :: v, hmem, fun t => ?_⟩⟩
      · rw [List.cons_append, normalize_cons (by simpa using hd), hv, List.cons_append]
      · rw [List.cons_append, tight, if_neg hd, hv, List.cons_append]

/-- The words of texts with spaces between them are those of the texts. -/
theorem words_intercalate_texts (ts : List (List Char)) : words ([' '].intercalate ts) = ts.flatMap words := by
  induction ts with
  | nil => rfl
  | cons t ts ih =>
    by_cases hnil : ts = []
    · simp [hnil]
    · rw [List.intercalate_cons_of_ne_nil hnil, List.append_assoc, List.singleton_append,
        words_append_blank (by decide), ih, List.flatMap_cons]

/-- So are those of tokens. -/
theorem words_intercalate_tokens (ts : List String) :
    words (" ".intercalate ts).toList = ts.flatMap fun t => words t.toList := by
  have hspace : " ".toList = [' '] := rfl
  rw [String.toList_intercalate, hspace, words_intercalate_texts, List.flatMap_map]

theorem words_normalized (s : String) : words (normalized s).toList = words s.toList := by
  rw [normalized, String.toList_ofList, words_normalize]

theorem normalize_eq_of_words {s t : List Char} (h : words s = words t) : normalize s = normalize t := by
  rw [normalize, h, normalize]

theorem normalized_eq_of_words {s t : String} (h : words s.toList = words t.toList) :
    normalized s = normalized t := by
  rw [normalized, normalize_eq_of_words h, normalized]

/-- The words of a text are what is seen of it. -/
theorem flatten_wordsFrom (w s : List Char) : (wordsFrom w s).flatten = w ++ s.filter (!isBlank ·) := by
  have hclose (w : List Char) (rest : List (List Char)) : (closeWord w rest).flatten = w ++ rest.flatten := by
    cases w <;> rfl
  induction s generalizing w with
  | nil => simp [wordsFrom, hclose]
  | cons c s ih =>
    rw [wordsFrom]
    split
    · rename_i hc
      simp [hclose, ih, hc]
    · rename_i hc
      simp [ih, hc]

theorem flatten_words (s : List Char) : (words s).flatten = s.filter (!isBlank ·) := flatten_wordsFrom [] s

/-- What is in one of several texts is in all of them put together. -/
theorem mem_intercalate {c : Char} {t : List Char} (hc : c ∈ t) {ts : List (List Char)} (ht : t ∈ ts)
    (sep : List Char) : c ∈ sep.intercalate ts := by
  induction ts with
  | nil => simp at ht
  | cons u ts ih =>
    by_cases hts : ts = []
    · obtain rfl : t = u := by simpa [hts] using ht
      simpa [hts] using hc
    · rw [List.intercalate_cons_of_ne_nil hts]
      rcases List.mem_cons.1 ht with rfl | ht
      · simp [hc]
      · simp [ih ht]

end ParamQuery.Text
