/-
Blanks: the characters of the Unicode property White_Space, and what is
done with them in text. `trim` drops them at both ends, `words` cuts at
them, and `normalize` writes the words again with one space between.

`isBlank_of_isWhitespace`: every blank that core knows is one here.
`words_normalize`: a normalised text has the same words; so normalising
twice changes nothing (`normalize_normalize`).
-/
namespace ParamQuery.Text

/-- The characters of the Unicode property White_Space. -/
def isBlank (c : Char) : Bool :=
  let n := c.toNat
  (9 ≤ n && n ≤ 13) || n == 0x20 || n == 0x85 || n == 0xA0 || n == 0x1680 ||
    (0x2000 ≤ n && n ≤ 0x200A) || n == 0x2028 || n == 0x2029 || n == 0x202F ||
    n == 0x205F || n == 0x3000

/-! ## Trimming -/

/-- Drops the leading blanks. -/
def trimStart (s : List Char) : List Char := s.dropWhile isBlank

/-- Drops the trailing blanks. -/
def trimEnd (s : List Char) : List Char := (s.reverse.dropWhile isBlank).reverse

/-- Drops the blanks at both ends. -/
def trim (s : List Char) : List Char := trimEnd (trimStart s)

/-- A text without the blanks at its ends. -/
def trimmed (s : String) : String := .ofList (trim s.toList)

/-- Nothing but blanks. -/
def isBlankText (s : String) : Bool := s.toList.all isBlank

/-- A text without the blanks at its ends, if there is anything else. -/
def nonBlank? (s : String) : Option String :=
  let t := trimmed s
  if t.isEmpty then .none else .some t

/-! ## Words -/

/-- `word` in front of the words that follow it, unless it is empty. -/
def closeWord (word : List Char) (rest : List (List Char)) : List (List Char) :=
  if word.isEmpty then rest else word :: rest

/-- The words of a text whose first characters, up to here, are `word`. -/
def wordsFrom (word : List Char) : List Char → List (List Char)
  | [] => closeWord word []
  | c :: r => if isBlank c then closeWord word (wordsFrom [] r) else wordsFrom (word ++ [c]) r

/-- The maximal runs of characters that are not blank. -/
def words (s : List Char) : List (List Char) := wordsFrom [] s

/-- The words of a text with one space between neighbours. -/
def normalize (s : List Char) : List Char := [' '].intercalate (words s)

/-- A text with every run of blanks made one space, and none at its ends. -/
def normalized (s : String) : String := .ofList (normalize s.toList)

/-! ## Laws -/

theorem isBlank_of_isWhitespace {c : Char} (h : c.isWhitespace = true) : isBlank c = true := by
  simp only [Char.isWhitespace, Bool.or_eq_true, decide_eq_true_eq] at h
  rcases h with ((rfl | rfl) | rfl) | rfl <;> decide

theorem wordsFrom_of_not_blank {w : List Char} (hw : ∀ c ∈ w, isBlank c = false) (u s : List Char) :
    wordsFrom u (w ++ s) = wordsFrom (u ++ w) s := by
  induction w generalizing u with
  | nil => simp
  | cons c w ih =>
    have hc : isBlank c = false := hw c (by simp)
    have hw' : ∀ d ∈ w, isBlank d = false := fun d hd => hw d (by simp [hd])
    simp only [List.cons_append, wordsFrom, hc, Bool.false_eq_true, if_false]
    rw [ih hw']; simp

/-- A blank between two texts separates their words. -/
theorem wordsFrom_append_blank {b : Char} (hb : isBlank b = true) (w s t : List Char) :
    wordsFrom w (s ++ b :: t) = wordsFrom w s ++ words t := by
  induction s generalizing w with
  | nil =>
    simp only [List.nil_append, wordsFrom, hb, if_true, words, closeWord]
    split <;> simp
  | cons c s ih =>
    simp only [List.cons_append, wordsFrom, closeWord]
    split
    · split <;> simp [ih]
    · rw [ih]

theorem words_append_blank {b : Char} (hb : isBlank b = true) (s t : List Char) :
    words (s ++ b :: t) = words s ++ words t := wordsFrom_append_blank hb [] s t

/-- What a word of a text is: not empty, and free of blanks. -/
def IsWord (w : List Char) : Prop := w ≠ [] ∧ ∀ c ∈ w, isBlank c = false

theorem words_of_isWord {w : List Char} (h : IsWord w) : words w = [w] := by
  have := wordsFrom_of_not_blank h.2 [] []
  simp only [List.append_nil, List.nil_append] at this
  rw [words, this]
  simp [wordsFrom, closeWord, h.1]

theorem isWord_of_mem_wordsFrom {u s w : List Char} (hu : ∀ c ∈ u, isBlank c = false)
    (h : w ∈ wordsFrom u s) : IsWord w := by
  induction s generalizing u with
  | nil =>
    simp only [wordsFrom, closeWord] at h
    split at h
    · simp at h
    · rename_i hne
      simp only [List.mem_singleton] at h
      subst h
      exact ⟨by simpa using hne, hu⟩
  | cons c s ih =>
    simp only [wordsFrom, closeWord] at h
    split at h
    · split at h
      · exact ih (by simp) h
      · rename_i hne
        rcases List.mem_cons.1 h with rfl | h
        · exact ⟨by simpa using hne, hu⟩
        · exact ih (by simp) h
    · rename_i hc
      refine ih ?_ h
      intro d hd
      rcases List.mem_append.1 hd with hd | hd
      · exact hu d hd
      · rw [List.mem_singleton.1 hd]; simpa using hc

theorem isWord_of_mem_words {s w : List Char} (h : w ∈ words s) : IsWord w :=
  isWord_of_mem_wordsFrom (by simp) h

theorem words_intercalate {ws : List (List Char)} (h : ∀ w ∈ ws, IsWord w) :
    words ([' '].intercalate ws) = ws := by
  induction ws with
  | nil => rfl
  | cons w ws ih =>
    have hw : IsWord w := h w (by simp)
    have hws : ∀ v ∈ ws, IsWord v := fun v hv => h v (by simp [hv])
    cases ws with
    | nil => simpa [List.intercalate] using words_of_isWord hw
    | cons v vs =>
      have : [' '].intercalate (w :: v :: vs) = w ++ ' ' :: [' '].intercalate (v :: vs) := by
        simp [List.intercalate]
      rw [this, words_append_blank (by decide), words_of_isWord hw, ih hws]
      rfl

theorem words_normalize (s : List Char) : words (normalize s) = words s :=
  words_intercalate fun _ h => isWord_of_mem_words h

theorem normalize_normalize (s : List Char) : normalize (normalize s) = normalize s := by
  rw [normalize, words_normalize, ← normalize]

end ParamQuery.Text
