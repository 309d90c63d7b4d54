/-
Trimming and normalising.

Trimming drops blanks, of which normalising knows nothing (`normalize_trim`),
and a normalised text has nothing to trim (`isTrimmed_normalize`). Texts
with nothing to trim are normalised one by one where commas stand between
them (`normalize_commas`).
-/
import Mathlib.Data.List.TakeWhile
import ParamQuery.Proofs.Text.Normal

namespace ParamQuery.Text

/-! ## Blanks at the ends -/

theorem normalize_blanks_append {blanks : List Char} (h : ∀ c ∈ blanks, isBlank c = true) (s : List Char) :
    normalize (blanks ++ s) = normalize s := by
  induction blanks with
  | nil => rfl
  | cons c blanks ih => rw [List.cons_append, normalize_cons_blank (h c (by simp)), ih fun d hd => h d (by simp [hd])]

theorem normalize_append_blanks {blanks : List Char} (h : ∀ c ∈ blanks, isBlank c = true) (s : List Char) :
    normalize (s ++ blanks) = normalize s := by
  cases blanks with
  | nil => rw [List.append_nil]
  | cons c blanks =>
    have hrest : words blanks = [] :=
      normalize_eq_nil_iff_words.1 (normalize_eq_nil_iff.2 fun d hd => h d (by simp [hd]))
    exact normalize_eq_of_words (by rw [words_append_blank (h c (by simp)), hrest, List.append_nil])

/-- What trimming drops. -/
theorem exists_trim_append (s : List Char) :
    ∃ front back, (∀ c ∈ front, isBlank c = true) ∧ (∀ c ∈ back, isBlank c = true) ∧
      s = front ++ (trim s ++ back) := by
  refine ⟨s.takeWhile isBlank, ((trimStart s).reverse.takeWhile isBlank).reverse, ?_, ?_, ?_⟩
  · exact fun c hc => List.mem_takeWhile_imp hc
  · exact fun c hc => List.mem_takeWhile_imp (List.mem_reverse.1 hc)
  · rw [trim, trimEnd, ← List.reverse_append, List.takeWhile_append_dropWhile, List.reverse_reverse, trimStart,
      List.takeWhile_append_dropWhile]

/-- A text with nothing to trim. -/
structure IsTrimmed (s : List Char) : Prop where
  front : ∀ c ∈ s.head?, isBlank c = false
  back : ∀ c ∈ s.getLast?, isBlank c = false

theorem IsTrimmed.trim {s : List Char} (h : IsTrimmed s) : trim s = s := by
  have hdrop {t : List Char} (ht : ∀ c ∈ t.head?, isBlank c = false) : t.dropWhile isBlank = t := by
    cases t with
    | nil => rfl
    | cons c t => rw [List.dropWhile_cons, if_neg (by simp [ht c rfl])]
  rw [Text.trim, trimStart, hdrop h.front, trimEnd, hdrop (by simpa using h.back), List.reverse_reverse]

theorem isTrimmed_trim (s : List Char) : IsTrimmed (trim s) := by
  have hdropped (t : List Char) : ∀ c ∈ (t.dropWhile isBlank).head?, isBlank c = false := by
    intro c hc
    have := List.head?_dropWhile_not isBlank t
    rw [Option.mem_def.1 hc] at this
    simpa using this
  constructor
  · intro c hc
    have hprefix : trimEnd (trimStart s) <+: trimStart s := by
      rw [trimEnd, ← List.reverse_suffix, List.reverse_reverse]
      exact List.dropWhile_suffix _
    obtain ⟨rest, hrest⟩ := hprefix
    refine hdropped s c ?_
    rw [← trimStart, ← hrest, List.head?_append, ← Text.trim, Option.mem_def.1 hc]
    rfl
  · intro c hc
    rw [Text.trim, trimEnd, List.getLast?_reverse] at hc
    exact hdropped _ c hc

theorem isTrimmed_normalize (s : List Char) : IsTrimmed (normalize s) := by
  -- What goes on behind a word is followed as well; it ends like a normalised text.
  suffices hall : (∀ c ∈ (normalize s).head?, isBlank c = false) ∧
      (∀ c ∈ (normalize s).getLast?, isBlank c = false) ∧ ∀ c ∈ (tight s).getLast?, isBlank c = false from
    ⟨hall.1, hall.2.1⟩
  induction s with
  | nil => simp [tight]
  | cons d s ih =>
    obtain ⟨hhead, hlast, htight⟩ := ih
    by_cases hd : isBlank d = true
    · rw [normalize_cons_blank hd, tight, if_pos hd]
      refine ⟨hhead, hlast, ?_⟩
      split
      · simp
      · rename_i hne
        rwa [List.getLast?_cons_of_ne_nil hne]
    · have hd' : isBlank d = false := by simpa using hd
      have hend : ∀ c ∈ (d :: tight s).getLast?, isBlank c = false := by
        by_cases hnil : tight s = []
        · simpa [hnil] using hd'
        · rwa [List.getLast?_cons_of_ne_nil hnil]
      rw [normalize_cons hd', tight, if_neg hd]
      exact ⟨by simpa using hd', hend, hend⟩

theorem normalize_trim (s : List Char) : normalize (trim s) = normalize s := by
  obtain ⟨front, back, hfront, hback, heq⟩ := exists_trim_append s
  conv => rhs; rw [heq]
  rw [normalize_blanks_append hfront, normalize_append_blanks hback]

theorem words_trim (s : List Char) : words (trim s) = words s := by
  rw [← words_normalize, normalize_trim, words_normalize]

/-- Of a text with nothing to trim, `tight` normalises the blanks that are left. -/
theorem IsTrimmed.tight {s : List Char} (h : IsTrimmed s) : tight s = normalize s := by
  cases s with
  | nil => rfl
  | cons c s =>
    have hc := h.front c rfl
    rw [Text.tight, if_neg (by simp [hc]), normalize_cons hc]

/-! ## Putting together -/

/-- Only the ends of a text matter. -/
theorem IsTrimmed.between {s t : List Char} (hs : IsTrimmed s) (ht : IsTrimmed t) (hs' : s ≠ [])
    (ht' : t ≠ []) (middle : List Char) : IsTrimmed (s ++ (middle ++ t)) := by
  obtain ⟨c, s, rfl⟩ := List.exists_cons_of_ne_nil hs'
  obtain ⟨t, d, rfl⟩ : ∃ front d, t = front ++ [d] := ⟨_, _, (List.dropLast_concat_getLast ht').symm⟩
  have hd := ht.back d (by simp)
  refine ⟨hs.front, fun c' hc' => ?_⟩
  rw [← List.append_assoc, ← List.append_assoc, List.getLast?_concat, Option.mem_some] at hc'
  rwa [← hc']

theorem normalize_ne_nil {s : List Char} (h : IsTrimmed s) (hne : s ≠ []) : normalize s ≠ [] := by
  obtain ⟨c, s, rfl⟩ := List.exists_cons_of_ne_nil hne
  rw [normalize_cons (h.front c rfl)]
  exact List.cons_ne_nil _ _

theorem normalize_append_comma {s : List Char} (h : IsTrimmed s) (hne : s ≠ []) :
    normalize (s ++ [',']) = normalize s ++ [','] := by
  obtain ⟨front, c, rfl⟩ : ∃ front c, s = front ++ [c] := ⟨_, _, (List.dropLast_concat_getLast hne).symm⟩
  have hc : isBlank c = false := h.back c (by simp)
  have hblank : isBlank ',' = false := by decide
  have hcomma : IsTrimmed [','] := ⟨by simpa using hblank, by simpa using hblank⟩
  have hall : IsTrimmed (front ++ [c] ++ [',']) := h.between hcomma hne (by simp) []
  obtain ⟨front', -, hfront⟩ := exists_tight_append_cons hc front
  rw [← h.tight, ← hall.tight, List.append_assoc, List.singleton_append, hfront, hfront, List.append_assoc]
  rfl

/-- **Texts with commas between them are normalised one by one.** -/
theorem normalize_commas {ts : List (List Char)} (h : ∀ t ∈ ts, IsTrimmed t ∧ t ≠ []) :
    normalize ([',', ' '].intercalate ts) = [',', ' '].intercalate (ts.map normalize) := by
  induction ts with
  | nil => rfl
  | cons t ts ih =>
    obtain ⟨ht, hne⟩ := h t (by simp)
    have hrest := ih fun u hu => h u (by simp [hu])
    cases ts with
    | nil => simp
    | cons u ts =>
      obtain ⟨hu, hune⟩ := h u (by simp)
      have hseen : normalize ([',', ' '].intercalate (u :: ts)) ≠ [] := by
        obtain ⟨c, cs, rfl⟩ := List.exists_cons_of_ne_nil hune
        refine List.ne_nil_of_mem (mem_normalize (hu.front c rfl) ?_)
        exact mem_intercalate (List.mem_cons_self) (List.mem_cons_self) _
      have hcomma : normalize (t ++ [',']) ≠ [] := by simp [normalize_append_comma ht hne]
      have hsplit : [',', ' '].intercalate (t :: u :: ts) = t ++ [','] ++ ' ' :: [',', ' '].intercalate (u :: ts) := by
        rw [List.intercalate_cons_of_ne_nil (by simp)]
        simp
      have hmapped : [',', ' '].intercalate ((t :: u :: ts).map normalize) =
          normalize t ++ [',', ' '] ++ [',', ' '].intercalate ((u :: ts).map normalize) :=
        List.intercalate_cons_of_ne_nil (by simp)
      rw [hsplit, normalize_append_blank (by decide) hcomma hseen, normalize_append_comma ht hne, hrest, hmapped]
      simp

/-- A text whose words are those of several texts is these texts, normalised, with spaces between. -/
theorem normalize_eq_intercalate {s : List Char} {ts : List (List Char)} (h : words s = ts.flatMap words)
    (hne : ∀ t ∈ ts, normalize t ≠ []) : normalize s = [' '].intercalate (ts.map normalize) := by
  rw [normalize_eq_of_words (h.trans (words_intercalate_texts ts).symm)]
  clear h
  induction ts with
  | nil => rfl
  | cons t ts ih =>
    have hrest := ih fun u hu => hne u (by simp [hu])
    cases ts with
    | nil => simp
    | cons u ts =>
      have hseen : normalize ([' '].intercalate (u :: ts)) ≠ [] := by
        rw [hrest]
        obtain ⟨c, cs, hc⟩ := List.exists_cons_of_ne_nil (hne u (by simp))
        refine List.ne_nil_of_mem (mem_intercalate (hc ▸ List.mem_cons_self) (List.mem_cons_self) _)
      have hmapped : [' '].intercalate ((t :: u :: ts).map normalize) =
          normalize t ++ [' '] ++ [' '].intercalate ((u :: ts).map normalize) :=
        List.intercalate_cons_of_ne_nil (by simp)
      rw [List.intercalate_cons_of_ne_nil (List.cons_ne_nil _ _), List.append_assoc, List.singleton_append,
        normalize_append_blank (by decide) (hne t (by simp)) hseen, hrest, hmapped]
      simp

end ParamQuery.Text
