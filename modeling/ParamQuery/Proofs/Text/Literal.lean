/-
Literals: what stands in a text between single quotes. A literal is taken
with its quotes; the last of a text may lack the one that closes it.

Normalising does not look at quotes. It works on each literal by itself,
and on the rest as if nothing were in the literals
(`literals_normalize`, `outside_normalize`), and literals and rest make the
text (`eq_of_literals_of_outside`). So a literal is left as it is exactly
if it is normalised.
-/
import ParamQuery.Proofs.Text.Trimmed

namespace ParamQuery.Text

/-- The literals of a text. It begins in the literal `begun?`, if there is one. -/
def literalsFrom : (begun? : Option (List Char)) → List Char → List (List Char)
  | begun?, [] => begun?.toList
  | .none, c :: s => literalsFrom (if c = '\'' then .some [c] else .none) s
  | .some l, c :: s =>
    if c = '\'' then (l ++ [c]) :: literalsFrom .none s else literalsFrom (.some (l ++ [c])) s

/-- The literals of a text, in order. -/
def literals (s : List Char) : List (List Char) := literalsFrom .none s

/-- What a text has outside its literals, and their quotes. It begins in a literal or not. -/
def outsideFrom (inLiteral : Bool) : List Char → List Char
  | [] => []
  | c :: s =>
    if c = '\'' then c :: outsideFrom (!inLiteral) s
    else if inLiteral then outsideFrom inLiteral s
    else c :: outsideFrom inLiteral s

/-- A text with nothing in its literals. -/
def outside (s : List Char) : List Char := outsideFrom false s

/-- A text in which every quote has its partner. -/
def IsPaired (s : List Char) : Prop := s.count '\'' % 2 = 0

instance : DecidablePred IsPaired := fun s => inferInstanceAs (Decidable (s.count '\'' % 2 = 0))

/-! ## Cutting -/

@[simp] theorem outside_nil : outside [] = [] := rfl

theorem literals_cons_of_ne {c : Char} (hc : c ≠ '\'') (s : List Char) : literals (c :: s) = literals s := by
  rw [literals, literalsFrom, if_neg hc, literals]

theorem literals_of_notMem {s : List Char} (h : '\'' ∉ s) : literals s = [] := by
  induction s with
  | nil => rfl
  | cons c s ih =>
    rw [List.mem_cons, not_or] at h
    rw [literals_cons_of_ne (Ne.symm h.1), ih h.2]

theorem literalsFrom_of_notMem {s : List Char} (h : '\'' ∉ s) (l : List Char) :
    literalsFrom (.some l) s = [l ++ s] := by
  induction s generalizing l with
  | nil => simp [literalsFrom]
  | cons c s ih =>
    rw [List.mem_cons, not_or] at h
    rw [literalsFrom, if_neg (Ne.symm h.1), ih h.2]
    simp

/-- A literal ends at the next quote. -/
theorem literalsFrom_append_quote {s : List Char} (h : '\'' ∉ s) (l t : List Char) :
    literalsFrom (.some l) (s ++ '\'' :: t) = (l ++ s ++ ['\'']) :: literals t := by
  induction s generalizing l with
  | nil => simp [literalsFrom, literals]
  | cons c s ih =>
    rw [List.mem_cons, not_or] at h
    rw [List.cons_append, literalsFrom, if_neg (Ne.symm h.1), ih h.2]
    simp

theorem literalsFrom_append (begun? : Option (List Char)) {s : List Char}
    (h : (s.count '\'' + begun?.isSome.toNat) % 2 = 0) (t : List Char) :
    literalsFrom begun? (s ++ t) = literalsFrom begun? s ++ literals t := by
  induction s generalizing begun? with
  | nil =>
    cases begun? with
    | none => rfl
    | some l => simp at h
  | cons c s ih =>
    by_cases hc : c = '\''
    · subst hc
      rw [List.count_cons_self] at h
      cases begun? with
      | none => exact ih (.some ['\'']) h
      | some l =>
        have hs : (s.count '\'' + (Option.none : Option (List Char)).isSome.toNat) % 2 = 0 := by
          simp only [Option.isSome_some, Bool.toNat_true] at h
          simp only [Option.isSome_none, Bool.toNat_false]
          omega
        rw [List.cons_append, literalsFrom, if_pos rfl, ih .none hs, literalsFrom, if_pos rfl,
          List.cons_append]
    · rw [List.count_cons_of_ne hc] at h
      cases begun? with
      | none => rw [List.cons_append, literalsFrom, if_neg hc, ih .none h, literalsFrom, if_neg hc]
      | some l =>
        rw [List.cons_append, literalsFrom, if_neg hc, ih (.some (l ++ [c])) h, literalsFrom, if_neg hc]

/-- The literals behind a text whose quotes are paired are those of what follows. -/
theorem literals_append {s : List Char} (h : IsPaired s) (t : List Char) :
    literals (s ++ t) = literals s ++ literals t := literalsFrom_append .none h t

theorem IsPaired.append {s t : List Char} (hs : IsPaired s) (ht : IsPaired t) : IsPaired (s ++ t) := by
  rw [IsPaired] at hs ht ⊢
  rw [List.count_append]
  omega

theorem isPaired_of_notMem {s : List Char} (h : '\'' ∉ s) : IsPaired s := by
  rw [IsPaired, List.count_eq_zero_of_not_mem h]

/-- Two quotes make a literal. -/
theorem length_literalsFrom (begun? : Option (List Char)) (s : List Char) :
    (literalsFrom begun? s).length = (s.count '\'' + begun?.isSome.toNat + 1) / 2 := by
  induction s generalizing begun? with
  | nil => cases begun? <;> simp [literalsFrom]
  | cons c s ih =>
    by_cases hc : c = '\''
    · subst hc
      rw [List.count_cons_self]
      cases begun? with
      | none => simp [literalsFrom, ih]
      | some l =>
        simp only [literalsFrom, if_true, List.length_cons, ih, Option.isSome_none, Option.isSome_some,
          Bool.toNat_false, Bool.toNat_true]
        omega
    · rw [List.count_cons_of_ne hc]
      cases begun? with
      | none => simp [literalsFrom, hc, ih]
      | some l => simp [literalsFrom, hc, ih]

theorem length_literals (s : List Char) : (literals s).length = (s.count '\'' + 1) / 2 :=
  length_literalsFrom .none s

/-! ## Outside -/

theorem outsideFrom_cons_quote (inLiteral : Bool) (s : List Char) :
    outsideFrom inLiteral ('\'' :: s) = '\'' :: outsideFrom (!inLiteral) s := by
  rw [outsideFrom, if_pos rfl]

theorem outsideFrom_cons_of_ne {c : Char} (hc : c ≠ '\'') (s : List Char) :
    outside (c :: s) = c :: outside s ∧ outsideFrom true (c :: s) = outsideFrom true s := by
  simp [outside, outsideFrom, hc]

theorem outside_of_notMem {s : List Char} (h : '\'' ∉ s) : outside s = s ∧ outsideFrom true s = [] := by
  induction s with
  | nil => exact ⟨rfl, rfl⟩
  | cons c s ih =>
    rw [List.mem_cons, not_or] at h
    obtain ⟨houtside, hliteral⟩ := outsideFrom_cons_of_ne (Ne.symm h.1) s
    rw [houtside, hliteral, (ih h.2).1, (ih h.2).2]
    exact ⟨rfl, rfl⟩

/-- Behind quotes that are paired a text is where it was before; behind others it is not. -/
theorem outsideFrom_append (inLiteral : Bool) (s t : List Char) :
    (IsPaired s → outsideFrom inLiteral (s ++ t) = outsideFrom inLiteral s ++ outsideFrom inLiteral t) ∧
      (¬ IsPaired s →
        outsideFrom inLiteral (s ++ t) = outsideFrom inLiteral s ++ outsideFrom (!inLiteral) t) := by
  induction s generalizing inLiteral with
  | nil => exact ⟨fun _ => rfl, fun h => absurd (by decide) h⟩
  | cons c s ih =>
    by_cases hc : c = '\''
    · subst hc
      have hflip : IsPaired ('\'' :: s) ↔ ¬ IsPaired s := by
        rw [IsPaired, IsPaired, List.count_cons_self]
        omega
      obtain ⟨hpaired, hopen⟩ := ih (!inLiteral)
      rw [hflip, not_not]
      simp only [List.cons_append, outsideFrom, if_true, Bool.not_not] at hopen ⊢
      exact ⟨fun h => by rw [hopen h], fun h => by rw [hpaired h]⟩
    · have hsame : IsPaired (c :: s) ↔ IsPaired s := by rw [IsPaired, IsPaired, List.count_cons_of_ne hc]
      obtain ⟨hpaired, hopen⟩ := ih inLiteral
      rw [hsame]
      constructor
      · intro h
        cases inLiteral <;> simp [outsideFrom, hc, hpaired h]
      · intro h
        cases inLiteral <;> simp [outsideFrom, hc, hopen h]

/-! ## Putting together -/

/-- A text with nothing in its literals, with literals put in. -/
def fill : List Char → List (List Char) → List Char
  | [], _ => []
  | c :: o, ls =>
    if c = '\'' then ls.head?.getD [c] ++ fill (o.drop 1) ls.tail else c :: fill o ls
termination_by o => o.length
decreasing_by
  · simp only [List.length_drop, List.length_cons]
    omega
  · simp

theorem fill_outsideFrom (s : List Char) :
    fill (outside s) (literals s) = s ∧
      ∀ l, fill ('\'' :: outsideFrom true s) (literalsFrom (.some l) s) = l ++ s := by
  induction s with
  | nil =>
    refine ⟨by rw [outside_nil, fill], fun l => ?_⟩
    rw [outsideFrom, fill, if_pos rfl, List.drop_nil, fill]
    rfl
  | cons c s ih =>
    obtain ⟨ihOutside, ihLiteral⟩ := ih
    by_cases hc : c = '\''
    · subst hc
      refine ⟨ihLiteral ['\''], fun l => ?_⟩
      rw [outsideFrom, if_pos rfl, literalsFrom, if_pos rfl, fill, if_pos rfl]
      simpa [outside, literals] using ihOutside
    · constructor
      · rw [outside, outsideFrom, if_neg hc, if_neg (by decide), literals_cons_of_ne hc, fill, if_neg hc,
          ← outside, ihOutside]
      · intro l
        rw [outsideFrom, if_neg hc, if_pos rfl, literalsFrom, if_neg hc, ihLiteral]
        simp

/-- **A text is its literals and what is outside them.** -/
theorem eq_of_literals_of_outside {s t : List Char} (hl : literals s = literals t)
    (ho : outside s = outside t) : s = t := by
  rw [← (fill_outsideFrom s).1, hl, ho, (fill_outsideFrom t).1]

/-! ## Normalising -/

/-- **Each literal is normalised by itself.** -/
theorem literals_normalize (s : List Char) : literals (normalize s) = (literals s).map normalize := by
  have hquote : isBlank '\'' = false := by decide
  -- A text that goes on in a literal is looked at from the quote that opens the literal on.
  suffices hall : literals (normalize s) = (literals s).map normalize ∧
      literals (tight s) = (literals s).map normalize ∧
      ∀ l, '\'' ∉ l →
        literals ('\'' :: tight (l ++ s)) = (literalsFrom (.some ('\'' :: l)) s).map normalize from hall.1
  induction s with
  | nil =>
    refine ⟨rfl, rfl, fun l hl => ?_⟩
    have htight : '\'' ∉ tight (l ++ []) := fun h => hl (by simpa using (mem_of_mem_tight hquote).2 h)
    show literalsFrom (.some ['\'']) (tight (l ++ [])) = _
    rw [literalsFrom_of_notMem htight, literalsFrom, Option.toList_some, List.map_singleton,
      normalize_cons hquote, List.append_nil]
    rfl
  | cons c s ih =>
    obtain ⟨ihNormal, ihTight, ihLiteral⟩ := ih
    by_cases hc : c = '\''
    · subst hc
      have hopened : literals ('\'' :: tight s) = (literals ('\'' :: s)).map normalize :=
        ihLiteral [] (by simp)
      refine ⟨by rwa [normalize_cons hquote], by rwa [tight, if_neg (by decide)], fun l hl => ?_⟩
      obtain ⟨l', hmem, hl'⟩ := exists_tight_append_cons hquote l
      have hnotMem : '\'' ∉ l' := fun h => (hmem _ h).elim (by decide) hl
      have hsettled : normalize ('\'' :: l ++ ['\'']) = '\'' :: l' ++ ['\''] := by
        rw [List.cons_append, normalize_cons hquote, hl' []]
        rfl
      rw [hl', literalsFrom, if_pos rfl, List.map_cons, hsettled]
      show literalsFrom (.some ['\'']) (l' ++ '\'' :: tight s) = _
      rw [literalsFrom_append_quote hnotMem, ihTight]
      rfl
    · have hopen : ∀ l, '\'' ∉ l →
          literals ('\'' :: tight (l ++ c :: s)) = (literalsFrom (.some ('\'' :: l)) (c :: s)).map normalize := by
        intro l hl
        have hl' : '\'' ∉ l ++ [c] := by simp [hl, Ne.symm hc]
        simpa [literalsFrom, hc] using ihLiteral (l ++ [c]) hl'
      rw [literals_cons_of_ne hc]
      by_cases hb : isBlank c = true
      · rw [normalize_cons_blank hb, tight, if_pos hb]
        refine ⟨ihNormal, ?_, hopen⟩
        split
        · rename_i hnil
          rw [← ihNormal, hnil]
        · rw [literals_cons_of_ne (by decide), ihNormal]
      · rw [normalize_cons (by simpa using hb), tight, if_neg hb, literals_cons_of_ne hc]
        exact ⟨ihTight, ihTight, hopen⟩

theorem outside_ne_nil {s : List Char} (h : s ≠ []) : outside s ≠ [] := by
  obtain ⟨c, t, rfl⟩ := List.exists_cons_of_ne_nil h
  by_cases hc : c = '\''
  · rw [hc, outside, outsideFrom_cons_quote]
    exact List.cons_ne_nil _ _
  · rw [(outsideFrom_cons_of_ne hc t).1]
    exact List.cons_ne_nil _ _

/-- **What is outside the literals is normalised as if nothing were in them.** -/
theorem outside_normalize (s : List Char) : outside (normalize s) = normalize (outside s) := by
  have hquote : isBlank '\'' = false := by decide
  -- In a literal it makes no difference whether a space is left at the front.
  suffices hall : outside (normalize s) = normalize (outside s) ∧ outside (tight s) = tight (outside s) ∧
      outsideFrom true (normalize s) = tight (outsideFrom true s) ∧
      outsideFrom true (tight s) = tight (outsideFrom true s) from hall.1
  induction s with
  | nil => exact ⟨rfl, rfl, rfl, rfl⟩
  | cons c s ih =>
    obtain ⟨ihNormal, ihTight, ihLiteralNormal, ihLiteralTight⟩ := ih
    by_cases hc : c = '\''
    · subst hc
      have htight (t : List Char) : tight ('\'' :: t) = '\'' :: tight t := by rw [tight, if_neg (by decide)]
      have hopened (t : List Char) : outside ('\'' :: t) = '\'' :: outsideFrom true t := by
        rw [outside, outsideFrom_cons_quote, Bool.not_false]
      have hclosed (t : List Char) : outsideFrom true ('\'' :: t) = '\'' :: outside t := by
        rw [outsideFrom_cons_quote, Bool.not_true, outside]
      rw [normalize_cons hquote, htight, hopened, hopened, hclosed, hclosed, normalize_cons hquote, htight, htight,
        ihLiteralTight, ihTight]
      exact ⟨rfl, rfl, rfl, rfl⟩
    · obtain ⟨houtside, hliteral⟩ := outsideFrom_cons_of_ne hc s
      rw [houtside, hliteral]
      by_cases hb : isBlank c = true
      · obtain ⟨hspace, hspaceLiteral⟩ := outsideFrom_cons_of_ne (show ' ' ≠ '\'' by decide) (normalize s)
        rw [normalize_cons_blank hb, normalize_cons_blank hb, tight, if_pos hb, tight, if_pos hb, ← ihNormal,
          ← ihLiteralNormal]
        refine ⟨rfl, ?_, rfl, ?_⟩
        · by_cases hnil : normalize s = []
          · simp [hnil]
          · rw [if_neg hnil, if_neg (outside_ne_nil hnil), hspace]
        · by_cases hnil : normalize s = []
          · simp [hnil]
          · rw [if_neg hnil, hspaceLiteral]
      · obtain ⟨hkept, hdropped⟩ := outsideFrom_cons_of_ne hc (tight s)
        have hb' : isBlank c = false := by simpa using hb
        rw [normalize_cons hb', normalize_cons hb', tight, if_neg hb, tight, if_neg hb, hkept, hdropped, ihTight]
        exact ⟨rfl, rfl, ihLiteralTight, ihLiteralTight⟩

theorem map_normalize_eq_iff (ls : List (List Char)) : ls.map normalize = ls ↔ ∀ l ∈ ls, normalize l = l := by
  constructor
  · intro h l hl
    exact List.map_inj_left.1 (h.trans (List.map_id _).symm) l hl
  · intro h
    exact (List.map_congr_left h).trans (List.map_id _)

/-- A text keeps its literals exactly if they are normalised. -/
theorem literals_normalize_eq_iff (s : List Char) :
    literals (normalize s) = literals s ↔ ∀ l ∈ literals s, normalize l = l := by
  rw [literals_normalize, map_normalize_eq_iff]

/-! ## Trimming -/

theorem quote_notMem_of_blank {s : List Char} (h : ∀ c ∈ s, isBlank c = true) : '\'' ∉ s := fun hmem =>
  absurd (h _ hmem) (by decide)

theorem count_quote_trim (s : List Char) : (trim s).count '\'' = s.count '\'' := by
  obtain ⟨front, back, hfront, hback, heq⟩ := exists_trim_append s
  have hcount := congrArg (List.count '\'') heq
  rw [List.count_append, List.count_append, List.count_eq_zero_of_not_mem (quote_notMem_of_blank hfront),
    List.count_eq_zero_of_not_mem (quote_notMem_of_blank hback), Nat.zero_add, Nat.add_zero] at hcount
  exact hcount.symm

theorem isPaired_trim {s : List Char} : IsPaired (trim s) ↔ IsPaired s := by
  rw [IsPaired, count_quote_trim, IsPaired]

/-- Trimming keeps the literals of a text whose quotes are paired. -/
theorem literals_trim {s : List Char} (h : IsPaired s) : literals (trim s) = literals s := by
  obtain ⟨front, back, hfront, hback, heq⟩ := exists_trim_append s
  have hfront' := quote_notMem_of_blank hfront
  calc literals (trim s)
      = literals (trim s ++ back) := by
        rw [literals_append (isPaired_trim.2 h), literals_of_notMem (quote_notMem_of_blank hback), List.append_nil]
    _ = literals (front ++ (trim s ++ back)) := by
        rw [literals_append (isPaired_of_notMem hfront'), literals_of_notMem hfront', List.nil_append]
    _ = literals s := by rw [← heq]

/-- What trimming drops is outside at the front, and at the end if no literal is open there. -/
theorem exists_outside_trim (s : List Char) :
    ∃ front back, (∀ c ∈ front, isBlank c = true) ∧ (∀ c ∈ back, isBlank c = true) ∧
      (IsPaired s → outside s = front ++ (outside (trim s) ++ back)) ∧
      (¬ IsPaired s → outside s = front ++ outside (trim s) ∧
        outsideFrom true s = outsideFrom true (trim s) ++ back) := by
  obtain ⟨front, back, hfront, hback, heq⟩ := exists_trim_append s
  obtain ⟨hfrontOutside, hfrontLiteral⟩ := outside_of_notMem (quote_notMem_of_blank hfront)
  obtain ⟨hbackOutside, hbackLiteral⟩ := outside_of_notMem (quote_notMem_of_blank hback)
  have hfrontPaired := isPaired_of_notMem (quote_notMem_of_blank hfront)
  have hbegin (inLiteral : Bool) : outsideFrom inLiteral s =
      outsideFrom inLiteral front ++ outsideFrom inLiteral (trim s ++ back) := by
    conv => lhs; rw [heq]
    exact (outsideFrom_append inLiteral _ _).1 hfrontPaired
  refine ⟨front, back, hfront, hback, fun h => ?_, fun h => ?_⟩
  · have hend := (outsideFrom_append false (trim s) back).1 (isPaired_trim.2 h)
    rw [outside, hbegin, hend, ← outside, ← outside, ← outside, hfrontOutside, hbackOutside]
  · have hopen : ¬ IsPaired (trim s) := fun ht => h (isPaired_trim.1 ht)
    have houtside := (outsideFrom_append false (trim s) back).2 hopen
    have hliteral := (outsideFrom_append true (trim s) back).2 hopen
    rw [Bool.not_false, hbackLiteral, List.append_nil] at houtside
    rw [Bool.not_true, ← outside, hbackOutside] at hliteral
    constructor
    · rw [outside, hbegin, houtside, ← outside, ← outside, hfrontOutside]
    · rw [hbegin, hliteral, hfrontLiteral, List.nil_append]

end ParamQuery.Text
