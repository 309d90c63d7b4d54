/-
The binary number that a decimal becomes.

The whole part and the part behind the point are rounded apart, divided,
added, brought to the grid of the decimal's places, and divided again, so
the result is not always a nearest one. `isClose_wordOf`: it is off by at
most `2 ^ -49` of the number. `isNearest_wordOf_iff`: it is a nearest one
exactly if all these roundings end where one does (`IsRoundedOnce`). They do
if there is nothing behind the point, and if the magnitude is below `2 ^ 49`
and there are at most 22 places, because then the way back to the grid
undoes all errors and one rounding is left.
-/
import ParamQuery.Number.Decimal.Approximation
import ParamQuery.Proofs.Number.Closeness
import ParamQuery.Proofs.Number.Halfway

namespace ParamQuery.Number

open BinaryFormat

/-! ## Rounding to a whole number -/

theorem abs_roundHalfUp_sub_le {a b : Nat} (hb : 0 < b) :
    |(roundHalfUp a b : ℚ) - a / b| ≤ 1 / 2 := by
  have hpos : (0 : ℚ) < b := by exact_mod_cast hb
  obtain ⟨hle, hlt⟩ := roundHalfUp_spec (a := a) hb
  have hle' : (2 * (roundHalfUp a b * b) : ℚ) ≤ 2 * a + b := by exact_mod_cast hle
  have hlt' : (2 * a : ℚ) < 2 * (roundHalfUp a b * b) + b := by exact_mod_cast hlt
  have hquot : (a : ℚ) = a / b * b := by field_simp
  generalize (a : ℚ) / b = y at hquot ⊢
  rw [hquot] at hle' hlt'
  rw [abs_le]
  constructor
  · by_contra hneg
    have := mul_lt_mul_of_pos_right (not_le.1 hneg) hpos
    linarith
  · by_contra hneg
    have := mul_lt_mul_of_pos_right (not_le.1 hneg) hpos
    linarith

theorem roundHalfUp_eq_of_abs_lt {a b m : Nat} (hb : 0 < b) (h : |(a : ℚ) / b - m| < 1 / 2) :
    roundHalfUp a b = m := by
  have htriangle := abs_sub_le (roundHalfUp a b : ℚ) (a / b) m
  have hround := abs_roundHalfUp_sub_le (a := a) hb
  have hone : |(roundHalfUp a b : ℤ) - (m : ℤ)| < 1 := by
    have : |(roundHalfUp a b : ℚ) - m| < 1 := by linarith
    exact_mod_cast this
  rw [Int.abs_lt_one_iff] at hone
  omega

/-- A whole number that was missed by half at most is found again; so the error at most doubles. -/
theorem isClose_roundHalfUp {a b m : Nat} {ε : ℚ} (hb : 0 < b) (h : IsClose ε (a / b) m) :
    IsClose (2 * ε) (roundHalfUp a b : ℚ) m := by
  unfold IsClose at h ⊢
  rcases lt_or_ge |(a : ℚ) / b - m| (1 / 2) with hlt | hge
  · rw [roundHalfUp_eq_of_abs_lt hb hlt, sub_self, abs_zero]
    have := abs_nonneg ((a : ℚ) / b - m)
    linarith
  · have htriangle := abs_sub_le (roundHalfUp a b : ℚ) (a / b) m
    have hround := abs_roundHalfUp_sub_le (a := a) hb
    linarith

theorem roundWhole_of_abs_lt {f : BinaryFormat} {w m : Nat} (h : |f.value w - m| < 1 / 2) :
    f.roundWhole w = f.ofRatio m 1 := by
  rw [← units_div] at h
  have hpos : 0 < Nat.pow 2 f.scale := Nat.two_pow_pos _
  rw [roundWhole, roundHalfUp_eq_of_abs_lt hpos h]

/-- The whole number behind a word, as a word. -/
theorem isClose_roundWhole {f : BinaryFormat} (hf : f.IsWide) {w m : Nat} {ε : ℚ} (hm : m ≤ 2 ^ 96)
    (h : IsClose ε (f.value w) m) (hε : 2 * ε ≤ 1 / 2) :
    IsClose (1 / 2 ^ f.precision + 2 * ε + 1 / 2 ^ f.precision * (2 * ε)) (f.value (f.roundWhole w)) m := by
  rw [← units_div] at h
  have hwhole := isClose_roundHalfUp (Nat.two_pow_pos _) h
  have hwithin := (Within.natCast hm).of_isClose hwhole hε (by positivity)
  unfold roundWhole
  generalize roundHalfUp (f.units w) (Nat.pow 2 f.scale) = n at hwhole hwithin ⊢
  have hround : IsClose (1 / 2 ^ f.precision) (f.value (f.ofRatio n 1)) n := by
    have hn : Within 200 ((n : ℚ) / (1 : Nat)) := by
      rw [Nat.cast_one, div_one]
      exact hwithin.mono (by decide)
    have hratio := isClose_ofRatio hf Nat.one_pos hn
    rwa [Nat.cast_one, div_one] at hratio
  exact hround.trans (by positivity) hwhole

namespace Decimal

/-- The decimal without its sign. -/
def quotient (d : Decimal) : ℚ := d.magnitude / 10 ^ d.scale

/-! ## The steps -/

section Steps

variable (m one : Nat)

/-- The whole part. -/
def wholeWord : Nat := double.ofRatio (m / one) 1

/-- The unit of the last place. -/
def gridWord : Nat := double.ofRatio one 1

/-- The part behind the point. -/
def partWord : Nat := double.div (double.ofRatio (m % one) 1) (gridWord one)

/-- The number in last places. -/
def scaledWord : Nat := double.mul (double.add (wholeWord m one) (partWord m one)) (gridWord one)

/-- The number, back from a whole number of last places. -/
def griddedWord : Nat := double.div (double.roundWhole (scaledWord m one)) (gridWord one)

end Steps

/-- The word that a decimal becomes. -/
def wordOf (d : Decimal) : Nat :=
  if d.scale = 0 then double.ofRatio d.magnitude 1
  else if partWord d.magnitude (Nat.pow 10 d.scale) = 0 then wholeWord d.magnitude (Nat.pow 10 d.scale)
  else griddedWord d.magnitude (Nat.pow 10 d.scale)

theorem toBinary64_eq (d : Decimal) :
    d.toBinary64 = .ofWord (d.negative && (d.scale != 0 || d.magnitude != 0)) d.wordOf := by
  unfold toBinary64 wordOf
  by_cases hscale : d.scale = 0
  · simp [hscale]
  · have hplaces : (d.scale != 0) = true := by simpa using hscale
    rw [if_neg hscale, if_neg hscale, hplaces, Bool.true_or, Bool.and_true, apply_ite (Binary64.ofWord d.negative)]
    rfl

/-! ## Errors of the steps -/

/-- One half of the last bit. -/
abbrev ulp : ℚ := 1 / 2 ^ 53

section Errors

variable {m one : Nat}

theorem isClose_natWord {n : Nat} (hn : n ≤ 2 ^ 96) : IsClose ulp (double.value (double.ofRatio n 1)) n := by
  have hwithin : Within 200 ((n : ℚ) / (1 : Nat)) := by
    rw [Nat.cast_one, div_one]
    exact (Within.natCast hn).mono (by decide)
  have h := isClose_ofRatio isWide_double Nat.one_pos hwithin
  rwa [Nat.cast_one, div_one] at h

/-- The word of a positive number has units. -/
theorem units_pos_of_isClose {w : Nat} {ε x : ℚ} (h : IsClose ε (double.value w) x) (hε : ε < 1)
    (hx : 0 < x) : 0 < double.units w := by
  have hleast := h.le_abs
  rw [abs_of_pos hx, abs_of_nonneg (value_nonneg _ _)] at hleast
  have hpos : 0 < double.value w := lt_of_lt_of_le (mul_pos (by linarith) hx) hleast
  rw [value, div_pos_iff_of_pos_right (by positivity)] at hpos
  exact_mod_cast hpos

/-- The whole part and the rest make the number. -/
theorem whole_add_rest (m : Nat) (hone : 0 < one) :
    ((m / one : Nat) : ℚ) + ((m % one : Nat) : ℚ) / one = m / one := by
  have hpos : (0 : ℚ) < one := by exact_mod_cast hone
  have hsplit : (one * (m / one : Nat) : ℚ) + (m % one : Nat) = m := by
    exact_mod_cast Nat.div_add_mod m one
  rw [← hsplit]
  field_simp

theorem isClose_partWord (hone : 0 < one) (hone' : one ≤ 2 ^ 94) :
    IsClose (301 / 100 * ulp) (double.value (partWord m one)) ((m % one : Nat) / one) := by
  have hrest : m % one ≤ 2 ^ 94 := Nat.le_trans (Nat.le_of_lt (Nat.mod_lt m hone)) hone'
  have htop := isClose_natWord (n := m % one) (by omega)
  have hgrid := isClose_natWord (n := one) (by omega)
  have hquot := htop.div hgrid (by norm_num)
  have hexact : Within 190 (((m % one : Nat) : ℚ) / one) :=
    ((Within.natCast hrest).div (Within.natCast hone')).mono (by decide)
  have hwithin : Within 200 (double.value (double.ofRatio (m % one) 1) / double.value (gridWord one)) :=
    (hexact.of_isClose hquot (by norm_num) (div_nonneg (value_nonneg _ _) (value_nonneg _ _))).mono (by decide)
  have hunits : 0 < double.units (gridWord one) :=
    units_pos_of_isClose hgrid (by norm_num) (by exact_mod_cast hone)
  have hround : IsClose ulp (double.value (partWord m one)) _ := isClose_div isWide_double hunits hwithin
  exact (hround.trans (by norm_num) hquot).mono (by norm_num)

theorem isClose_scaledWord (hm : m < 2 ^ 96) (hone : 0 < one) (hone' : one ≤ 2 ^ 94) :
    IsClose (604 / 100 * ulp) (double.value (scaledWord m one)) m := by
  have hpos : (0 : ℚ) < one := by exact_mod_cast hone
  have hwhole : IsClose ulp (double.value (wholeWord m one)) ((m / one : Nat) : ℚ) :=
    isClose_natWord (Nat.le_trans (Nat.div_le_self m one) (by omega))
  have hgrid : IsClose ulp (double.value (gridWord one)) one := isClose_natWord (by omega)
  have hpart : IsClose (301 / 100 * ulp) (double.value (partWord m one)) ((m % one : Nat) / one) :=
    isClose_partWord hone hone'
  have hsum := (hwhole.mono (by norm_num)).add hpart (by positivity) (by positivity)
  rw [whole_add_rest m hone] at hsum
  have hexact : Within 190 ((m : ℚ) / one) :=
    (Within.natCast (Nat.le_of_lt hm)).div (Within.natCast hone')
  have hadd : IsClose ulp (double.value (double.add (wholeWord m one) (partWord m one))) _ :=
    isClose_add isWide_double
      ((hexact.of_isClose hsum (by norm_num) (add_nonneg (value_nonneg _ _) (value_nonneg _ _))).mono (by decide))
  have hproduct := (hadd.trans (by norm_num) hsum).mul hgrid
  rw [div_mul_cancel₀ _ hpos.ne'] at hproduct
  have hwithin := (Within.natCast (Nat.le_of_lt hm)).of_isClose hproduct (by norm_num)
    (mul_nonneg (value_nonneg _ _) (value_nonneg _ _))
  have hmul : IsClose ulp (double.value (scaledWord m one)) _ :=
    isClose_mul isWide_double (hwithin.mono (by decide))
  exact (hmul.trans (by norm_num) hproduct).mono (by norm_num)

/-- **The way over the grid is off by `2 ^ -49` at most.** -/
theorem isClose_griddedWord (hm : m < 2 ^ 96) (hone : 0 < one) (hone' : one ≤ 2 ^ 94) :
    IsClose (1 / 2 ^ 49) (double.value (griddedWord m one)) (m / one) := by
  have hgrid : IsClose ulp (double.value (gridWord one)) one := isClose_natWord (by omega)
  have hback : IsClose (ulp + 2 * (604 / 100 * ulp) + ulp * (2 * (604 / 100 * ulp)))
      (double.value (double.roundWhole (scaledWord m one))) m :=
    isClose_roundWhole isWide_double (Nat.le_of_lt hm) (isClose_scaledWord hm hone hone') (by norm_num)
  have hnumber := hback.div hgrid (by norm_num)
  have hexact : Within 190 ((m : ℚ) / one) :=
    (Within.natCast (Nat.le_of_lt hm)).div (Within.natCast hone')
  have hunits : 0 < double.units (gridWord one) :=
    units_pos_of_isClose hgrid (by norm_num) (by exact_mod_cast hone)
  have hround : IsClose ulp (double.value (griddedWord m one)) _ :=
    isClose_div isWide_double hunits
      ((hexact.of_isClose hnumber (by norm_num) (div_nonneg (value_nonneg _ _) (value_nonneg _ _))).mono (by decide))
  exact (hround.trans (by norm_num) hnumber).mono (by norm_num)

end Errors

/-! ## The binary number -/

theorem pow_ten_le {s : Nat} (hs : s ≤ 28) : Nat.pow 10 s ≤ 2 ^ 94 :=
  Nat.le_trans (Nat.pow_le_pow_right (by decide) hs) (by decide)

theorem quotient_eq (d : Decimal) : d.quotient = (d.magnitude : ℚ) / (Nat.pow 10 d.scale : Nat) := by
  rw [quotient, Nat.pow_eq]
  push_cast
  rfl

/-- If there is nothing behind the point the whole part is all. -/
theorem whole_of_partWord {m one : Nat} (hone : 0 < one) (hone' : one ≤ 2 ^ 94)
    (h : partWord m one = 0) : ((m / one : Nat) : ℚ) = m / one := by
  have hpart : IsClose (301 / 100 * ulp) (double.value (partWord m one)) ((m % one : Nat) / one) :=
    isClose_partWord hone hone'
  rw [h, value_zero] at hpart
  have hrest := hpart.eq_zero (by norm_num)
  rw [← whole_add_rest m hone, hrest, add_zero]

/-- The decimal is a whole number and that is rounded, or the way goes over the grid. -/
theorem wordOf_cases (d : Decimal) :
    (∃ n ≤ d.magnitude, d.wordOf = double.ofRatio n 1 ∧ d.quotient = n) ∨
      partWord d.magnitude (Nat.pow 10 d.scale) ≠ 0 ∧
        d.wordOf = griddedWord d.magnitude (Nat.pow 10 d.scale) := by
  unfold wordOf
  split
  · rename_i hscale
    exact .inl ⟨d.magnitude, le_refl _, rfl, by rw [quotient, hscale, pow_zero, div_one]⟩
  · split
    · rename_i hpart
      have hone : 0 < Nat.pow 10 d.scale := Nat.pow_pos (by decide)
      have hwhole := whole_of_partWord hone (pow_ten_le d.scale_le) hpart
      exact .inl ⟨_, Nat.div_le_self _ _, rfl, by rw [quotient_eq, hwhole]⟩
    · rename_i hpart
      exact .inr ⟨hpart, rfl⟩

/-- **A decimal becomes a binary number that is off by `2 ^ -49` of it at most.** -/
theorem isClose_wordOf (d : Decimal) : IsClose (1 / 2 ^ 49) (double.value d.wordOf) d.quotient := by
  have hm : d.magnitude < 2 ^ 96 := d.magnitude_lt
  obtain ⟨n, hn, hword, hquot⟩ | ⟨-, hword⟩ := d.wordOf_cases
  · rw [hword, hquot]
    exact (isClose_natWord (Nat.le_trans hn (Nat.le_of_lt hm))).mono (by norm_num)
  · rw [hword, quotient_eq]
    exact isClose_griddedWord hm (Nat.pow_pos (by decide)) (pow_ten_le d.scale_le)

theorem wordOf_lt_infinity (d : Decimal) : d.wordOf < double.infinity := by
  have hexact : Within 190 d.quotient := by
    rw [quotient_eq]
    exact (Within.natCast (Nat.le_of_lt d.magnitude_lt)).div (Within.natCast (pow_ten_le d.scale_le))
  refine lt_infinity isWide_double ?_
  rcases hexact.of_isClose d.isClose_wordOf (by norm_num) (value_nonneg _ _) with hzero | ⟨-, hmost⟩
  · rw [hzero]
    positivity
  · exact lt_of_le_of_lt hmost (by norm_num)

/-! ## Short decimals -/

/-- At most 49 bits and 22 places. -/
def IsShort (d : Decimal) : Prop := d.magnitude < 2 ^ 49 ∧ d.scale ≤ 22

theorem value_shortWord {m s : Nat} (hm : m < 2 ^ 53) (hs : s ≤ 22) :
    double.value (double.ofRatio (m * 2 ^ s) 1) = (m * 2 ^ s : Nat) := by
  refine value_ofRatio_of_short isWide_double.precision hm ?_
  refine Nat.le_trans (Nat.mul_le_mul_right _ ?_) isWide_double.high
  have hpow : 2 ^ s ≤ 2 ^ 22 := Nat.pow_le_pow_right (by decide) hs
  exact Nat.le_trans (Nat.mul_le_mul (Nat.le_of_lt hm) hpow) (by decide)

theorem value_gridWord {s : Nat} (hs : s ≤ 22) :
    double.value (gridWord (Nat.pow 10 s)) = (Nat.pow 10 s : Nat) := by
  have hsplit : Nat.pow 10 s = 5 ^ s * 2 ^ s := by
    rw [Nat.pow_eq, ← Nat.mul_pow]
  have hfive : 5 ^ s < 2 ^ 53 := Nat.lt_of_le_of_lt (Nat.pow_le_pow_right (by decide) hs) (by decide)
  rw [gridWord, hsplit]
  exact value_shortWord hfive hs

/-- The way to the grid and back gives the magnitude again. -/
theorem roundWhole_scaledWord {m one : Nat} (hm : m < 2 ^ 49) (hone : 0 < one) (hone' : one ≤ 2 ^ 94) :
    double.roundWhole (scaledWord m one) = double.ofRatio m 1 := by
  have hclose := isClose_scaledWord (Nat.lt_trans hm (by decide)) hone hone'
  have hfar : |double.value (scaledWord m one) - m| < 1 / 2 := by
    have hmag : (m : ℚ) < 2 ^ 49 := by exact_mod_cast hm
    have hsize : |(m : ℚ)| = m := abs_of_nonneg (by positivity)
    rw [IsClose, hsize] at hclose
    refine lt_of_le_of_lt hclose ?_
    norm_num
    linarith
  exact roundWhole_of_abs_lt hfar

theorem isNearest_natWord (n : Nat) : double.IsNearest (double.ofRatio n 1) n := by
  have h := isNearest_ofRatio isWide_double.precision n Nat.one_pos
  rwa [Nat.cast_one, div_one] at h

/-- **A short decimal becomes a nearest binary number.** -/
theorem isNearest_wordOf {d : Decimal} (h : d.IsShort) : double.IsNearest d.wordOf d.quotient := by
  obtain ⟨hm, hs⟩ := h
  have hone : 0 < Nat.pow 10 d.scale := Nat.pow_pos (by decide)
  obtain ⟨n, -, hword, hquot⟩ | ⟨-, hword⟩ := d.wordOf_cases
  · rw [hword, hquot]
    exact isNearest_natWord n
  · have hback : double.value (double.ofRatio d.magnitude 1) = d.magnitude := by
      have hshort := value_shortWord (s := 0) (Nat.lt_trans hm (by decide)) (by decide)
      rwa [Nat.pow_zero, Nat.mul_one] at hshort
    have hgrid := value_gridWord hs
    have hunits : 0 < double.units (gridWord (Nat.pow 10 d.scale)) := by
      refine units_pos_of_isClose (.refl (le_refl 0) _) (by norm_num) ?_
      rw [hgrid]
      exact_mod_cast hone
    have hdiv := isNearest_div isWide_double.precision (double.ofRatio d.magnitude 1) hunits
    rw [hback, hgrid] at hdiv
    rw [hword, quotient_eq, griddedWord, roundWhole_scaledWord hm hone (pow_ten_le d.scale_le)]
    exact hdiv

/-! ## Whole decimals -/

theorem partWord_of_isWhole {d : Decimal} (h : d.isWhole = true) :
    partWord d.magnitude (Nat.pow 10 d.scale) = 0 := by
  have hrest : d.magnitude % Nat.pow 10 d.scale = 0 := by simpa [isWhole] using h
  have hclose : IsClose (301 / 100 * ulp) (double.value (partWord d.magnitude (Nat.pow 10 d.scale))) _ :=
    isClose_partWord (Nat.pow_pos (by decide)) (pow_ten_le d.scale_le)
  rw [hrest, Nat.cast_zero, zero_div, IsClose, sub_zero, abs_zero, mul_zero, abs_nonpos_iff,
    ← value_zero double] at hclose
  exact double.value_strictMono.injective hclose

/-- **A decimal without a broken part becomes a nearest binary number**, however long it is. -/
theorem isNearest_wordOf_of_isWhole {d : Decimal} (h : d.isWhole = true) :
    double.IsNearest d.wordOf d.quotient := by
  obtain ⟨n, -, hword, hquot⟩ | ⟨hpart, -⟩ := d.wordOf_cases
  · rw [hword, hquot]
    exact isNearest_natWord n
  · exact absurd (partWord_of_isWhole h) hpart

/-! ## One rounding -/

/-- The roundings on the way end where one rounding of the decimal does. -/
def IsRoundedOnce (d : Decimal) : Prop := d.wordOf = double.ofRatio d.magnitude (Nat.pow 10 d.scale)

instance (d : Decimal) : Decidable d.IsRoundedOnce := inferInstanceAs (Decidable (_ = _))

theorem isNearest_wordOf_iff (d : Decimal) : double.IsNearest d.wordOf d.quotient ↔ d.IsRoundedOnce := by
  have hone : 0 < Nat.pow 10 d.scale := Nat.pow_pos (by decide)
  have honce := isNearest_ofRatio isWide_double.precision d.magnitude hone
  rw [← quotient_eq] at honce
  refine ⟨fun h => h.unique honce, fun h => ?_⟩
  rw [IsRoundedOnce] at h
  rwa [h]

/-- **Whole and short decimals are rounded as if once.** -/
theorem isRoundedOnce_of {d : Decimal} (h : d.isWhole = true ∨ d.IsShort) : d.IsRoundedOnce :=
  d.isNearest_wordOf_iff.1 (h.elim isNearest_wordOf_of_isWhole isNearest_wordOf)

/-- The way to the grid and back can miss even a number that needs no rounding. -/
example : ¬ (⟨false, 9733515321407125, 1, by decide, by decide⟩ : Decimal).IsRoundedOnce := by decide +kernel

end Decimal

end ParamQuery.Number
