/-
Decimals with an exponent, rounded to a binary format.

`IsBounded.isNearest_ofDecimal`: the word of a decimal is nearest to it. The
powers of ten that are not computed are far enough outside of the format:
what is above `10 ^ 310` is above infinity, and what is below `10 ^ -331` is
nearer to zero than to the smallest number.
-/
import Mathlib.Algebra.Order.Field.Power
import ParamQuery.Number.Literal
import ParamQuery.Proofs.Number.Digits
import ParamQuery.Proofs.Number.Halfway

namespace ParamQuery.Number

/-- The number that a decimal is written for. -/
def Scientific.value (d : Scientific) : ℚ := d.significand * 10 ^ d.exponent

/-! ## Digits -/

theorem lt_pow_length_digits (n : Nat) : n < 10 ^ (digits n).length := by
  induction n using digits.induct with
  | case1 n h =>
    rw [digits, if_pos h]
    simpa using h
  | case2 n h ih =>
    rw [digits, if_neg h, List.length_append, List.length_singleton, Nat.pow_succ]
    omega

theorem pow_length_digits_le {n : Nat} (hn : n ≠ 0) : 10 ^ ((digits n).length - 1) ≤ n := by
  by_contra hlt
  rcases Nat.eq_zero_or_pos ((digits n).length - 1) with hzero | hpos
  · rw [hzero] at hlt
    omega
  · have := length_digits_le hpos (Nat.lt_of_not_le hlt)
    omega

namespace Scientific

variable {d : Scientific}

/-- The exponent behind the first digit: `value_lt` and `le_value` say what it bounds. -/
def top (d : Scientific) : Int := d.exponent + (digits d.significand).length

theorem value_lt (d : Scientific) : d.value < 10 ^ d.top := by
  have hsignificand : (d.significand : ℚ) < 10 ^ ((digits d.significand).length : ℤ) := by
    rw [zpow_natCast]
    exact_mod_cast lt_pow_length_digits d.significand
  rw [value, top, add_comm, zpow_add₀ (by norm_num)]
  exact mul_lt_mul_of_pos_right hsignificand (by positivity)

theorem le_value (hd : d.significand ≠ 0) : 10 ^ (d.top - 1) ≤ d.value := by
  have hlength : 0 < (digits d.significand).length := List.length_pos_iff.2 (digits_ne_nil _)
  have hexp : d.top - 1 = (((digits d.significand).length - 1 : Nat) : ℤ) + d.exponent := by
    unfold top
    omega
  have hsignificand : (10 : ℚ) ^ (((digits d.significand).length - 1 : Nat) : ℤ) ≤ d.significand := by
    rw [zpow_natCast]
    exact_mod_cast pow_length_digits_le hd
  rw [value, hexp, zpow_add₀ (by norm_num)]
  exact mul_le_mul_of_nonneg_right hsignificand (by positivity)

theorem value_nonneg (d : Scientific) : 0 ≤ d.value := by
  unfold value
  positivity

/-- The quotient of two natural numbers that a decimal is. -/
theorem value_eq (d : Scientific) :
    d.value = (d.significand * Nat.pow 10 d.exponent.toNat : Nat) / (Nat.pow 10 (-d.exponent).toNat : Nat) := by
  rw [value, Nat.pow_eq, Nat.pow_eq]
  rcases Int.le_total 0 d.exponent with h | h
  · obtain ⟨n, hn⟩ := Int.eq_ofNat_of_zero_le h
    simp [hn]
  · obtain ⟨n, hn⟩ := Int.eq_ofNat_of_zero_le (Int.neg_nonneg.2 h)
    have hexp : d.exponent = -n := by omega
    simp [hexp, div_eq_mul_inv]

end Scientific

namespace BinaryFormat

variable {f : BinaryFormat} {x : ℚ}

/-! ## Far outside -/

theorem isNearest_infinity (h : f.value f.infinity ≤ x) : f.IsNearest f.infinity x := by
  have habs : ∀ v ≤ f.infinity, |f.value v - x| = x - f.value v := by
    intro v hv
    have := f.value_strictMono.monotone hv
    rw [abs_of_nonpos (by linarith), neg_sub]
  refine ⟨Nat.le_refl _, fun v hv => ?_, fun v hv heq hne => ?_⟩
  · have := f.value_strictMono.monotone hv
    rw [habs _ (Nat.le_refl _), habs v hv]
    linarith
  · have := f.value_strictMono (Nat.lt_of_le_of_ne hv hne)
    rw [habs _ (Nat.le_refl _), habs v hv] at heq
    linarith

theorem isNearest_zero (hx : 0 ≤ x) (h : 2 * x ≤ f.value 1) : f.IsNearest 0 x := by
  refine ⟨Nat.zero_le _, fun v _ => ?_, fun _ _ _ _ => rfl⟩
  rw [value_zero, zero_sub, abs_neg, abs_of_nonneg hx]
  rcases Nat.eq_zero_or_pos v with rfl | hv
  · rw [value_zero, zero_sub, abs_neg, abs_of_nonneg hx]
  · have := f.value_strictMono.monotone (show 1 ≤ v from hv)
    rw [abs_of_nonneg (by linarith)]
    linarith

/-- A format of which both ends are within the powers of ten that are computed. -/
structure IsBounded (f : BinaryFormat) : Prop where
  precision : 1 < f.precision
  high : f.value f.infinity ≤ 10 ^ (310 : ℤ)
  low : 2 * 10 ^ (-331 : ℤ) ≤ f.value 1

/-- **A decimal becomes a nearest word.** -/
theorem IsBounded.isNearest_ofDecimal (hf : f.IsBounded) (d : Scientific) :
    f.IsNearest (f.ofDecimal d) d.value := by
  unfold ofDecimal
  split
  · rename_i hzero
    have hvalue : d.value = 0 := by simp [Scientific.value, hzero]
    rw [hvalue]
    exact isNearest_zero (le_refl 0) (by simpa using f.value_nonneg 1)
  · rename_i hpos
    show f.IsNearest (if 310 < d.top then _ else if d.top < -330 then _ else _) _
    split
    · rename_i hhigh
      have hpow : (10 : ℚ) ^ (310 : ℤ) ≤ 10 ^ (d.top - 1) := zpow_le_zpow_right₀ (by norm_num) (by omega)
      exact isNearest_infinity (hf.high.trans (hpow.trans (d.le_value hpos)))
    · split
      · rename_i hlow
        have hpow : (10 : ℚ) ^ d.top ≤ 10 ^ (-331 : ℤ) := zpow_le_zpow_right₀ (by norm_num) (by omega)
        have := d.value_lt
        have := hf.low
        exact isNearest_zero d.value_nonneg (by linarith)
      · rw [d.value_eq]
        exact isNearest_ofRatio hf.precision _ (Nat.pow_pos (by decide))

/-! ## The formats of 32 and 64 bits -/

theorem value_infinity {k : Nat} (h : f.infinity = (k + 1) * f.hidden) :
    f.value f.infinity = f.hidden * 2 ^ k / 2 ^ f.scale := by
  have hunits := units_of_step f.hidden_pos k
  rw [Nat.add_zero, Nat.zero_add] at hunits
  rw [value, h, hunits]
  push_cast
  rfl

theorem value_infinity_single : single.value single.infinity = 2 ^ 128 := by
  have hk : single.infinity = (254 + 1) * single.hidden := by decide
  have hhidden : single.hidden = 2 ^ 23 := rfl
  have hscale : single.scale = 149 := rfl
  rw [value_infinity hk, hhidden, hscale, Nat.cast_pow, Nat.cast_ofNat, ← pow_add,
    div_eq_iff (by positivity), ← pow_add]

theorem value_infinity_double : double.value double.infinity = 2 ^ 1024 := by
  have hk : double.infinity = (2046 + 1) * double.hidden := by decide
  have hhidden : double.hidden = 2 ^ 52 := rfl
  have hscale : double.scale = 1074 := rfl
  rw [value_infinity hk, hhidden, hscale, Nat.cast_pow, Nat.cast_ofNat, ← pow_add,
    div_eq_iff (by positivity), ← pow_add]

/-- What is no wider than 64 bits is bounded. -/
theorem isBounded_of_le (hp : 1 < f.precision) (hhigh : f.value f.infinity ≤ 2 ^ 1024) (hscale : f.scale ≤ 1074) :
    f.IsBounded := by
  have hgreat : (2 ^ 1024 : Nat) ≤ 10 ^ 310 := by decide +kernel
  have hsmall : (2 ^ 1075 : Nat) ≤ 10 ^ 331 := by decide +kernel
  have hone : 1 < f.hidden := Nat.one_lt_two_pow (by omega)
  refine ⟨hp, hhigh.trans (by exact_mod_cast hgreat), ?_⟩
  have hnat : 2 ^ (f.scale + 1) ≤ 10 ^ 331 :=
    Nat.le_trans (Nat.pow_le_pow_right (by decide) (by omega)) hsmall
  have hpow : (2 : ℚ) ^ (f.scale + 1) ≤ 10 ^ 331 := by exact_mod_cast hnat
  rw [value, units_of_lt hone, Nat.cast_one, zpow_neg, zpow_ofNat, ← div_eq_mul_inv,
    div_le_div_iff₀ (by positivity) (by positivity), one_mul, ← pow_succ']
  exact hpow

theorem isBounded_single : single.IsBounded := by
  refine isBounded_of_le (by decide) ?_ (by decide)
  rw [value_infinity_single]
  exact pow_le_pow_right₀ (by norm_num) (by norm_num)

theorem isBounded_double : double.IsBounded :=
  isBounded_of_le (by decide) value_infinity_double.le (by decide)

theorem isFiner_double_single : double.IsFiner single where
  precision := by decide
  scale := by decide
  reach := by
    rw [value_infinity_single, value_infinity_double]
    exact pow_le_pow_right₀ (by norm_num) (by norm_num)

end BinaryFormat

end ParamQuery.Number
