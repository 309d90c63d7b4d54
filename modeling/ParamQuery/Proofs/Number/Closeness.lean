/-
Relative errors, and those of binary numbers.

`IsClose ε y x`: `y` is `x` up to a part `ε` of `x`. Errors of what goes
into a product, a quotient or a sum of positive numbers become an error of
the result. `isClose_ofRatio` and its kin: a number of 64 bits that is
rounded is close to `2 ^ -53`, as long as it is far from the ends of the
format; and `value_ofRatio_of_short`: it is exact if it needs at most 53
bits.
-/
import Mathlib.Tactic.NormNum
import Mathlib.Tactic.Ring
import ParamQuery.Proofs.Number.Nearest

namespace ParamQuery.Number

/-- `y` is `x` up to a part `ε` of it. -/
def IsClose (ε y x : ℚ) : Prop := |y - x| ≤ ε * |x|

namespace IsClose

variable {a b x x' y y' z : ℚ}

theorem refl (ha : 0 ≤ a) (x : ℚ) : IsClose a x x := by
  rw [IsClose, sub_self, abs_zero]
  exact mul_nonneg ha (abs_nonneg x)

theorem mono (h : IsClose a y x) (hab : a ≤ b) : IsClose b y x :=
  le_trans h (mul_le_mul_of_nonneg_right hab (abs_nonneg x))

theorem abs_le (h : IsClose a y x) : |y| ≤ (1 + a) * |x| := by
  have htriangle := abs_sub_abs_le_abs_sub y x
  unfold IsClose at h
  linarith

theorem eq_zero (h : IsClose a 0 x) (ha : a < 1) : x = 0 := by
  rw [IsClose, zero_sub, abs_neg] at h
  have habs := abs_nonneg x
  have hzero : |x| = 0 := by nlinarith
  exact abs_eq_zero.1 hzero

theorem le_abs (h : IsClose a y x) : (1 - a) * |x| ≤ |y| := by
  have htriangle := abs_sub_abs_le_abs_sub x y
  rw [abs_sub_comm] at htriangle
  unfold IsClose at h
  linarith

theorem trans (ha : 0 ≤ a) (h : IsClose a z y) (h' : IsClose b y x) : IsClose (a + b + a * b) z x := by
  have hy := mul_le_mul_of_nonneg_left h'.abs_le ha
  have htriangle := abs_sub_le z y x
  unfold IsClose at h h' ⊢
  linarith

theorem mul (h : IsClose a y x) (h' : IsClose b y' x') :
    IsClose (a + b + a * b) (y * y') (x * x') := by
  have hsplit : y * y' - x * x' = (y - x) * x' + y * (y' - x') := by ring
  have hfirst : |y - x| * |x'| ≤ a * |x| * |x'| := mul_le_mul_of_nonneg_right h (abs_nonneg x')
  have hsecond : |y| * |y' - x'| ≤ (1 + a) * |x| * (b * |x'|) :=
    mul_le_mul h.abs_le h' (abs_nonneg _) (le_trans (abs_nonneg y) h.abs_le)
  have htriangle := abs_add_le ((y - x) * x') (y * (y' - x'))
  rw [abs_mul, abs_mul] at htriangle
  rw [IsClose, hsplit, abs_mul]
  linarith

theorem inv (h : IsClose b y x) (hb : b < 1) : IsClose (b / (1 - b)) y⁻¹ x⁻¹ := by
  rcases eq_or_ne x 0 with rfl | hx
  · have hy : y = 0 := by simpa [IsClose] using h
    rw [hy, IsClose, sub_self, abs_zero, inv_zero, abs_zero, mul_zero]
  · have hxpos : 0 < |x| := abs_pos.2 hx
    have hone : 0 < 1 - b := by linarith
    have hleast : (1 - b) * |x| ≤ |y| := h.le_abs
    have hypos : 0 < |y| := lt_of_lt_of_le (mul_pos hone hxpos) hleast
    have hy : y ≠ 0 := abs_pos.1 hypos
    have hb0 : 0 ≤ b := nonneg_of_mul_nonneg_left (le_trans (abs_nonneg _) h) hxpos
    have hdiff : y⁻¹ - x⁻¹ = (x - y) / (y * x) := by field_simp
    rw [IsClose, hdiff, abs_div, abs_mul, abs_sub_comm, abs_inv]
    calc |y - x| / (|y| * |x|)
        ≤ b * |x| / ((1 - b) * |x| * |x|) :=
          div_le_div₀ (mul_nonneg hb0 hxpos.le) h (by positivity)
            (mul_le_mul_of_nonneg_right hleast hxpos.le)
      _ = b / (1 - b) * |x|⁻¹ := by field_simp

theorem div (h : IsClose a y x) (h' : IsClose b y' x') (hb : b < 1) :
    IsClose (a + b / (1 - b) + a * (b / (1 - b))) (y / y') (x / x') := by
  rw [div_eq_mul_inv, div_eq_mul_inv]
  exact h.mul (h'.inv hb)

theorem add (h : IsClose a y x) (h' : IsClose a y' x') (hx : 0 ≤ x) (hx' : 0 ≤ x') :
    IsClose a (y + y') (x + x') := by
  have hsplit : y + y' - (x + x') = (y - x) + (y' - x') := by ring
  have htriangle := abs_add_le (y - x) (y' - x')
  rw [IsClose, abs_of_nonneg hx] at h
  rw [IsClose, abs_of_nonneg hx'] at h'
  rw [IsClose, hsplit, abs_of_nonneg (add_nonneg hx hx')]
  linarith

end IsClose

/-! ## Orders of magnitude -/

/-- Zero, or at most `k` doublings away from one. -/
def Within (k : Nat) (x : ℚ) : Prop := x = 0 ∨ 1 / 2 ^ k ≤ x ∧ x ≤ 2 ^ k

namespace Within

variable {i k : Nat} {a x y : ℚ}

theorem mono (h : Within i x) (hik : i ≤ k) : Within k x := by
  have hpow : (2 : ℚ) ^ i ≤ 2 ^ k := pow_le_pow_right₀ (by norm_num) hik
  refine h.imp_right fun ⟨hleast, hmost⟩ => ⟨le_trans ?_ hleast, le_trans hmost hpow⟩
  exact one_div_le_one_div_of_le (by positivity) hpow

theorem natCast {n : Nat} (h : n ≤ 2 ^ k) : Within k n := by
  rcases Nat.eq_zero_or_pos n with rfl | hpos
  · exact .inl Nat.cast_zero
  · have hone : (1 : ℚ) ≤ n := by exact_mod_cast hpos
    have hpow : (1 : ℚ) ≤ 2 ^ k := one_le_pow₀ (by norm_num)
    refine .inr ⟨le_trans ?_ hone, by exact_mod_cast h⟩
    rw [div_le_one (by positivity)]
    exact hpow

theorem mul (h : Within i x) (h' : Within k y) : Within (i + k) (x * y) := by
  rcases h with rfl | ⟨hleast, hmost⟩
  · exact .inl (zero_mul y)
  · rcases h' with rfl | ⟨hleast', hmost'⟩
    · exact .inl (mul_zero x)
    · have hx : 0 ≤ x := le_trans (by positivity) hleast
      have hy : 0 ≤ y := le_trans (by positivity) hleast'
      refine .inr ⟨?_, ?_⟩
      · have hone : (1 : ℚ) / 2 ^ (i + k) = 1 / 2 ^ i * (1 / 2 ^ k) := by
          rw [pow_add]
          field_simp
        rw [hone]
        exact mul_le_mul hleast hleast' (by positivity) hx
      · rw [pow_add]
        exact mul_le_mul hmost hmost' hy (by positivity)

theorem inv (h : Within k x) : Within k x⁻¹ := by
  rcases h with rfl | ⟨hleast, hmost⟩
  · exact .inl inv_zero
  · have hx : 0 < x := lt_of_lt_of_le (by positivity) hleast
    refine .inr ⟨?_, ?_⟩
    · rw [one_div]
      exact inv_anti₀ hx hmost
    · rw [inv_le_comm₀ hx (by positivity), ← one_div]
      exact hleast

theorem div (h : Within i x) (h' : Within k y) : Within (i + k) (x / y) := by
  rw [div_eq_mul_inv]
  exact h.mul h'.inv

theorem nonneg (h : Within k x) : 0 ≤ x := by
  rcases h with rfl | ⟨hleast, -⟩
  · exact le_refl 0
  · exact le_trans (by positivity) hleast

/-- What is close is at most one doubling further away. -/
theorem of_isClose (h : Within k x) (hclose : IsClose a y x) (ha : a ≤ 1 / 2) (hy : 0 ≤ y) :
    Within (k + 1) y := by
  have hhalf := hclose.mono ha
  have hmost := hhalf.abs_le
  have hleast := hhalf.le_abs
  rw [abs_of_nonneg h.nonneg, abs_of_nonneg hy] at hmost hleast
  rcases h with rfl | ⟨hx, hx'⟩
  · exact .inl (le_antisymm (by linarith) hy)
  · have hpow : (2 : ℚ) ^ (k + 1) = 2 * 2 ^ k := by ring
    refine .inr ⟨?_, by linarith⟩
    have hone : (1 : ℚ) / 2 ^ (k + 1) = 1 / 2 * (1 / 2 ^ k) := by
      rw [hpow]
      field_simp
    linarith

end Within

theorem roundHalfEven_mul (a : Nat) {b : Nat} (hb : 0 < b) : roundHalfEven (a * b) b = a :=
  Nat.le_antisymm (roundHalfEven_le hb (Nat.le_refl _)) (le_roundHalfEven hb (Nat.le_refl _))

namespace BinaryFormat

variable {f : BinaryFormat} {num den : Nat}

/-! ## Rounding -/

theorem unbounded_le_infinity (hp : 1 < f.precision) (hd : 0 < den)
    (h : num ≤ f.units f.infinity * den) : f.unbounded num den ≤ f.infinity := by
  by_contra hgt
  have hnearest := (unbounded_nearest num hp hd f.infinity).1
  have hmore := Nat.mul_lt_mul_of_pos_right ((units_strictMono f) (Nat.lt_of_not_le hgt)) hd
  unfold Nat.dist at hnearest
  omega

/-- What rounding changes is less than half of the last bit of a full significand. -/
theorem dist_ofUnits_le (hp : 1 < f.precision) (hd : 0 < den) (hleast : f.hidden * den ≤ num)
    (hmost : num ≤ f.units f.infinity * den) :
    2 * f.hidden * Nat.dist num (f.units (f.ofUnits num den) * den) ≤ num := by
  have hb : 0 < den * 2 ^ f.doublings num den := Nat.mul_pos hd (Nat.two_pow_pos _)
  have hstep : f.hidden * (den * 2 ^ f.doublings num den) ≤ num := by
    rcases doublings_le num hp hd with hzero | hle
    · rw [hzero, Nat.pow_zero, Nat.mul_one]
      exact hleast
    · exact hle
  rw [ofUnits_eq, Nat.min_eq_left (unbounded_le_infinity hp hd hmost), units_unbounded num hp hd,
    Nat.mul_assoc _ _ den, Nat.mul_comm _ den]
  obtain ⟨hle, hge, -⟩ := roundHalfEven_spec (a := num) hb
  generalize den * 2 ^ f.doublings num den = b at hle hge hstep
  have hhalf : 2 * Nat.dist num (roundHalfEven num b * b) ≤ b := by
    unfold Nat.dist
    omega
  have hmul := Nat.mul_le_mul_left f.hidden hhalf
  rw [← Nat.mul_assoc, Nat.mul_comm f.hidden] at hmul
  omega

theorem ofUnits_zero (hp : 1 < f.precision) (den : Nat) : f.ofUnits 0 den = 0 := by
  have hdoublings : f.doublings 0 den = 0 := by
    rw [doublings, Nat.zero_div, Nat.log2_zero]
    omega
  have hround : roundHalfEven 0 (den * 2 ^ f.doublings 0 den) = 0 := by simp [roundHalfEven]
  rw [ofUnits_eq, unbounded, hround, hdoublings, Nat.zero_mul, Nat.min_eq_left (Nat.zero_le _)]

/-- **A number that needs no more bits than the significand has is exact.** -/
theorem value_ofRatio_of_short (hp : 1 < f.precision) {m s : Nat} (hm : m < 2 * f.hidden)
    (hmost : m * 2 ^ s * 2 ^ f.scale ≤ f.units f.infinity) :
    f.value (f.ofRatio (m * 2 ^ s) 1) = (m * 2 ^ s : Nat) := by
  have hdoublings : f.doublings (m * 2 ^ s * 2 ^ f.scale) 1 ≤ s + f.scale := by
    rcases Nat.eq_zero_or_pos m with rfl | hpos
    · rw [Nat.zero_mul, Nat.zero_mul, doublings, Nat.zero_div, Nat.log2_zero]
      omega
    · have hne : m * 2 ^ s * 2 ^ f.scale ≠ 0 := by positivity
      have hlt : m * 2 ^ s * 2 ^ f.scale < 2 ^ (f.precision + (s + f.scale)) := by
        rw [Nat.pow_add, ← two_mul_hidden hp, Nat.mul_assoc, ← Nat.pow_add]
        exact Nat.mul_lt_mul_of_pos_right hm (Nat.two_pow_pos _)
      have hlog := (Nat.log2_lt hne).2 hlt
      rw [doublings, Nat.div_one]
      omega
  have hunits : f.units (f.ofUnits (m * 2 ^ s * 2 ^ f.scale) 1) = m * 2 ^ s * 2 ^ f.scale := by
    have hmost' : m * 2 ^ s * 2 ^ f.scale ≤ f.units f.infinity * 1 := by rwa [Nat.mul_one]
    rw [ofUnits_eq, Nat.min_eq_left (unbounded_le_infinity hp Nat.one_pos hmost'),
      units_unbounded _ hp Nat.one_pos, Nat.one_mul]
    have hsplit : ∀ k ≤ s + f.scale, m * 2 ^ s * 2 ^ f.scale = m * 2 ^ (s + f.scale - k) * 2 ^ k := by
      intro k hk
      rw [Nat.mul_assoc, Nat.mul_assoc, ← Nat.pow_add, ← Nat.pow_add, Nat.sub_add_cancel hk]
    have hround : ∀ k ≤ s + f.scale,
        roundHalfEven (m * 2 ^ s * 2 ^ f.scale) (2 ^ k) * 2 ^ k = m * 2 ^ s * 2 ^ f.scale := by
      intro k hk
      rw [hsplit k hk, roundHalfEven_mul _ (Nat.two_pow_pos k)]
    exact hround _ hdoublings
  rw [ofRatio, value, Nat.pow_eq, hunits]
  push_cast
  field_simp

/-! ## Wide formats -/

/-- A format of which both ends are far from numbers that are neither small nor great. -/
structure IsWide (f : BinaryFormat) : Prop where
  precision : 1 < f.precision
  low : f.hidden * 2 ^ 200 ≤ 2 ^ f.scale
  high : 2 ^ 200 * 2 ^ f.scale ≤ f.units f.infinity

theorem isWide_double : double.IsWide := by
  have hhidden : double.hidden = 2 ^ 52 := rfl
  refine ⟨by decide, ?_, ?_⟩
  · have hexp : 52 + 200 ≤ double.scale := by decide
    rw [hhidden, ← Nat.pow_add]
    exact Nat.pow_le_pow_right (by decide) hexp
  · obtain ⟨k, hexp, hword⟩ : ∃ k, 200 + double.scale ≤ 52 + k ∧
        double.infinity = k * double.hidden + double.hidden := ⟨2046, by decide, by decide⟩
    rw [hword, units_scaled (by omega) (.inr (Nat.le_refl _)), hhidden, ← Nat.pow_add, ← Nat.pow_add]
    exact Nat.pow_le_pow_right (by decide) hexp

/-- **Rounding has a relative error of at most half of the last bit.** -/
theorem isClose_ofUnits (hf : f.IsWide) (hd : 0 < den) (h : Within 200 (num / den / 2 ^ f.scale)) :
    IsClose (1 / 2 ^ f.precision) (f.value (f.ofUnits num den)) (num / den / 2 ^ f.scale) := by
  have hden : (0 : ℚ) < den := by exact_mod_cast hd
  rcases h with hzero | ⟨hleast, hmost⟩
  · have hnum : num = 0 := by
      rw [div_div, div_eq_zero_iff] at hzero
      rcases hzero with h | h
      · exact_mod_cast h
      · exact absurd h (by positivity)
    rw [hzero, hnum, ofUnits_zero hf.precision, value_zero]
    exact .refl (by positivity) 0
  · have hbelow : f.hidden * den ≤ num := by
      rw [div_div, div_le_div_iff₀ (by positivity) (by positivity), one_mul] at hleast
      have hcross : den * 2 ^ f.scale ≤ num * 2 ^ 200 := by exact_mod_cast hleast
      have hlow := Nat.mul_le_mul_left den hf.low
      rw [← Nat.mul_assoc, Nat.mul_comm den] at hlow
      exact Nat.le_of_mul_le_mul_right (Nat.le_trans hlow hcross) (Nat.two_pow_pos 200)
    have habove : num ≤ f.units f.infinity * den := by
      rw [div_div, div_le_iff₀ (by positivity)] at hmost
      have hcross : num ≤ 2 ^ 200 * (den * 2 ^ f.scale) := by exact_mod_cast hmost
      have hhigh := Nat.mul_le_mul_right den hf.high
      rw [Nat.mul_assoc, Nat.mul_comm _ den] at hhigh
      exact Nat.le_trans hcross hhigh
    have hdist : (2 ^ f.precision : ℚ) * Nat.dist num (f.units (f.ofUnits num den) * den) ≤ num := by
      have hnat := dist_ofUnits_le hf.precision hd hbelow habove
      rw [two_mul_hidden hf.precision] at hnat
      exact_mod_cast hnat
    have hpos : (0 : ℚ) < den * 2 ^ f.scale := by positivity
    have hbound := div_le_div_of_nonneg_right hdist hpos.le
    rw [mul_div_assoc] at hbound
    rw [IsClose, abs_value_sub f num hd, abs_of_nonneg (by positivity), div_div, one_div, ← div_eq_inv_mul,
      le_div_iff₀ (by positivity), mul_comm]
    exact hbound

theorem isClose_ofRatio (hf : f.IsWide) (hd : 0 < den) (h : Within 200 (num / den)) :
    IsClose (1 / 2 ^ f.precision) (f.value (f.ofRatio num den)) (num / den) := by
  have hunits : ((num * Nat.pow 2 f.scale : Nat) : ℚ) / den / 2 ^ f.scale = num / den := by
    rw [Nat.pow_eq]
    push_cast
    field_simp
  rw [← hunits] at h ⊢
  exact isClose_ofUnits hf hd h

section Operations

variable {v w : Nat}

theorem isClose_add (hf : f.IsWide) (h : Within 200 (f.value v + f.value w)) :
    IsClose (1 / 2 ^ f.precision) (f.value (f.add v w)) (f.value v + f.value w) := by
  have hunits : ((f.units v + f.units w : Nat) : ℚ) / (1 : Nat) / 2 ^ f.scale = f.value v + f.value w := by
    rw [value, value]
    push_cast
    ring
  rw [← hunits] at h ⊢
  exact isClose_ofUnits hf Nat.one_pos h

theorem isClose_mul (hf : f.IsWide) (h : Within 200 (f.value v * f.value w)) :
    IsClose (1 / 2 ^ f.precision) (f.value (f.mul v w)) (f.value v * f.value w) := by
  have hunits : ((f.units v * f.units w : Nat) : ℚ) / (Nat.pow 2 f.scale : Nat) / 2 ^ f.scale =
      f.value v * f.value w := by
    rw [value, value, Nat.pow_eq]
    push_cast
    field_simp
  rw [← hunits] at h ⊢
  exact isClose_ofUnits hf (Nat.two_pow_pos _) h

theorem isClose_div (hf : f.IsWide) (hw : 0 < f.units w) (h : Within 200 (f.value v / f.value w)) :
    IsClose (1 / 2 ^ f.precision) (f.value (f.div v w)) (f.value v / f.value w) := by
  rw [← quotient_units f v hw] at h ⊢
  exact isClose_ofUnits hf hw h

end Operations

/-- A number that is not great is below infinity. -/
theorem lt_infinity (hf : f.IsWide) {w : Nat} (h : f.value w < 2 ^ 200) : w < f.infinity := by
  by_contra hge
  have hunits := (units_strictMono f).monotone (Nat.le_of_not_lt hge)
  have hhigh : (2 ^ 200 * 2 ^ f.scale : ℚ) ≤ f.units w := by exact_mod_cast Nat.le_trans hf.high hunits
  rw [value, div_lt_iff₀ (by positivity)] at h
  linarith

end BinaryFormat

end ParamQuery.Number
