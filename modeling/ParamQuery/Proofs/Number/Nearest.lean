/-
Words of a binary format are in the order of their numbers, and rounding
gives a nearest one.

The exact number is `num / den` units, so all distances are compared as
natural numbers, after multiplying with `den`. Infinity takes part like a
word: it stands for the power of two behind the greatest finite number.

`isNearest_ofRatio`: the word of a quotient is nearest to it among all
words up to infinity, and of two equally near ones it is the even one.
`isNearest_value`: so is the word of what another format's word stands for.
-/
import Mathlib.Data.Nat.Dist
import Mathlib.Data.Rat.Cast.Order
import Mathlib.Order.Monotone.Basic
import Mathlib.Tactic.FieldSimp
import Mathlib.Tactic.Linarith
import Mathlib.Tactic.Positivity
import ParamQuery.Number.Binary

namespace ParamQuery.Number

/-! ## The nearest multiple -/

theorem mul_side {i j : Nat} (h : i ≠ j) (b : Nat) : i * b + b ≤ j * b ∨ j * b + b ≤ i * b := by
  rcases Nat.lt_or_gt_of_ne h with hlt | hgt
  · have := Nat.mul_le_mul_right b hlt
    rw [Nat.succ_mul] at this
    exact .inl this
  · have := Nat.mul_le_mul_right b hgt
    rw [Nat.succ_mul] at this
    exact .inr this

theorem roundHalfEven_nearest {a b : Nat} (hb : 0 < b) (j : Nat) :
    Nat.dist a (roundHalfEven a b * b) ≤ Nat.dist a (j * b) ∧
      (Nat.dist a (roundHalfEven a b * b) = Nat.dist a (j * b) → j ≠ roundHalfEven a b →
        roundHalfEven a b % 2 = 0) := by
  obtain ⟨hle, hge, heven⟩ := roundHalfEven_spec (a := a) hb
  unfold Nat.dist
  by_cases hj : j = roundHalfEven a b
  · subst hj
    exact ⟨Nat.le_refl _, fun _ hne => absurd rfl hne⟩
  · have hside := mul_side hj b
    exact ⟨by omega, fun heq _ => heven (by omega)⟩

theorem roundHalfEven_le {a b c : Nat} (hb : 0 < b) (h : a ≤ c * b) : roundHalfEven a b ≤ c := by
  obtain ⟨hle, -, -⟩ := roundHalfEven_spec (a := a) hb
  by_contra hgt
  have := Nat.mul_le_mul_right b (Nat.lt_of_not_le hgt)
  rw [Nat.succ_mul] at this
  omega

theorem le_roundHalfEven {a b c : Nat} (hb : 0 < b) (h : c * b ≤ a) : c ≤ roundHalfEven a b := by
  obtain ⟨-, hge, -⟩ := roundHalfEven_spec (a := a) hb
  by_contra hlt
  have := Nat.mul_le_mul_right b (Nat.lt_of_not_le hlt)
  rw [Nat.succ_mul] at this
  omega

namespace BinaryFormat

variable {f : BinaryFormat}

/-! ## Words and units -/

theorem hidden_pos : 0 < f.hidden := Nat.two_pow_pos _

theorem two_mul_hidden (hp : 1 < f.precision) : 2 * f.hidden = 2 ^ f.precision := by
  rw [hidden, Nat.pow_eq, ← Nat.pow_succ']
  congr 1
  omega

theorem hidden_even (hp : 1 < f.precision) : f.hidden % 2 = 0 := by
  have hsucc : f.precision - 1 = f.precision - 2 + 1 := by omega
  rw [hidden, Nat.pow_eq, hsucc, Nat.pow_succ, Nat.mul_mod_left]

theorem units_of_lt {w : Nat} (h : w < f.hidden) : f.units w = w := by
  have hdiv : w / f.hidden = 0 := Nat.div_eq_of_lt h
  rw [units, significand, if_pos hdiv, shift, hdiv, Nat.mod_eq_of_lt h]
  exact Nat.mul_one w

theorem units_of_step {m : Nat} (h : m < f.hidden) (s : Nat) :
    f.units ((s + 1) * f.hidden + m) = (m + f.hidden) * 2 ^ s := by
  have hdiv : ((s + 1) * f.hidden + m) / f.hidden = s + 1 := by
    rw [Nat.add_comm, Nat.add_mul_div_right _ _ hidden_pos, Nat.div_eq_of_lt h, Nat.zero_add]
  have hmod : ((s + 1) * f.hidden + m) % f.hidden = m := by
    rw [Nat.add_comm, Nat.add_mul_mod_self_right, Nat.mod_eq_of_lt h]
  rw [units, significand, shift, hdiv, hmod, if_neg (Nat.succ_ne_zero s)]
  rfl

/-- Every word is that of a small number, or has an exponent and a rest. -/
theorem word_cases (f : BinaryFormat) (w : Nat) :
    w < f.hidden ∨ ∃ s m, m < f.hidden ∧ w = (s + 1) * f.hidden + m := by
  rcases Nat.lt_or_ge w f.hidden with h | h
  · exact .inl h
  · have hdiv : 0 < w / f.hidden := Nat.div_pos h hidden_pos
    refine .inr ⟨w / f.hidden - 1, w % f.hidden, Nat.mod_lt _ hidden_pos, ?_⟩
    rw [Nat.sub_add_cancel hdiv, Nat.mul_comm]
    exact (Nat.div_add_mod w f.hidden).symm

/-- A significand of at most one bit too many, behind `k` doublings. The carry is right by itself:
the word is one exponent further. -/
theorem units_scaled {k r : Nat} (hr : r ≤ 2 * f.hidden) (hk : k = 0 ∨ f.hidden ≤ r) :
    f.units (k * f.hidden + r) = r * 2 ^ k := by
  rcases Nat.lt_or_ge r f.hidden with hlt | hge
  · have hzero : k = 0 := hk.resolve_right (by omega)
    rw [hzero, Nat.zero_mul, Nat.zero_add, units_of_lt hlt, Nat.pow_zero, Nat.mul_one]
  · rcases Nat.lt_or_ge (r - f.hidden) f.hidden with hlt | hcarry
    · have hword : k * f.hidden + r = (k + 1) * f.hidden + (r - f.hidden) := by
        rw [Nat.succ_mul]
        omega
      rw [hword, units_of_step hlt, Nat.sub_add_cancel hge]
    · have hword : k * f.hidden + r = (k + 1 + 1) * f.hidden + 0 := by
        rw [Nat.succ_mul, Nat.succ_mul]
        omega
      have hdouble : r = 2 * f.hidden := by omega
      rw [hword, units_of_step hidden_pos, hdouble, Nat.zero_add, Nat.pow_succ, Nat.mul_comm 2,
        Nat.mul_assoc, Nat.mul_comm 2]

theorem units_lt_units_succ (w : Nat) : f.units w < f.units (w + 1) := by
  rcases word_cases f w with h | ⟨s, m, hm, rfl⟩
  · have hnext : f.units (0 * f.hidden + (w + 1)) = (w + 1) * 2 ^ 0 :=
      units_scaled (by omega) (.inl rfl)
    rw [Nat.zero_mul, Nat.zero_add] at hnext
    rw [hnext, units_of_lt h]
    omega
  · have hword : ∀ r, (s + 1) * f.hidden + r = s * f.hidden + (r + f.hidden) := by
      intro r
      rw [Nat.succ_mul]
      omega
    rw [Nat.add_assoc, hword, hword, units_scaled (by omega) (.inr (by omega)),
      units_scaled (by omega) (.inr (by omega))]
    exact Nat.mul_lt_mul_of_pos_right (by omega) (Nat.two_pow_pos s)

/-- **A greater word has a greater number.** -/
theorem units_strictMono (f : BinaryFormat) : StrictMono f.units :=
  strictMono_nat_of_lt_succ fun _ => units_lt_units_succ _

/-- A number of the format is a multiple of `2 ^ k`, or it is less than all that need `k`
doublings. -/
theorem units_on_grid (f : BinaryFormat) (w k : Nat) :
    (∃ j, f.units w = j * 2 ^ k) ∨ (0 < k ∧ f.units w < f.hidden * 2 ^ k) := by
  rcases word_cases f w with h | ⟨s, m, hm, rfl⟩
  · rw [units_of_lt h]
    rcases Nat.eq_zero_or_pos k with rfl | hk
    · exact .inl ⟨w, by rw [Nat.pow_zero, Nat.mul_one]⟩
    · have := Nat.le_mul_of_pos_right f.hidden (Nat.two_pow_pos k)
      exact .inr ⟨hk, by omega⟩
  · rw [units_of_step hm]
    rcases Nat.lt_or_ge s k with hlt | hge
    · have hless : (m + f.hidden) * 2 ^ s < 2 * f.hidden * 2 ^ s :=
        Nat.mul_lt_mul_of_pos_right (by omega) (Nat.two_pow_pos s)
      have hpow : f.hidden * 2 ^ (s + 1) ≤ f.hidden * 2 ^ k :=
        Nat.mul_le_mul_left _ (Nat.pow_le_pow_right (by decide) hlt)
      have hdouble : f.hidden * 2 ^ (s + 1) = 2 * f.hidden * 2 ^ s := by
        rw [Nat.pow_succ, Nat.mul_comm (2 ^ s), ← Nat.mul_assoc, Nat.mul_comm f.hidden]
      exact .inr ⟨by omega, by omega⟩
    · refine .inl ⟨(m + f.hidden) * 2 ^ (s - k), ?_⟩
      rw [Nat.mul_assoc, ← Nat.pow_add, Nat.sub_add_cancel hge]

/-! ## Rounding to a word -/

/-- How often the significand of `num / den` units is doubled. -/
def doublings (f : BinaryFormat) (num den : Nat) : Nat := (num / den).log2 + 1 - f.precision

/-- The word before infinity stops it. -/
def unbounded (f : BinaryFormat) (num den : Nat) : Nat :=
  f.doublings num den * f.hidden + roundHalfEven num (den * 2 ^ f.doublings num den)

theorem ofUnits_eq (f : BinaryFormat) (num den : Nat) :
    f.ofUnits num den = min (f.unbounded num den) f.infinity := rfl

section Rounding

variable (num : Nat) {den : Nat}

theorem lt_doublings (hp : 1 < f.precision) (hd : 0 < den) :
    num < 2 * f.hidden * (den * 2 ^ f.doublings num den) := by
  have hlog : num / den < 2 ^ ((num / den).log2 + 1) := Nat.lt_log2_self
  have hpow : 2 ^ ((num / den).log2 + 1) ≤ 2 ^ (f.precision + f.doublings num den) :=
    Nat.pow_le_pow_right (by decide) (by unfold doublings; omega)
  have hlt := (Nat.div_lt_iff_lt_mul hd).1 (Nat.lt_of_lt_of_le hlog hpow)
  rw [two_mul_hidden hp]
  rwa [Nat.pow_add, Nat.mul_assoc, Nat.mul_comm _ den] at hlt

theorem doublings_le (hp : 1 < f.precision) (hd : 0 < den) :
    f.doublings num den = 0 ∨ f.hidden * (den * 2 ^ f.doublings num den) ≤ num := by
  rcases Nat.eq_zero_or_pos (f.doublings num den) with h | h
  · exact .inl h
  · have hexp : f.precision - 1 + f.doublings num den = (num / den).log2 := by
      unfold doublings at h ⊢
      omega
    have hne : num / den ≠ 0 := by
      rintro hzero
      rw [doublings, hzero, Nat.log2_zero] at h
      omega
    have hle := (Nat.le_div_iff_mul_le hd).1 (Nat.log2_self_le hne)
    rw [← hexp, Nat.pow_add, Nat.mul_assoc, Nat.mul_comm _ den] at hle
    exact .inr hle

theorem units_unbounded (hp : 1 < f.precision) (hd : 0 < den) :
    f.units (f.unbounded num den) =
      roundHalfEven num (den * 2 ^ f.doublings num den) * 2 ^ f.doublings num den := by
  have hb : 0 < den * 2 ^ f.doublings num den := Nat.mul_pos hd (Nat.two_pow_pos _)
  refine units_scaled (roundHalfEven_le hb (Nat.le_of_lt (lt_doublings num hp hd))) ?_
  exact (doublings_le num hp hd).imp_right fun h => le_roundHalfEven hb h

theorem unbounded_nearest (hp : 1 < f.precision) (hd : 0 < den) (v : Nat) :
    Nat.dist num (f.units (f.unbounded num den) * den) ≤ Nat.dist num (f.units v * den) ∧
      (Nat.dist num (f.units (f.unbounded num den) * den) = Nat.dist num (f.units v * den) →
        v ≠ f.unbounded num den → f.unbounded num den % 2 = 0) := by
  have hb : 0 < den * 2 ^ f.doublings num den := Nat.mul_pos hd (Nat.two_pow_pos _)
  have hunits := units_unbounded num hp hd
  have hcross : ∀ j, j * 2 ^ f.doublings num den * den = j * (den * 2 ^ f.doublings num den) := by
    intro j
    rw [Nat.mul_assoc, Nat.mul_comm den]
  have hword : f.unbounded num den % 2 = roundHalfEven num (den * 2 ^ f.doublings num den) % 2 := by
    rw [unbounded, Nat.add_mod, Nat.mul_mod, hidden_even hp, Nat.mul_zero, Nat.zero_mod, Nat.zero_add,
      Nat.mod_mod]
  rcases units_on_grid f v (f.doublings num den) with ⟨j, hj⟩ | ⟨hpos, hlt⟩
  · obtain ⟨hle, heven⟩ := roundHalfEven_nearest (a := num) hb j
    rw [hunits, hj, hcross, hcross]
    refine ⟨hle, fun heq hne => ?_⟩
    rw [hword]
    refine heven heq fun hsame => hne ?_
    rw [← hsame, ← hj] at hunits
    exact ((units_strictMono f).injective hunits).symm
  · -- What is no multiple lies below the least significand, and that one is no nearer.
    have hleast := (doublings_le num hp hd).resolve_left (Nat.ne_of_gt hpos)
    obtain ⟨hle, -⟩ := roundHalfEven_nearest (a := num) hb f.hidden
    have hless : f.units v * den < f.hidden * (den * 2 ^ f.doublings num den) := by
      have := Nat.mul_lt_mul_of_pos_right hlt hd
      rwa [hcross] at this
    rw [hunits, hcross]
    unfold Nat.dist at hle ⊢
    exact ⟨by omega, fun heq _ => by omega⟩

/-- **The word is a nearest one**, up to infinity, and of two it is the even one. -/
theorem ofUnits_nearest (hp : 1 < f.precision) (hd : 0 < den) {v : Nat} (hv : v ≤ f.infinity) :
    Nat.dist num (f.units (f.ofUnits num den) * den) ≤ Nat.dist num (f.units v * den) ∧
      (Nat.dist num (f.units (f.ofUnits num den) * den) = Nat.dist num (f.units v * den) →
        v ≠ f.ofUnits num den → f.ofUnits num den % 2 = 0) := by
  rw [ofUnits_eq]
  rcases Nat.lt_or_ge f.infinity (f.unbounded num den) with hgt | hle
  · rw [Nat.min_eq_right (Nat.le_of_lt hgt)]
    -- Infinity is nearer to what lies behind it than anything before it.
    have hbehind := (unbounded_nearest num hp hd f.infinity).1
    have hmore := Nat.mul_lt_mul_of_pos_right ((units_strictMono f) hgt) hd
    rcases Nat.lt_or_eq_of_le hv with hlt | rfl
    · have hless := Nat.mul_lt_mul_of_pos_right ((units_strictMono f) hlt) hd
      unfold Nat.dist at hbehind ⊢
      exact ⟨by omega, fun heq _ => by omega⟩
    · exact ⟨Nat.le_refl _, fun _ hne => absurd rfl hne⟩
  · rw [Nat.min_eq_left hle]
    exact unbounded_nearest num hp hd v

end Rounding

/-! ## Numbers -/

/-- The number of a word. -/
def value (f : BinaryFormat) (w : Nat) : ℚ := f.units w / 2 ^ f.scale

/-- The word is nearest to `x` of all up to infinity, and even if another one is as near. -/
structure IsNearest (f : BinaryFormat) (w : Nat) (x : ℚ) : Prop where
  le_infinity : w ≤ f.infinity
  nearest : ∀ v ≤ f.infinity, |f.value w - x| ≤ |f.value v - x|
  even : ∀ v ≤ f.infinity, |f.value w - x| = |f.value v - x| → v ≠ w → w % 2 = 0

theorem value_strictMono (f : BinaryFormat) : StrictMono f.value := by
  intro v w h
  have hunits : (f.units v : ℚ) < f.units w := by exact_mod_cast (units_strictMono f) h
  exact div_lt_div_of_pos_right hunits (by positivity)

theorem value_nonneg (f : BinaryFormat) (w : Nat) : 0 ≤ f.value w := by
  unfold value
  positivity

theorem value_zero (f : BinaryFormat) : f.value 0 = 0 := by
  rw [value, units_of_lt hidden_pos, Nat.cast_zero, zero_div]

theorem natCast_dist (a b : Nat) : ((Nat.dist a b : Nat) : ℚ) = |(b : ℚ) - a| := by
  rcases Nat.le_total a b with h | h
  · rw [Nat.dist_eq_sub_of_le h, Nat.cast_sub h, abs_of_nonneg (by simpa using h)]
  · rw [Nat.dist_eq_sub_of_le_right h, Nat.cast_sub h, abs_of_nonpos (by simpa using h), neg_sub]

/-- The distance of a word's number from a quotient of units. -/
theorem abs_value_sub (f : BinaryFormat) (num : Nat) {den : Nat} (hd : 0 < den) (w : Nat) :
    |f.value w - num / den / 2 ^ f.scale| =
      (Nat.dist num (f.units w * den) : ℚ) / (den * 2 ^ f.scale) := by
  have hden : (0 : ℚ) < den := by exact_mod_cast hd
  have hpos : (0 : ℚ) < den * 2 ^ f.scale := by positivity
  have hdiff : f.value w - num / den / 2 ^ f.scale =
      (((f.units w * den : Nat) : ℚ) - num) / (den * 2 ^ f.scale) := by
    rw [value]
    push_cast
    field_simp
  rw [hdiff, abs_div, abs_of_pos hpos, natCast_dist]

theorem isNearest_ofUnits (hp : 1 < f.precision) (num : Nat) {den : Nat} (hd : 0 < den) :
    f.IsNearest (f.ofUnits num den) (num / den / 2 ^ f.scale) := by
  have hden : (0 : ℚ) < den := by exact_mod_cast hd
  have hpos : (0 : ℚ) < den * 2 ^ f.scale := by positivity
  refine ⟨Nat.min_le_right _ _, fun v hv => ?_, fun v hv heq hne => ?_⟩
  · rw [abs_value_sub f num hd, abs_value_sub f num hd]
    exact div_le_div_of_nonneg_right (by exact_mod_cast (ofUnits_nearest num hp hd hv).1) hpos.le
  · rw [abs_value_sub f num hd, abs_value_sub f num hd, div_left_inj' hpos.ne'] at heq
    exact (ofUnits_nearest num hp hd hv).2 (by exact_mod_cast heq) hne

/-- **A quotient becomes a nearest word.** -/
theorem isNearest_ofRatio (hp : 1 < f.precision) (num : Nat) {den : Nat} (hd : 0 < den) :
    f.IsNearest (f.ofRatio num den) (num / den) := by
  have h := isNearest_ofUnits hp (num * Nat.pow 2 f.scale) hd
  have hpow : ((num * Nat.pow 2 f.scale : Nat) : ℚ) / den / 2 ^ f.scale = num / den := by
    rw [Nat.pow_eq]
    push_cast
    field_simp
  rwa [hpow] at h

theorem units_div (f : BinaryFormat) (w : Nat) : (f.units w : ℚ) / (Nat.pow 2 f.scale : Nat) = f.value w := by
  rw [Nat.pow_eq, value]
  push_cast
  rfl

/-- A number of another format becomes a nearest word. -/
theorem isNearest_value (hp : 1 < f.precision) (g : BinaryFormat) (w : Nat) :
    f.IsNearest (f.ofRatio (g.units w) (Nat.pow 2 g.scale)) (g.value w) := by
  have hpos : 0 < Nat.pow 2 g.scale := Nat.two_pow_pos _
  rw [← units_div]
  exact isNearest_ofRatio hp _ hpos

/-- What a quotient of two words is rounded from. -/
theorem quotient_units (f : BinaryFormat) (v : Nat) {w : Nat} (hw : 0 < f.units w) :
    ((f.units v * Nat.pow 2 f.scale : Nat) : ℚ) / (f.units w : Nat) / 2 ^ f.scale =
      f.value v / f.value w := by
  have hpos : (f.units w : ℚ) ≠ 0 := by exact_mod_cast hw.ne'
  rw [value, value, Nat.pow_eq]
  push_cast
  field_simp

theorem isNearest_div (hp : 1 < f.precision) (v : Nat) {w : Nat} (hw : 0 < f.units w) :
    f.IsNearest (f.div v w) (f.value v / f.value w) := by
  rw [← quotient_units f v hw]
  exact isNearest_ofUnits hp _ hw

end BinaryFormat

end ParamQuery.Number
