/-
The decimal that a binary number becomes.

`ofBinary64?_eq_some`: it has the number's sign, and is off by at most half
a last place of 28 and `2 ^ -49` of the number. Taking powers of two and
five over loses almost nothing (`halve_loses`, `double_loses`); what is
behind 28 places and behind 52 bits is rounded off digit by digit, which
adds up like a geometric series (`limitPlaces_near`, `limitDigits_near`).

`isSome_ofBinary64?`: every finite number that is less than `2 ^ 96` becomes
a decimal.
-/
import Mathlib.Algebra.Order.Field.Power
import ParamQuery.Proofs.Number.Decimal.ToBinary

namespace ParamQuery.Number.Decimal

open BinaryFormat

namespace Draft

/-- The number of a draft. -/
def value (d : Draft) : ℚ := d.magnitude * 10 ^ d.exponent

theorem value_nonneg (d : Draft) : 0 ≤ d.value := by
  unfold value
  positivity

theorem ten_succ (e : Int) : (10 : ℚ) ^ (e + 1) = 10 * 10 ^ e := by
  rw [zpow_add_one₀ (by norm_num), mul_comm]

/-! ## Powers of two and five -/

/-- `y` is what is left of `x` after `steps` steps, each of which may lose `2 ^ -93` of it. -/
def Loses (steps : Nat) (y x : ℚ) : Prop := x - steps * (1 / 2 ^ 93) * x ≤ y ∧ y ≤ x

theorem Loses.refl (x : ℚ) : Loses 0 x x := by
  refine ⟨?_, le_refl x⟩
  rw [Nat.cast_zero]
  linarith

theorem Loses.step {n : Nat} {x y z : ℚ} (hfirst : Loses 1 y x) (h : Loses n z y) : Loses (n + 1) z x := by
  obtain ⟨hy, hyx⟩ := hfirst
  obtain ⟨hz, hzy⟩ := h
  refine ⟨?_, le_trans hzy hyx⟩
  have hrest : (n : ℚ) * (1 / 2 ^ 93) * y ≤ n * (1 / 2 ^ 93) * x :=
    mul_le_mul_of_nonneg_left hyx (by positivity)
  push_cast at hy ⊢
  linarith

theorem loses_one {a b : Nat} {c : ℚ} (hc : 0 ≤ c) (hle : a ≤ b) (h : (b - a) * 2 ^ 93 ≤ b) :
    Loses 1 (a * c) (b * c) := by
  have hcast : ((b : ℚ) - a) * 2 ^ 93 ≤ b := by
    rw [← Nat.cast_sub hle]
    exact_mod_cast h
  have hpart := mul_le_mul_of_nonneg_right hcast hc
  have hab : (a : ℚ) ≤ b := by exact_mod_cast hle
  refine ⟨?_, mul_le_mul_of_nonneg_right hab hc⟩
  push_cast
  linarith

/-- Halving loses nothing but the last bit of a long magnitude. -/
theorem halve_loses (n : Nat) (d : Draft) : Loses n (halve n d).value (d.value * 5 ^ n) := by
  induction n generalizing d with
  | zero =>
    rw [halve, pow_zero, mul_one]
    exact .refl _
  | succ n ih =>
    obtain ⟨m, e⟩ := d
    have hscale : (0 : ℚ) ≤ 10 ^ e * 5 ^ (n + 1) := by positivity
    have hvalue : (⟨m, e⟩ : Draft).value * 5 ^ (n + 1) = m * (10 ^ e * 5 ^ (n + 1)) := by
      rw [value, mul_assoc]
    have hhalf : (⟨m / 2, e + 1⟩ : Draft).value * 5 ^ n = (m / 2 * 2 : Nat) * (10 ^ e * 5 ^ (n + 1)) := by
      simp only [value, ten_succ]
      push_cast
      ring
    have hfive : (⟨m * 5, e⟩ : Draft).value * 5 ^ n = m * (10 ^ e * 5 ^ (n + 1)) := by
      simp only [value]
      push_cast
      ring
    rw [halve, hvalue]
    split
    · refine Loses.step ?_ (ih _)
      rw [hhalf]
      exact loses_one hscale (by omega) (by omega)
    · split
      · refine Loses.step ?_ (ih _)
        rw [hfive]
        exact loses_one hscale (Nat.le_refl m) (by omega)
      · rename_i hroom
        have hlong : 2 ^ 96 ≤ m * 5 := Nat.le_of_not_lt hroom
        refine Loses.step ?_ (ih _)
        rw [hhalf]
        exact loses_one hscale (by omega) (by omega)

/-- Doubling loses nothing but what five does not divide of a long magnitude. -/
theorem double_loses (n : Nat) (d : Draft) : Loses n (double n d).value (d.value / 5 ^ n) := by
  induction n generalizing d with
  | zero =>
    rw [double, pow_zero, div_one]
    exact .refl _
  | succ n ih =>
    obtain ⟨m, e⟩ := d
    have hscale : (0 : ℚ) ≤ 10 ^ e / 5 ^ (n + 1) := by positivity
    have hvalue : (⟨m, e⟩ : Draft).value / 5 ^ (n + 1) = m * (10 ^ e / 5 ^ (n + 1)) := by
      rw [value, mul_div_assoc]
    have htwice : (⟨m * 2, e - 1⟩ : Draft).value / 5 ^ n = m * (10 ^ e / 5 ^ (n + 1)) := by
      have hten := ten_succ (e - 1)
      rw [sub_add_cancel] at hten
      simp only [value, hten]
      push_cast
      field_simp
      ring
    have hfifth : (⟨m / 5, e⟩ : Draft).value / 5 ^ n = (m / 5 * 5 : Nat) * (10 ^ e / 5 ^ (n + 1)) := by
      simp only [value]
      push_cast
      field_simp
      ring
    rw [double, hvalue]
    split
    · refine Loses.step ?_ (ih _)
      rw [htwice]
      exact loses_one hscale (Nat.le_refl m) (by omega)
    · rename_i hroom
      have hlong : 2 ^ 95 ≤ m := Nat.le_of_not_lt hroom
      refine Loses.step ?_ (ih _)
      rw [hfifth]
      exact loses_one hscale (by omega) (by omega)

/-! ## Places -/

theorem expand?_eq_some {n m m' : Nat} (h : expand? n m = .some m') : m' = m * 10 ^ n := by
  induction n generalizing m with
  | zero =>
    rw [expand?, Option.some.injEq] at h
    rw [h, Nat.pow_zero, Nat.mul_one]
  | succ n ih =>
    rw [expand?] at h
    split at h
    · rw [ih h, Nat.pow_succ, Nat.mul_assoc, Nat.mul_comm 10]
    · simp at h

theorem dropPlace_near (d : Draft) : |d.dropPlace.value - d.value| ≤ 5 * 10 ^ d.exponent := by
  have hten : (0 : ℚ) < 10 ^ d.exponent := by positivity
  have hplace : |((d.dropPlace.magnitude : ℤ) * 10 - d.magnitude)| ≤ 5 := by
    rw [abs_le]
    unfold dropPlace
    dsimp only
    split <;> omega
  have hcast : |((d.dropPlace.magnitude : ℚ) * 10 - d.magnitude)| ≤ 5 := by exact_mod_cast hplace
  have hdiff : d.dropPlace.value - d.value =
      (d.dropPlace.magnitude * 10 - d.magnitude) * 10 ^ d.exponent := by
    have hexp : d.dropPlace.exponent = d.exponent + 1 := rfl
    rw [value, value, hexp, ten_succ]
    ring
  rw [hdiff, abs_mul, abs_of_pos hten]
  exact mul_le_mul_of_nonneg_right hcast hten.le

/-- The last place that a decimal can have. -/
def lastPlace : ℚ := 1 / 10 ^ 28

theorem pow_le_lastPlace {e : Int} (h : e ≤ -28) : (10 : ℚ) ^ e ≤ lastPlace := by
  have hpow : (10 : ℚ) ^ e ≤ 10 ^ (-28 : ℤ) := zpow_le_zpow_right₀ (by norm_num) h
  refine le_trans hpow (le_of_eq ?_)
  rw [lastPlace]
  norm_num

/-- Behind 28 places a number vanishes, or it is off by less than half of the last place: what the
digits cost adds up like `1 + 1/10 + 1/100 + ...`. -/
theorem limitPlaces_near (n : Nat) (d : Draft) (h : d.exponent ≤ -28) :
    (limitPlaces n d = ⟨0, 0⟩ ∧ d.value ≤ lastPlace - 5 / 9 * 10 ^ d.exponent) ∨
      |(limitPlaces n d).value - d.value| ≤ 5 / 9 * (lastPlace - 10 ^ d.exponent) := by
  induction n generalizing d with
  | zero =>
    refine .inr ?_
    have := pow_le_lastPlace h
    rw [limitPlaces, sub_self, abs_zero]
    linarith
  | succ n ih =>
    have hpow := pow_le_lastPlace h
    rw [limitPlaces]
    split
    · rename_i hmore
      have hnext : (10 : ℚ) ^ (d.exponent + 1) ≤ lastPlace := pow_le_lastPlace (by omega)
      rw [ten_succ] at hnext
      split
      · rename_i hsmall
        have hdigit : (d.magnitude : ℚ) ≤ 9 := by
          have : d.magnitude ≤ 9 := by omega
          exact_mod_cast this
        have hvalue := mul_le_mul_of_nonneg_right hdigit (by positivity : (0 : ℚ) ≤ 10 ^ d.exponent)
        refine .inl ⟨rfl, ?_⟩
        rw [value]
        linarith
      · have hdrop := dropPlace_near d
        have hexp : d.dropPlace.exponent = d.exponent + 1 := rfl
        have hrest := ih d.dropPlace (by rw [hexp]; omega)
        rw [hexp, ten_succ] at hrest
        rcases hrest with ⟨heq, hle⟩ | hle
        · refine .inl ⟨heq, ?_⟩
          have := (abs_le.1 hdrop).1
          linarith
        · refine .inr ?_
          have := abs_sub_le (limitPlaces n d.dropPlace).value d.dropPlace.value d.value
          linarith
    · refine .inr ?_
      rw [sub_self, abs_zero]
      linarith

/-- Behind 52 bits a number is off by at most six units of the last one. -/
theorem limitDigits_near (n : Nat) (d : Draft) :
    |(limitDigits n d).value - d.value| ≤ 6 / 2 ^ 52 * d.value := by
  have hsharp : limitDigits n d = d ∨
      |(limitDigits n d).value - d.value| ≤ 6 / 2 ^ 52 * d.value - 10 ^ d.exponent := by
    induction n generalizing d with
    | zero => exact .inl rfl
    | succ n ih =>
      rw [limitDigits]
      split
      · rename_i hmore
        have hlong : (2 ^ 52 : ℚ) ≤ d.magnitude := by
          simp only [Bool.and_eq_true, decide_eq_true_eq] at hmore
          exact_mod_cast hmore.2
        have hten : (0 : ℚ) < 10 ^ d.exponent := by positivity
        have hvalue : 2 ^ 52 * 10 ^ d.exponent ≤ d.value := mul_le_mul_of_nonneg_right hlong hten.le
        have hdrop := dropPlace_near d
        have hexp : d.dropPlace.exponent = d.exponent + 1 := rfl
        refine .inr ?_
        rcases ih d.dropPlace with heq | hle
        · rw [heq]
          linarith
        · rw [hexp, ten_succ] at hle
          have htriangle := abs_sub_le (limitDigits n d.dropPlace).value d.dropPlace.value d.value
          have := (abs_le.1 hdrop).2
          linarith
      · exact .inl rfl
  have hnonneg := d.value_nonneg
  rcases hsharp with heq | hle
  · rw [heq, sub_self, abs_zero]
    positivity
  · have : (0 : ℚ) ≤ 10 ^ d.exponent := by positivity
    linarith

theorem dropZeros_value (n : Nat) (d : Draft) : (dropZeros n d).value = d.value := by
  induction n generalizing d with
  | zero => rfl
  | succ n ih =>
    rw [dropZeros]
    split
    · rename_i hzero
      simp only [Bool.and_eq_true, decide_eq_true_eq] at hzero
      have hsplit : d.magnitude = d.magnitude / 10 * 10 := by omega
      rw [ih, value, value, ten_succ]
      conv_rhs => rw [hsplit]
      push_cast
      ring
    · rfl

/-! ## Exponents -/

theorem exponent_limitPlaces (n : Nat) (d : Draft) (h : d.exponent ≤ 0) :
    (limitPlaces n d).exponent ≤ 0 := by
  induction n generalizing d with
  | zero => exact h
  | succ n ih =>
    rw [limitPlaces]
    split
    · split
      · exact Int.le_refl 0
      · exact ih d.dropPlace (show d.exponent + 1 ≤ 0 by omega)
    · exact h

theorem exponent_limitDigits (n : Nat) (d : Draft) (h : d.exponent ≤ 0) :
    (limitDigits n d).exponent ≤ 0 := by
  induction n generalizing d with
  | zero => exact h
  | succ n ih =>
    rw [limitDigits]
    split
    · rename_i hmore
      simp only [Bool.and_eq_true, decide_eq_true_eq] at hmore
      exact ih d.dropPlace (show d.exponent + 1 ≤ 0 by omega)
    · exact h

theorem exponent_dropZeros (n : Nat) (d : Draft) (h : d.exponent ≤ 0) :
    (dropZeros n d).exponent ≤ 0 := by
  induction n generalizing d with
  | zero => exact h
  | succ n ih =>
    rw [dropZeros]
    split
    · rename_i hmore
      simp only [Bool.and_eq_true, decide_eq_true_eq] at hmore
      exact ih _ (show d.exponent + 1 ≤ 0 by omega)
    · exact h

/-! ## The whole way -/

theorem value_of_expand? {d : Draft} {m : Nat} (h : expand? d.exponent.toNat d.magnitude = .some m) :
    (⟨m, min d.exponent 0⟩ : Draft).value = d.value := by
  rw [value, value, expand?_eq_some h]
  push_cast
  rcases Int.lt_or_le d.exponent 0 with hneg | hnonneg
  · have hzero : d.exponent.toNat = 0 := by omega
    rw [hzero, pow_zero, mul_one, Int.min_eq_left (Int.le_of_lt hneg)]
  · have hpow : (10 : ℚ) ^ d.exponent.toNat = 10 ^ d.exponent := by
      rw [← zpow_natCast, Int.toNat_of_nonneg hnonneg]
    rw [Int.min_eq_right hnonneg, zpow_zero, mul_one, hpow]

theorem div_pow_eq_value {d : Draft} (h : d.exponent ≤ 0) :
    (d.magnitude : ℚ) / 10 ^ (-d.exponent).toNat = d.value := by
  rw [value, ← zpow_natCast, Int.toNat_of_nonneg (by omega), zpow_neg, div_inv_eq_mul]

/-- What is left of a draft when its places and digits are limited. -/
def limited (d : Draft) : Draft := ((d.limitPlaces 1100).limitDigits 40).dropZeros 40

theorem exponent_limited {d : Draft} (h : d.exponent ≤ 0) : d.limited.exponent ≤ 0 :=
  exponent_dropZeros _ _ (exponent_limitDigits _ _ (exponent_limitPlaces _ _ h))

theorem limited_near (d : Draft) :
    |d.limited.value - d.value| ≤ lastPlace + 6 / 2 ^ 52 * d.value := by
  have hnonneg := d.value_nonneg
  have hlast : 0 < lastPlace := by
    rw [lastPlace]
    positivity
  have hdigits := limitDigits_near 40 (d.limitPlaces 1100)
  rw [limited, dropZeros_value]
  rcases Int.lt_or_le (-28) d.exponent with hfew | hmany
  · have hsame : d.limitPlaces 1100 = d := by
      rw [limitPlaces, if_neg (by omega)]
    rw [hsame] at hdigits ⊢
    linarith
  · have hten : (0 : ℚ) < 10 ^ d.exponent := by positivity
    rcases limitPlaces_near 1100 d hmany with ⟨hzero, hle⟩ | hle
    · have hnone : (⟨0, 0⟩ : Draft).value = 0 := by simp [value]
      rw [hzero, hnone, mul_zero, sub_zero] at hdigits
      have hgone := abs_nonpos_iff.1 hdigits
      rw [hzero, hgone, zero_sub, abs_neg, abs_of_nonneg hnonneg]
      linarith
    · have htriangle := abs_sub_le ((d.limitPlaces 1100).limitDigits 40).value (d.limitPlaces 1100).value d.value
      have hmost := (abs_le.1 hle).2
      linarith

end Draft

/-! ## The number of a word -/

theorem value_eq_zpow (f : BinaryFormat) (w : Nat) :
    f.value w = f.significand w * 2 ^ ((f.shift w : ℤ) - f.scale) := by
  rw [BinaryFormat.value, units, Nat.pow_eq, zpow_sub₀ (by norm_num), zpow_natCast, zpow_natCast]
  push_cast
  ring

/-- The exponent of a word of 64 bits. -/
def exponentOf (w : Nat) : Int := double.shift w - 1074

/-- The draft of a word, before powers of two and five are taken over. -/
def draftOf (w : Nat) : Draft := ⟨double.significand w, exponentOf w⟩

/-- The draft of a word's number. -/
def drawnOf (w : Nat) : Draft :=
  if exponentOf w < 0 then (draftOf w).halve (-exponentOf w).toNat
  else (draftOf w).double (exponentOf w).toNat

theorem ten_zpow (e : Int) : (10 : ℚ) ^ e = 2 ^ e * 5 ^ e := by
  rw [← mul_zpow]
  norm_num

/-- Little of the number is lost on the way. -/
theorem drawnOf_loses {w : Nat} (hw : w < double.infinity) :
    ∃ n ≤ 1074, Draft.Loses n (drawnOf w).value (double.value w) := by
  have hshift : double.shift w ≤ 2045 := by
    have hdiv : w / double.hidden < 2047 := by
      rw [Nat.div_lt_iff_lt_mul hidden_pos]
      exact hw
    unfold shift
    omega
  have hnumber : double.value w = double.significand w * 2 ^ exponentOf w := value_eq_zpow double w
  unfold drawnOf
  split
  · rename_i hneg
    refine ⟨(-exponentOf w).toNat, by unfold exponentOf; omega, ?_⟩
    have hexact : (draftOf w).value * 5 ^ (-exponentOf w).toNat = double.value w := by
      have hfive : (5 : ℚ) ^ (-exponentOf w).toNat = (5 ^ exponentOf w)⁻¹ := by
        rw [← zpow_natCast, Int.toNat_of_nonneg (by omega), zpow_neg]
      rw [hnumber, hfive, Draft.value, draftOf, ten_zpow]
      field_simp
    rw [← hexact]
    exact Draft.halve_loses _ _
  · rename_i hnonneg
    refine ⟨(exponentOf w).toNat, by unfold exponentOf; omega, ?_⟩
    have hexact : (draftOf w).value / 5 ^ (exponentOf w).toNat = double.value w := by
      have hfive : (5 : ℚ) ^ (exponentOf w).toNat = 5 ^ exponentOf w := by
        rw [← zpow_natCast, Int.toNat_of_nonneg (by omega)]
      rw [hnumber, hfive, Draft.value, draftOf, ten_zpow]
      field_simp
    rw [← hexact]
    exact Draft.double_loses _ _

theorem ofBinary64?_eq (x : Binary64) :
    ofBinary64? x =
      if !x.isFinite then .none
      else if x.word = 0 then make? x.negative 0 0
      else (Draft.expand? (drawnOf x.word).exponent.toNat (drawnOf x.word).magnitude).bind fun m =>
        make? x.negative (Draft.limited ⟨m, min (drawnOf x.word).exponent 0⟩).magnitude
          (-(Draft.limited ⟨m, min (drawnOf x.word).exponent 0⟩).exponent).toNat := rfl

theorem make?_eq_some {negative : Bool} {magnitude scale : Nat} {d : Decimal}
    (h : make? negative magnitude scale = .some d) :
    d.negative = negative ∧ d.quotient = magnitude / 10 ^ scale := by
  unfold make? at h
  split at h
  · rw [Option.some.injEq] at h
    rw [← h]
    exact ⟨rfl, rfl⟩
  · simp at h

/-- **A binary number becomes a decimal of its sign, close to it**, if it becomes one. -/
theorem ofBinary64?_eq_some {x : Binary64} {d : Decimal} (h : ofBinary64? x = .some d) :
    x.isFinite = true ∧ d.negative = x.negative ∧
      |d.quotient - double.value x.word| ≤ 1 / 10 ^ 28 + 1 / 2 ^ 49 * double.value x.word := by
  rw [ofBinary64?_eq] at h
  split at h
  · simp at h
  · rename_i hfinite
    have hfinite : x.isFinite = true := by simpa using hfinite
    refine ⟨hfinite, ?_⟩
    split at h
    · rename_i hzero
      obtain ⟨hsign, hquot⟩ := make?_eq_some h
      refine ⟨hsign, ?_⟩
      rw [hquot, hzero, BinaryFormat.value_zero, Nat.cast_zero, zero_div, sub_zero, abs_zero, mul_zero,
        add_zero]
      positivity
    · obtain ⟨m, hexpand, hmake⟩ := Option.bind_eq_some_iff.1 h
      obtain ⟨hsign, hquot⟩ := make?_eq_some hmake
      refine ⟨hsign, ?_⟩
      obtain ⟨n, hn, hleast, hmost⟩ := drawnOf_loses (of_decide_eq_true hfinite)
      generalize drawnOf x.word = drawn at hexpand hquot hleast hmost
      have hnear := Draft.limited_near ⟨m, min drawn.exponent 0⟩
      have hexp := Draft.exponent_limited (d := ⟨m, min drawn.exponent 0⟩) (Int.min_le_right _ _)
      rw [Draft.div_pow_eq_value hexp] at hquot
      rw [Draft.value_of_expand? hexpand, Draft.lastPlace] at hnear
      have hnonneg := BinaryFormat.value_nonneg double x.word
      rw [hquot]
      generalize (Draft.limited ⟨m, min drawn.exponent 0⟩).value = y at hnear ⊢
      generalize double.value x.word = z at hleast hmost hnonneg ⊢
      have hsteps : (n : ℚ) * (1 / 2 ^ 93) * z ≤ 1074 * (1 / 2 ^ 93) * z := by
        have hcast : (n : ℚ) ≤ 1074 := by exact_mod_cast hn
        exact mul_le_mul_of_nonneg_right (mul_le_mul_of_nonneg_right hcast (by positivity)) hnonneg
      have htriangle := abs_sub_le y drawn.value z
      have hdrawn : |drawn.value - z| ≤ 1074 * (1 / 2 ^ 93) * z := by
        rw [abs_sub_comm, abs_of_nonneg (by linarith)]
        linarith
      linarith

/-! ## Which numbers have a decimal -/

namespace Draft

/-- A draft that has room, of at most `n` places too many. -/
def Fits (n : Nat) (d : Draft) : Prop := d.magnitude < 2 ^ 96 ∧ -28 - n ≤ d.exponent

theorem fits_dropPlace {n : Nat} {d : Draft} (h : Fits (n + 1) d) : Fits n d.dropPlace := by
  obtain ⟨hm, he⟩ := h
  unfold Fits dropPlace
  push_cast at he
  dsimp only
  split <;> omega

theorem fits_halve (n k : Nat) (d : Draft) (h : Fits k d) :
    Fits k (halve n d) ∧ (halve n d).exponent ≤ d.exponent + n := by
  induction n generalizing d with
  | zero => exact ⟨h, by rw [halve]; omega⟩
  | succ n ih =>
    obtain ⟨m, e⟩ := d
    obtain ⟨hm, he⟩ := h
    dsimp only at hm he
    have hhalf := ih ⟨m / 2, e + 1⟩ ⟨by dsimp only; omega, by dsimp only; omega⟩
    dsimp only at hhalf
    rw [halve]
    push_cast
    split
    · exact ⟨hhalf.1, by omega⟩
    · split
      · rename_i hroom
        have hfive := ih ⟨m * 5, e⟩ ⟨hroom, he⟩
        dsimp only at hfive
        exact ⟨hfive.1, by omega⟩
      · exact ⟨hhalf.1, by omega⟩

/-- Doubling is exact as long as there is room. -/
theorem double_of_lt (n m : Nat) (e : Int) (h : m * 2 ^ n < 2 ^ 96) :
    double n ⟨m, e⟩ = ⟨m * 2 ^ n, e - n⟩ := by
  induction n generalizing m e with
  | zero => simp [double]
  | succ n ih =>
    have hroom : m < Nat.pow 2 95 := by
      have hpow : 1 * 2 ≤ 2 ^ n * 2 := Nat.mul_le_mul_right 2 (Nat.two_pow_pos n)
      have hmul := Nat.mul_le_mul_left m hpow
      rw [Nat.pow_succ] at h
      rw [Nat.pow_eq]
      omega
    have hnext : m * 2 * 2 ^ n = m * 2 ^ (n + 1) := by rw [Nat.pow_succ, Nat.mul_assoc, Nat.mul_comm 2]
    rw [double, if_pos hroom, ih (m * 2) (e - 1) (by rw [hnext]; exact h), hnext]
    congr 1
    push_cast
    omega

theorem fits_limitPlaces (n : Nat) (d : Draft) (h : Fits n d) : Fits 0 (limitPlaces n d) := by
  induction n generalizing d with
  | zero => exact h
  | succ n ih =>
    rw [limitPlaces]
    split
    · split
      · exact ⟨by decide, by decide⟩
      · exact ih _ (fits_dropPlace h)
    · exact ⟨h.1, by push_cast; omega⟩

theorem fits_limitDigits (n : Nat) (d : Draft) (h : Fits 0 d) : Fits 0 (limitDigits n d) := by
  induction n generalizing d with
  | zero => exact h
  | succ n ih =>
    rw [limitDigits]
    split
    · exact ih _ (fits_dropPlace ⟨h.1, by have := h.2; push_cast at this ⊢; omega⟩)
    · exact h

theorem fits_dropZeros (n : Nat) (d : Draft) (h : Fits 0 d) : Fits 0 (dropZeros n d) := by
  induction n generalizing d with
  | zero => exact h
  | succ n ih =>
    rw [dropZeros]
    split
    · obtain ⟨hm, he⟩ := h
      exact ih _ ⟨by dsimp only; omega, by dsimp only; omega⟩
    · exact h

theorem fits_limited {d : Draft} (h : Fits 1100 d) : Fits 0 d.limited :=
  fits_dropZeros _ _ (fits_limitDigits _ _ (fits_limitPlaces _ _ h))

end Draft

theorem significand_lt (w : Nat) : double.significand w < 2 ^ 53 := by
  have hmod : w % double.hidden < double.hidden := Nat.mod_lt w hidden_pos
  have hhidden : double.hidden = 2 ^ 52 := rfl
  unfold significand
  split <;> omega

/-- The draft of a number that is less than `2 ^ 96` has room and nothing to write out. -/
theorem fits_drawnOf {w : Nat} (h : double.value w < 2 ^ 96) :
    Draft.Fits 1100 (drawnOf w) ∧ (drawnOf w).exponent ≤ 0 := by
  have hsignificand := significand_lt w
  unfold drawnOf
  split
  · rename_i hneg
    have hdraft : Draft.Fits 1100 (draftOf w) :=
      ⟨by dsimp only [draftOf]; omega, by dsimp only [draftOf]; unfold exponentOf; omega⟩
    obtain ⟨hfits, hexp⟩ := Draft.fits_halve (-exponentOf w).toNat 1100 _ hdraft
    refine ⟨hfits, ?_⟩
    dsimp only [draftOf] at hexp ⊢
    omega
  · rename_i hnonneg
    have hnumber : double.value w = double.significand w * 2 ^ exponentOf w := value_eq_zpow double w
    have hpow : (2 : ℚ) ^ exponentOf w = 2 ^ (exponentOf w).toNat := by
      rw [← zpow_natCast, Int.toNat_of_nonneg (by omega)]
    rw [hnumber, hpow] at h
    have hroom : double.significand w * 2 ^ (exponentOf w).toNat < 2 ^ 96 := by exact_mod_cast h
    rw [draftOf, Draft.double_of_lt _ _ _ hroom]
    exact ⟨⟨hroom, by dsimp only; omega⟩, by dsimp only; omega⟩

/-- What a number that is less than `2 ^ 96` becomes. -/
theorem exists_ofBinary64? {x : Binary64} (hx : x.isFinite = true) (hword : x.word ≠ 0)
    (h : double.value x.word < 2 ^ 96) :
    ∃ d, ofBinary64? x = .some d ∧ d.magnitude = (drawnOf x.word).limited.magnitude ∧
      d.quotient = (drawnOf x.word).limited.value := by
  obtain ⟨hfits, hexp⟩ := fits_drawnOf h
  rw [ofBinary64?_eq, hx]
  simp only [Bool.not_true, Bool.false_eq_true, if_false, if_neg hword]
  generalize drawnOf x.word = drawn at hfits hexp ⊢
  have hwritten : drawn.exponent.toNat = 0 := by omega
  have hmin : min drawn.exponent 0 = drawn.exponent := Int.min_eq_left hexp
  obtain ⟨hroom, hplaces⟩ := Draft.fits_limited (d := ⟨drawn.magnitude, drawn.exponent⟩) hfits
  rw [hwritten, Draft.expand?, Option.bind_some, hmin, make?, dif_pos ⟨hroom, by omega⟩]
  exact ⟨_, rfl, rfl, Draft.div_pow_eq_value (Draft.exponent_limited hexp)⟩

/-- **Every finite number that is less than `2 ^ 96` becomes a decimal.** -/
theorem isSome_ofBinary64? {x : Binary64} (hx : x.isFinite = true) (h : double.value x.word < 2 ^ 96) :
    (ofBinary64? x).isSome = true := by
  by_cases hword : x.word = 0
  · rw [ofBinary64?_eq, hx, hword]
    rfl
  · obtain ⟨d, hsome, -⟩ := exists_ofBinary64? hx hword h
    rw [hsome]
    rfl

end ParamQuery.Number.Decimal
