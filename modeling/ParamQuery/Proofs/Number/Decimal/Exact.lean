/-
Binary numbers of which nothing is lost in a decimal.

A decimal of a binary number has 96 bits for a whole number, and 52 bits as
soon as there are places. `ofBinary64?_exact_iff`: the number stays the same
exactly if it has such a decimal (`HasDecimal`), because powers of two and
five are then taken over without a loss; and there is no decimal above
`2 ^ 96`. The number `2 ^ 96` itself has no room either and becomes another
one, since the last factor of two is taken as a tenth of ten
(`ofBinary64?_two_pow`).
-/
import Mathlib.Data.Nat.Factorization.Basic
import ParamQuery.Proofs.Number.Decimal.OfBinary

namespace ParamQuery.Number.Decimal

open BinaryFormat

/-- A whole number of at most 96 bits, or one of at most 52 bits with places. -/
inductive HasDecimal (x : ℚ) : Prop where
  | whole (n : Nat) (room : n < 2 ^ 96) (eq : x = n)
  | places (m s : Nat) (room : m < 2 ^ 52) (eq : x = m / 10 ^ s)

theorem HasDecimal.lt {x : ℚ} (h : HasDecimal x) : x < 2 ^ 96 := by
  cases h with
  | whole n room eq =>
    rw [eq]
    exact_mod_cast room
  | places m s room eq =>
    have hm : (m : ℚ) < 2 ^ 52 := by exact_mod_cast room
    have hle : (m : ℚ) / 10 ^ s ≤ m := div_le_self (by positivity) (one_le_pow₀ (by norm_num))
    rw [eq]
    linarith

namespace Draft

/-! ## What is left of a draft -/

/-- Nothing is rounded off a whole number, or one of few bits and places. -/
theorem limited_value {d : Draft} (h : d.exponent = 0 ∨ -28 ≤ d.exponent ∧ d.magnitude < 2 ^ 52) :
    d.limited.value = d.value := by
  have hplaces : d.limitPlaces 1100 = d := by
    rw [limitPlaces, if_neg (by omega)]
  have hdigits : d.limitDigits 40 = d := by
    have hstop : ¬ (decide (d.exponent < 0) && decide (Nat.pow 2 52 ≤ d.magnitude)) = true := by
      simp only [Nat.pow_eq, Bool.and_eq_true, decide_eq_true_eq]
      omega
    rw [limitDigits, if_neg hstop]
  rw [limited, hplaces, hdigits, dropZeros_value]

theorem limited_whole (m : Nat) : (⟨m, 0⟩ : Draft).limited = ⟨m, 0⟩ := rfl

theorem dropPlace_le {d : Draft} {k : Nat} (h : d.magnitude ≤ k * 10) : d.dropPlace.magnitude ≤ k := by
  unfold dropPlace
  dsimp only
  split <;> omega

/-- A draft without places, or of at most 52 bits. -/
def IsLimited (d : Draft) : Prop := d.exponent = 0 ∨ d.magnitude < 2 ^ 52

/-- One step leaves a tenth, so there are steps enough. -/
theorem isLimited_limitDigits (n : Nat) (d : Draft) (hexp : d.exponent ≤ 0)
    (h : d.magnitude ≤ 2 ^ 51 * 10 ^ n) : (limitDigits n d).IsLimited := by
  induction n generalizing d with
  | zero => exact .inr (by rw [limitDigits]; omega)
  | succ n ih =>
    rw [limitDigits]
    split
    · rename_i hmore
      simp only [Bool.and_eq_true, decide_eq_true_eq] at hmore
      exact ih d.dropPlace (show d.exponent + 1 ≤ 0 by omega) (dropPlace_le (by rw [Nat.pow_succ] at h; omega))
    · rename_i hstop
      simp only [Nat.pow_eq, Bool.and_eq_true, decide_eq_true_eq] at hstop
      unfold IsLimited
      omega

theorem isLimited_dropZeros (n : Nat) (d : Draft) (h : d.IsLimited) : (dropZeros n d).IsLimited := by
  induction n generalizing d with
  | zero => exact h
  | succ n ih =>
    rw [dropZeros]
    split
    · rename_i hmore
      simp only [Bool.and_eq_true, decide_eq_true_eq] at hmore
      refine ih _ (.inr ?_)
      have hroom := h.resolve_left (by omega)
      dsimp only
      omega
    · exact h

theorem isLimited_limited {d : Draft} (hfits : Fits 1100 d) (hexp : d.exponent ≤ 0) : d.limited.IsLimited := by
  have hroom := (fits_limitPlaces 1100 d hfits).1
  have hsteps : 2 ^ 96 ≤ 2 ^ 51 * 10 ^ 40 := by norm_num
  exact isLimited_dropZeros _ _ (isLimited_limitDigits _ _ (exponent_limitPlaces _ _ hexp) (by omega))

/-! ## Powers of two and five without a loss -/

theorem halve_two_pow (t n o : Nat) (e : Int) : halve (t + n) ⟨o * 2 ^ t, e⟩ = halve n ⟨o, e + t⟩ := by
  induction t generalizing e with
  | zero => simp
  | succ t ih =>
    have hdouble : o * 2 ^ (t + 1) = o * 2 ^ t * 2 := by rw [Nat.pow_succ, Nat.mul_assoc]
    rw [Nat.add_right_comm, halve, hdouble, if_pos (Nat.mul_mod_left _ 2),
      Nat.mul_div_cancel _ (by decide : 0 < 2), ih]
    congr 2
    push_cast
    omega

theorem halve_odd (n o : Nat) (e : Int) (ho : o % 2 = 1) (h : o * 5 ^ n < 2 ^ 96) :
    halve n ⟨o, e⟩ = ⟨o * 5 ^ n, e⟩ := by
  induction n generalizing o with
  | zero => simp [halve]
  | succ n ih =>
    have hnext : o * 5 * 5 ^ n = o * 5 ^ (n + 1) := by rw [Nat.pow_succ, Nat.mul_assoc, Nat.mul_comm 5]
    have hroom : o * 5 < Nat.pow 2 96 := by
      have := Nat.le_mul_of_pos_right (o * 5) (Nat.pow_pos (n := n) (by decide : 0 < 5))
      rw [Nat.pow_eq]
      omega
    rw [halve, if_neg (by omega), if_pos hroom, ih (o * 5) (by omega) (by rw [hnext]; exact h), hnext]

/-- Doubling leaves no places. -/
theorem exponent_double (n : Nat) (d : Draft) : d.exponent - n ≤ (double n d).exponent := by
  induction n generalizing d with
  | zero =>
    rw [double]
    omega
  | succ n ih =>
    obtain ⟨m, e⟩ := d
    have htwice := ih ⟨m * 2, e - 1⟩
    have hfifth := ih ⟨m / 5, e⟩
    dsimp only at htwice hfifth
    rw [double]
    push_cast
    split <;> omega

end Draft

/-! ## The draft of a number that has a decimal -/

/-- A broken number with a decimal of few bits has few powers of five. -/
theorem mul_five_pow_lt {o j : Nat} (ho : o % 2 = 1) (hj : 0 < j) (h : HasDecimal ((o : ℚ) / 2 ^ j)) :
    o * 5 ^ j < 2 ^ 52 := by
  cases h with
  | whole n room eq =>
    have hodd : o = n * 2 ^ j := by
      rw [div_eq_iff (by positivity)] at eq
      exact_mod_cast eq
    have heven : 2 ∣ o := hodd ▸ Dvd.dvd.mul_left (dvd_pow_self 2 (Nat.ne_of_gt hj)) n
    omega
  | places m s room eq =>
    have hcross : o * 5 ^ s * 2 ^ s = m * 2 ^ j := by
      rw [div_eq_div_iff (by positivity) (by positivity)] at eq
      have hcast : o * 10 ^ s = m * 2 ^ j := by exact_mod_cast eq
      rw [← hcast, Nat.mul_assoc, ← Nat.mul_pow]
    -- Only the places can have the powers of two.
    have hjs : j ≤ s := by
      have hcoprime : Nat.Coprime (2 ^ j) (o * 5 ^ s) := by
        have ho : Nat.Coprime 2 o := Nat.coprime_two_left.2 (Nat.odd_iff.2 ho)
        exact Nat.Coprime.pow_left j (ho.mul_right (Nat.Coprime.pow_right s (by decide)))
      have hdvd : 2 ^ j ∣ 2 ^ s := hcoprime.dvd_of_dvd_mul_left (hcross ▸ Nat.dvd_mul_left _ _)
      exact (Nat.pow_dvd_pow_iff_le_right (by decide)).1 hdvd
    have hm : o * 5 ^ s * 2 ^ (s - j) = m := by
      have hsplit : 2 ^ s = 2 ^ (s - j) * 2 ^ j := by rw [← Nat.pow_add, Nat.sub_add_cancel hjs]
      rw [hsplit, ← Nat.mul_assoc] at hcross
      exact Nat.eq_of_mul_eq_mul_right (Nat.two_pow_pos j) hcross
    calc o * 5 ^ j ≤ o * 5 ^ s := Nat.mul_le_mul_left _ (Nat.pow_le_pow_right (by decide) hjs)
      _ ≤ o * 5 ^ s * 2 ^ (s - j) := Nat.le_mul_of_pos_right _ (Nat.two_pow_pos _)
      _ = m := hm
      _ < 2 ^ 52 := room

/-- **Nothing is lost of a number that has a decimal** when powers of two and five are taken over. -/
theorem drawnOf_of_hasDecimal {w : Nat} (hw : w ≠ 0) (h : HasDecimal (double.value w)) :
    (drawnOf w).value = double.value w ∧ ((drawnOf w).exponent = 0 ∨
      -28 ≤ (drawnOf w).exponent ∧ (drawnOf w).magnitude < 2 ^ 52) := by
  have hnumber : double.value w = double.significand w * 2 ^ exponentOf w := value_eq_zpow double w
  have hlt := h.lt
  unfold drawnOf draftOf
  generalize exponentOf w = e at hnumber ⊢
  split
  · rename_i hneg
    obtain ⟨n, rfl⟩ : ∃ n : Nat, e = -(n : Int) := ⟨(-e).toNat, by omega⟩
    have hsteps : (- -(n : Int)).toNat = n := by omega
    rw [zpow_neg, zpow_natCast, ← div_eq_mul_inv] at hnumber
    rw [hsteps]
    have hpos : double.significand w ≠ 0 := by
      intro hzero
      rw [hzero, Nat.cast_zero, zero_div, ← value_zero double] at hnumber
      exact hw (double.value_strictMono.injective hnumber)
    obtain ⟨t, o, ho, hsplit⟩ := Nat.exists_eq_two_pow_mul_odd hpos
    rw [Nat.odd_iff] at ho
    rw [Nat.mul_comm] at hsplit
    rw [hsplit] at hnumber ⊢
    rcases Nat.lt_or_ge t n with hlt | hle
    · obtain ⟨j, hj, rfl⟩ : ∃ j, 0 < j ∧ n = t + j := ⟨n - t, by omega, by omega⟩
      have hbroken : double.value w = o / 2 ^ j := by
        rw [hnumber, pow_add]
        push_cast
        field_simp
      have hfew := mul_five_pow_lt ho hj (hbroken ▸ h)
      have hplaces : j ≤ 28 := by
        by_contra hmany
        have hpow : 5 ^ 28 ≤ 5 ^ j := Nat.pow_le_pow_right (by decide) (by omega)
        have hle := Nat.le_mul_of_pos_left (5 ^ j) (by omega : 0 < o)
        omega
      have hexp : -((t + j : Nat) : Int) + t = -(j : Int) := by omega
      rw [Draft.halve_two_pow, Draft.halve_odd j o _ ho (by omega), hexp]
      refine ⟨?_, .inr ⟨by dsimp only; omega, hfew⟩⟩
      rw [hbroken, Draft.value, ten_zpow, zpow_neg, zpow_neg, zpow_natCast, zpow_natCast]
      push_cast
      field_simp
    · -- All the halves are whole.
      obtain ⟨k, rfl⟩ := Nat.exists_eq_add_of_le' hle
      have hwhole : Draft.halve n ⟨o * 2 ^ (k + n), -(n : Int)⟩ = ⟨o * 2 ^ k, 0⟩ := by
        have hall := Draft.halve_two_pow n 0 (o * 2 ^ k) (-(n : Int))
        rwa [Nat.add_zero, Nat.mul_assoc, ← Nat.pow_add, Int.add_left_neg] at hall
      rw [hwhole]
      refine ⟨?_, .inl rfl⟩
      rw [hnumber, Draft.value, zpow_zero, mul_one, eq_div_iff (by positivity)]
      push_cast
      ring
  · rename_i hnonneg
    obtain ⟨n, rfl⟩ : ∃ n : Nat, e = (n : Int) := ⟨e.toNat, by omega⟩
    rw [zpow_natCast] at hnumber
    rw [hnumber] at hlt
    have hroom : double.significand w * 2 ^ n < 2 ^ 96 := by exact_mod_cast hlt
    rw [Int.toNat_natCast, Draft.double_of_lt _ _ _ hroom]
    refine ⟨?_, .inl (by dsimp only; omega)⟩
    rw [hnumber, Draft.value, Int.sub_self, zpow_zero, mul_one]
    push_cast
    rfl

/-! ## The decimal of a number -/

/-- A number that is less than `2 ^ 96` becomes a decimal, which is exact if there is an exact one. -/
theorem ofBinary64?_exact_of_lt {x : Binary64} (hx : x.isFinite = true) (h : double.value x.word < 2 ^ 96) :
    ∃ d, ofBinary64? x = .some d ∧ (d.quotient = double.value x.word ↔ HasDecimal (double.value x.word)) := by
  by_cases hword : x.word = 0
  · refine ⟨⟨x.negative, 0, 0, by decide, by decide⟩, ?_, ?_⟩
    · rw [ofBinary64?_eq, hx, hword]
      rfl
    · rw [hword, value_zero]
      exact iff_of_true (by simp [quotient]) (.whole 0 (by decide) (by simp))
  · obtain ⟨d, hsome, hmagnitude, hquot⟩ := exists_ofBinary64? hx hword h
    refine ⟨d, hsome, fun heq => ?_, fun hdecimal => ?_⟩
    · obtain ⟨hfits, hexp⟩ := fits_drawnOf h
      rw [← heq, hquot, ← Draft.div_pow_eq_value (Draft.exponent_limited hexp)]
      rcases Draft.isLimited_limited hfits hexp with hzero | hfew
      · refine .whole d.magnitude d.magnitude_lt ?_
        rw [hzero, hmagnitude]
        simp
      · exact .places _ _ hfew rfl
    · obtain ⟨hvalue, hshort⟩ := drawnOf_of_hasDecimal hword hdecimal
      rw [hquot, Draft.limited_value hshort, hvalue]

theorem word_of_value {x : Binary64} (h : double.value x.word = 2 ^ 96) : x.word = 0x45F0000000000000 := by
  have hunits : double.units 0x45F0000000000000 = 2 ^ 96 * 2 ^ double.scale := by decide +kernel
  have hvalue : double.value 0x45F0000000000000 = 2 ^ 96 := by
    rw [value, div_eq_iff (by positivity)]
    exact_mod_cast hunits
  exact double.value_strictMono.injective (h.trans hvalue.symm)

/-- The least number without room becomes one that is less by six. -/
theorem ofBinary64?_two_pow {x : Binary64} (h : double.value x.word = 2 ^ 96) :
    ofBinary64? x = .some ⟨x.negative, 2 ^ 96 - 6, 0, by decide, by decide⟩ := by
  have hword := word_of_value h
  have hfinite : x.isFinite = true := by
    rw [Binary64.isFinite, hword]
    decide
  have hdrawn : drawnOf 0x45F0000000000000 = ⟨(2 ^ 96 - 6) / 10, 1⟩ := by decide +kernel
  have hlimited : Draft.limited ⟨2 ^ 96 - 6, min 1 0⟩ = ⟨2 ^ 96 - 6, 0⟩ := by decide +kernel
  have hexpand : Draft.expand? (1 : Int).toNat ((2 ^ 96 - 6) / 10) = .some (2 ^ 96 - 6) := by decide +kernel
  rw [ofBinary64?_eq, hfinite, hword, hdrawn]
  simp only [hexpand, hlimited, Option.bind_some]
  rfl

/-- Numbers above `2 ^ 96` are multiples of `2 ^ 44`, and there is nothing to halve. -/
theorem exponentOf_of_lt {w : Nat} (h : 2 ^ 96 < double.value w) :
    0 ≤ exponentOf w ∧ 2 ^ 96 + 2 ^ 44 ≤ double.value w := by
  have hnumber : double.value w = double.significand w * 2 ^ exponentOf w := value_eq_zpow double w
  have hsignificand := significand_lt w
  generalize exponentOf w = e at hnumber ⊢
  have hexp : 44 ≤ e := by
    by_contra hsmall
    have hpow : (2 : ℚ) ^ e ≤ 2 ^ (43 : ℤ) := zpow_le_zpow_right₀ (by norm_num) (by omega)
    have hsig : (double.significand w : ℚ) ≤ 2 ^ 53 := by exact_mod_cast Nat.le_of_lt hsignificand
    have hmost := mul_le_mul hsig hpow (by positivity) (by positivity)
    norm_num at hmost
    linarith
  obtain ⟨n, rfl⟩ : ∃ n : Nat, e = ((n + 44 : Nat) : Int) := ⟨(e - 44).toNat, by omega⟩
  have hwhole : double.value w = ((double.significand w * 2 ^ n * 2 ^ 44 : Nat) : ℚ) := by
    rw [hnumber, zpow_natCast, pow_add]
    push_cast
    ring
  rw [hwhole] at h ⊢
  generalize double.significand w * 2 ^ n = k at h ⊢
  have hlt : 2 ^ 96 < k * 2 ^ 44 := by exact_mod_cast h
  have hle : 2 ^ 96 + 2 ^ 44 ≤ k * 2 ^ 44 := by omega
  exact ⟨by omega, by exact_mod_cast hle⟩

/-- **There is no decimal of a number above `2 ^ 96`.** -/
theorem ofBinary64?_eq_none {x : Binary64} (hx : x.isFinite = true) (h : 2 ^ 96 < double.value x.word) :
    ofBinary64? x = .none := by
  have hword : x.word ≠ 0 := by
    intro hzero
    rw [hzero, value_zero] at h
    norm_num at h
  obtain ⟨hexp, hfar⟩ := exponentOf_of_lt h
  obtain ⟨n, hn, hleast, -⟩ := drawnOf_loses (of_decide_eq_true hx)
  have hplaces : 0 ≤ (drawnOf x.word).exponent := by
    have := Draft.exponent_double (exponentOf x.word).toNat (draftOf x.word)
    dsimp only [draftOf] at this
    rw [drawnOf, if_neg (by omega)]
    dsimp only [draftOf]
    omega
  -- What is lost is less than what the number is above the bound.
  have hbeyond : 2 ^ 96 < (drawnOf x.word).value := by
    have hcast : (n : ℚ) ≤ 1074 := by exact_mod_cast hn
    have hloss := mul_le_mul_of_nonneg_right (mul_le_mul_of_nonneg_right hcast
      (by positivity : (0 : ℚ) ≤ 1 / 2 ^ 93)) (value_nonneg double x.word)
    linarith
  rw [ofBinary64?_eq, hx, Bool.not_true, if_neg Bool.false_ne_true, if_neg hword, Option.bind_eq_none_iff]
  intro m hexpand
  have hvalue := Draft.value_of_expand? hexpand
  rw [Int.min_eq_right hplaces] at hvalue ⊢
  rw [Draft.value, zpow_zero, mul_one] at hvalue
  have hroom : ¬ m < Nat.pow 2 96 := by
    intro hlt
    rw [← hvalue] at hbeyond
    have hcast : (2 : ℕ) ^ 96 < m := by exact_mod_cast hbeyond
    rw [Nat.pow_eq] at hlt
    omega
  rw [Draft.limited_whole, make?, dif_neg fun hboth => hroom hboth.1]

/-- **A binary number stays the same number exactly if it has a decimal**, or it is refused. -/
theorem ofBinary64?_exact_iff {x : Binary64} (hx : x.isFinite = true) :
    (∀ d, ofBinary64? x = .some d → d.quotient = double.value x.word) ↔
      HasDecimal (double.value x.word) ∨ 2 ^ 96 < double.value x.word := by
  rcases lt_trichotomy (double.value x.word) (2 ^ 96) with hlt | heq | hgt
  · obtain ⟨d, hsome, hexact⟩ := ofBinary64?_exact_of_lt hx hlt
    rw [hsome, or_iff_left (not_lt_of_gt hlt), ← hexact]
    simp
  · have hnone : ¬ HasDecimal (double.value x.word) := fun h => absurd h.lt (by rw [heq]; exact lt_irrefl _)
    have hsame : ¬ (2 : ℚ) ^ 96 < double.value x.word := by rw [heq]; exact lt_irrefl _
    rw [ofBinary64?_two_pow heq, heq]
    refine iff_of_false (fun hexact => ?_) (by simpa [heq] using hnone)
    have hquot := hexact _ rfl
    rw [quotient, pow_zero, div_one] at hquot
    norm_num at hquot
  · rw [ofBinary64?_eq_none hx hgt]
    exact iff_of_true (by simp) (.inr hgt)

end ParamQuery.Number.Decimal
