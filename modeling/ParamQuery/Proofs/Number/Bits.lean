/-
The bits of a binary number of 64 bits, read as an integer of 64 bits.

`units_ne_word`, `units_ne_complement`: they are never the number itself,
except for zero. A word with an exponent `t` above that of one unit of the
last place would have to be a multiple of `2 ^ t - 1` that its significand
has no room for; up to `t = 10` no significand fits, and from there on the
number is greater than its word.
-/
import Mathlib.Tactic.IntervalCases
import ParamQuery.Proofs.Number.Nearest

namespace ParamQuery.Number.BinaryFormat

theorem cancel_two_pow {a c s k : Nat} (h : a * 2 ^ s = c * 2 ^ k) :
    (s < k ∧ c * 2 ≤ a) ∨ ∃ t, s = k + t ∧ a * 2 ^ t = c := by
  rcases Nat.lt_or_ge s k with hlt | hge
  · obtain ⟨t, rfl⟩ : ∃ t, k = s + 1 + t := ⟨k - (s + 1), by omega⟩
    refine .inl ⟨hlt, ?_⟩
    have hsplit : c * 2 ^ (s + 1 + t) = c * 2 * 2 ^ t * 2 ^ s := by
      rw [Nat.pow_add, Nat.pow_succ]
      ac_rfl
    rw [hsplit] at h
    have hcancel := Nat.eq_of_mul_eq_mul_right (Nat.two_pow_pos s) h
    rw [hcancel]
    exact Nat.le_mul_of_pos_right _ (Nat.two_pow_pos t)
  · obtain ⟨t, rfl⟩ : ∃ t, s = k + t := ⟨s - k, by omega⟩
    refine .inr ⟨t, rfl, ?_⟩
    rw [Nat.add_comm, Nat.pow_add, ← Nat.mul_assoc] at h
    exact Nat.eq_of_mul_eq_mul_right (Nat.two_pow_pos k) h

theorem le_two_pow {t : Nat} (h : 11 ≤ t) : 2048 * (t - 10) ≤ 2 ^ t := by
  induction t, h using Nat.le_induction with
  | base => decide
  | succ t ht ih =>
    rw [Nat.pow_succ]
    omega

/-- What a significand with eleven doublings or more is at least. -/
theorem le_significand {m t : Nat} (ht : 11 ≤ t) : 2 ^ 52 * (2048 * (t - 10)) ≤ (m + 2 ^ 52) * 2 ^ t :=
  Nat.mul_le_mul (Nat.le_add_left _ _) (le_two_pow ht)

theorem lt_of_lt_infinity {s m : Nat} (h : (s + 1) * double.hidden + m < double.infinity) : s ≤ 2045 := by
  have hhidden : double.hidden = 2 ^ 52 := rfl
  have hinfinity : double.infinity = 2047 * 2 ^ 52 := by decide
  rw [hhidden, hinfinity] at h
  omega

/-- **No word but zero is the number of its own bits.** -/
theorem units_ne_word {w : Nat} (hpos : 0 < w) : double.units w ≠ w * 2 ^ double.scale := by
  have hhidden : double.hidden = 2 ^ 52 := rfl
  have hscale : double.scale = 1074 := rfl
  rcases word_cases double w with hlt | ⟨s, m, hm, rfl⟩
  · rw [units_of_lt hlt]
    have hpow : 1 < 2 ^ double.scale := Nat.one_lt_two_pow (by decide)
    have := Nat.mul_lt_mul_of_pos_left hpow hpos
    omega
  · rw [units_of_step hm]
    rw [hhidden] at hm ⊢
    generalize double.scale = k at hscale ⊢
    intro h
    rcases cancel_two_pow h with ⟨-, hle⟩ | ⟨t, rfl, heq⟩
    · omega
    · rcases Nat.lt_or_ge t 11 with hfew | hmany
      · interval_cases t <;> omega
      · have hleast := le_significand (m := m) hmany
        omega

/-- **No word is the number of its own bits below zero.** -/
theorem units_ne_complement {w : Nat} (hw : w < double.infinity) :
    double.units w ≠ (2 ^ 63 - w) * 2 ^ double.scale := by
  have hhidden : double.hidden = 2 ^ 52 := rfl
  have hscale : double.scale = 1074 := rfl
  rcases word_cases double w with hlt | ⟨s, m, hm, rfl⟩
  · rw [units_of_lt hlt]
    rw [hhidden] at hlt
    have hmore : (2 ^ 63 - w) * 1 ≤ (2 ^ 63 - w) * 2 ^ double.scale :=
      Nat.mul_le_mul_left _ (Nat.two_pow_pos _)
    omega
  · have hs := lt_of_lt_infinity hw
    rw [units_of_step hm]
    rw [hhidden] at hm ⊢
    generalize double.scale = k at hscale ⊢
    intro h
    rcases cancel_two_pow h with ⟨hless, hle⟩ | ⟨t, rfl, heq⟩
    · omega
    · rcases Nat.lt_or_ge t 11 with hfew | hmany
      · interval_cases t <;> omega
      · have hleast := le_significand (m := m) hmany
        omega

end ParamQuery.Number.BinaryFormat
