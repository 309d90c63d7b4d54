/-
Texts of integers.

A text stands for an integer if it has digits and nothing else, but for one
sign in front (`IsIntegerText`). It is read exactly if it stands for an
integer that its range holds (`readInt_eq_ok_iff`): digits only take a number
further away from zero, so one that leaves the range on the way ends outside.
-/
import Mathlib.Tactic.Ring
import ParamQuery.Number.Integer

namespace ParamQuery.Number

/-- A text of digits, with or without a sign in front, and the integer that it stands for. -/
inductive IsIntegerText : (cs : List Char) → (n : Int) → Prop where
  | unsigned {ds : List Char} (nonempty : ds ≠ []) (digits : ∀ c ∈ ds, c.isDigit = true) :
    IsIntegerText ds (valueOf ds)
  | plus {ds : List Char} (nonempty : ds ≠ []) (digits : ∀ c ∈ ds, c.isDigit = true) :
    IsIntegerText ('+' :: ds) (valueOf ds)
  | minus {ds : List Char} (nonempty : ds ≠ []) (digits : ∀ c ∈ ds, c.isDigit = true) :
    IsIntegerText ('-' :: ds) (-valueOf ds)

/-! ## Ranges -/

namespace IntRange

variable {r : IntRange} {i j : Int}

theorem holds_iff : r.holds i = true ↔ r.least ≤ i ∧ i ≤ r.greatest := by
  simp [holds]

theorem check_eq_ok_iff : r.check i = .ok j ↔ r.holds i = true ∧ i = j := by
  rw [holds_iff, check]
  split
  · simp; omega
  · split
    · simp; omega
    · simp; omega

/-- Between zero and a number of the range there is nothing but the range. -/
theorem holds_of_le (hzero : r.holds 0 = true) {sign : Int} (hsign : sign = 1 ∨ sign = -1) {a b : Nat}
    (hab : a ≤ b) (hb : r.holds (sign * b) = true) : r.holds (sign * a) = true := by
  rw [holds_iff] at *
  rcases hsign with rfl | rfl
  · omega
  · omega

end IntRange

/-! ## Digits -/

theorem le_valueFrom (n : Nat) (ds : List Char) : n ≤ valueFrom n ds := by
  induction ds generalizing n with
  | nil => exact Nat.le_refl n
  | cons d ds ih =>
    calc n ≤ n * 10 + digitValue d := by omega
      _ ≤ valueFrom n (d :: ds) := ih _

/-- Digits are read if all of the text are digits and the range holds what they stand for. -/
theorem readDigits_eq_ok_iff {r : IntRange} (hzero : r.holds 0 = true) {sign : Int}
    (hsign : sign = 1 ∨ sign = -1) {n : Nat} (hn : r.holds (sign * n) = true) {ds : List Char} {j : Int} :
    readDigits r sign (sign * n) ds = .ok j ↔
      (∀ c ∈ ds, c.isDigit = true) ∧ j = sign * valueFrom n ds ∧ r.holds j = true := by
  induction ds generalizing n with
  | nil =>
    simp only [readDigits, Except.ok.injEq, List.not_mem_nil, false_implies, implies_true, true_and]
    exact ⟨fun h => ⟨h.symm, h ▸ hn⟩, fun h => h.1.symm⟩
  | cons d ds ih =>
    have hnext : sign * n * 10 + sign * digitValue d = sign * (n * 10 + digitValue d : Nat) := by
      push_cast
      ring
    rw [readDigits, hnext]
    by_cases hd : d.isDigit = true
    · rw [if_pos hd, List.forall_mem_cons]
      by_cases hholds : r.holds (sign * (n * 10 + digitValue d : Nat)) = true
      · rw [IntRange.check_eq_ok_iff.2 ⟨hholds, rfl⟩]
        dsimp only
        rw [ih hholds]
        simp [hd, valueFrom]
      · -- What has left the range does not come back.
        have hgone : ¬ (j = sign * valueFrom n (d :: ds) ∧ r.holds j = true) := by
          rintro ⟨rfl, hj⟩
          exact hholds (IntRange.holds_of_le hzero hsign (le_valueFrom _ ds) hj)
        cases hcheck : r.check (sign * (n * 10 + digitValue d : Nat)) with
        | ok i => exact absurd (IntRange.check_eq_ok_iff.1 hcheck).1 hholds
        | error fault => simp [hgone]
    · simp [hd]

/-! ## Texts -/

theorem readDigits_zero_iff {r : IntRange} (hzero : r.holds 0 = true) {sign : Int}
    (hsign : sign = 1 ∨ sign = -1) {ds : List Char} {j : Int} :
    readDigits r sign 0 ds = .ok j ↔
      (∀ c ∈ ds, c.isDigit = true) ∧ j = sign * valueOf ds ∧ r.holds j = true := by
  have hread : readDigits r sign (sign * (0 : Nat)) ds = .ok j ↔
      (∀ c ∈ ds, c.isDigit = true) ∧ j = sign * valueFrom 0 ds ∧ r.holds j = true :=
    readDigits_eq_ok_iff hzero hsign (by simpa using hzero)
  rwa [Nat.cast_zero, Int.mul_zero] at hread

/-- A character that is no digit in front of a text is its sign. -/
theorem isIntegerText_cons_iff {c : Char} (hc : c.isDigit = false) {ds : List Char} {n : Int} :
    IsIntegerText (c :: ds) n ↔
      ds ≠ [] ∧ (∀ d ∈ ds, d.isDigit = true) ∧ (c = '+' ∧ n = valueOf ds ∨ c = '-' ∧ n = -valueOf ds) := by
  constructor
  · rintro (⟨-, hall⟩ | ⟨hne, hall⟩ | ⟨hne, hall⟩)
    · simp [hall c] at hc
    · exact ⟨hne, hall, .inl ⟨rfl, rfl⟩⟩
    · exact ⟨hne, hall, .inr ⟨rfl, rfl⟩⟩
  · rintro ⟨hne, hall, ⟨rfl, rfl⟩ | ⟨rfl, rfl⟩⟩
    · exact .plus hne hall
    · exact .minus hne hall

/-- A text without a sign has to have digits alone. -/
theorem isIntegerText_iff {cs : List Char} (hplus : ∀ ds, cs ≠ '+' :: ds) (hminus : ∀ ds, cs ≠ '-' :: ds)
    {n : Int} : IsIntegerText cs n ↔ cs ≠ [] ∧ (∀ c ∈ cs, c.isDigit = true) ∧ n = valueOf cs := by
  constructor
  · rintro (⟨hne, hall⟩ | - | -)
    · exact ⟨hne, hall, rfl⟩
    · exact absurd rfl (hplus _)
    · exact absurd rfl (hminus _)
  · rintro ⟨hne, hall, rfl⟩
    exact .unsigned hne hall

/-- **An integer is read from its texts**, and from those alone of which the range holds the integer. -/
theorem readInt_eq_ok_iff {r : IntRange} (hzero : r.holds 0 = true) (hneg : r.least < 0) {cs : List Char}
    {j : Int} : readInt r cs = .ok j ↔ IsIntegerText cs j ∧ r.holds j = true := by
  have hplus : ('+').isDigit = false := by decide
  have hminus : ('-').isDigit = false := by decide
  unfold readInt
  split
  · rw [isIntegerText_iff (by simp) (by simp)]
    simp
  · simp [isIntegerText_cons_iff hplus]
  · simp [isIntegerText_cons_iff hminus]
  · rename_i ds hne
    have hds : ds ≠ [] := by simpa using hne
    rw [readDigits_zero_iff hzero (.inl rfl), isIntegerText_cons_iff hplus]
    simp [hds, and_assoc]
  · rename_i ds hne
    have hds : ds ≠ [] := by simpa using hne
    rw [if_pos hneg, readDigits_zero_iff hzero (.inr rfl), isIntegerText_cons_iff hminus]
    simp [hds, and_assoc]
  · rename_i hnil _ _ hnoPlus hnoMinus
    have hcs : cs ≠ [] := hnil
    rw [readDigits_zero_iff hzero (.inl rfl), isIntegerText_iff hnoPlus hnoMinus]
    simp [hcs, and_assoc]

end ParamQuery.Number
