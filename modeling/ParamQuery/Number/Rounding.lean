/-
Rounding of quotients of natural numbers.

`roundHalfEven_spec`: the result is a nearest natural number, and of two
equally near ones the even one. `roundHalfUp_spec` says the same of the
rule that takes the greater one.
-/
namespace ParamQuery.Number

/-- `a / b` rounded to the nearest natural number; a half goes to the even one. -/
def roundHalfEven (a b : Nat) : Nat :=
  let q := a / b
  let r := a % b
  if b < 2 * r || (2 * r == b && q % 2 == 1) then q + 1 else q

/-- `a / b` rounded to the nearest natural number; a half goes up. -/
def roundHalfUp (a b : Nat) : Nat := if b ≤ 2 * (a % b) then a / b + 1 else a / b

theorem roundHalfEven_spec {a b : Nat} (hb : 0 < b) :
    2 * (roundHalfEven a b * b) ≤ 2 * a + b ∧ 2 * a ≤ 2 * (roundHalfEven a b * b) + b ∧
      (2 * (roundHalfEven a b * b) = 2 * a + b ∨ 2 * a = 2 * (roundHalfEven a b * b) + b →
        roundHalfEven a b % 2 = 0) := by
  have hd := Nat.div_add_mod a b
  have hr := Nat.mod_lt a hb
  have hm : (a / b + 1) * b = b * (a / b) + b := by rw [Nat.add_mul, Nat.mul_comm]; omega
  have hm' : a / b * b = b * (a / b) := Nat.mul_comm _ _
  simp only [roundHalfEven, Bool.or_eq_true, decide_eq_true_eq, Bool.and_eq_true, beq_iff_eq]
  split
  · rw [hm]; omega
  · rw [hm']; omega

theorem roundHalfUp_spec {a b : Nat} (hb : 0 < b) :
    2 * (roundHalfUp a b * b) ≤ 2 * a + b ∧ 2 * a < 2 * (roundHalfUp a b * b) + b := by
  have hd := Nat.div_add_mod a b
  have hr := Nat.mod_lt a hb
  have hm : (a / b + 1) * b = b * (a / b) + b := by rw [Nat.add_mul, Nat.mul_comm]; omega
  have hm' : a / b * b = b * (a / b) := Nat.mul_comm _ _
  simp only [roundHalfUp]
  split
  · rw [hm]; omega
  · rw [hm']; omega

end ParamQuery.Number
