/-
Numbers written with leading zeros: they stand for the number
(`valueOf_padded`) and have the width that was asked for if that has room
for it (`length_padded`). A run of digits stands for no more than its width
has room for (`valueOf_lt`).
-/
import Mathlib.Algebra.Ring.Nat
import ParamQuery.Number.Digits

namespace ParamQuery.Number

theorem length_digits_le {width n : Nat} (hwidth : 0 < width) (h : n < 10 ^ width) :
    (digits n).length ≤ width := by
  induction width generalizing n with
  | zero => omega
  | succ width ih =>
    rw [digits]
    split
    · simp
    · rename_i hn
      have hpositive : 0 < width := by
        rcases Nat.eq_zero_or_pos width with rfl | hpos
        · omega
        · exact hpos
      have hrest := ih hpositive (n := n / 10) (by rw [Nat.pow_succ] at h; omega)
      rw [List.length_append, List.length_singleton]
      omega

theorem length_padded {width n : Nat} (hwidth : 0 < width) (h : n < 10 ^ width) :
    (padded width n).length = width := by
  have hle := length_digits_le hwidth h
  rw [padded, List.length_append, List.length_replicate]
  omega

theorem isDigit_of_mem_padded {width n : Nat} {c : Char} (h : c ∈ padded width n) : c.isDigit = true := by
  rcases List.mem_append.1 h with hzero | hdigit
  · rw [List.eq_of_mem_replicate hzero]
    decide
  · exact isDigit_of_mem_digits hdigit

theorem padded_ne_nil (width n : Nat) : padded width n ≠ [] :=
  List.append_ne_nil_of_right_ne_nil _ (digits_ne_nil n)

/-- Zeros in front of a number do not change it. -/
theorem valueOf_zeros_append (count : Nat) (ds : List Char) :
    valueOf (List.replicate count '0' ++ ds) = valueOf ds := by
  induction count with
  | zero => rfl
  | succ count ih => exact ih

theorem valueOf_padded (width n : Nat) : valueOf (padded width n) = n := by
  rw [padded, valueOf_zeros_append, valueOf_digits]

/-! ## Bounds -/

theorem valueFrom_lt {ds : List Char} (h : ∀ c ∈ ds, c.isDigit = true) (n : Nat) :
    valueFrom n ds < (n + 1) * 10 ^ ds.length := by
  induction ds generalizing n with
  | nil => simp [valueFrom]
  | cons d ds ih =>
    obtain ⟨hd, hds⟩ := List.forall_mem_cons.1 h
    have hdigit : digitValue d ≤ 9 := by
      simp only [Char.isDigit, Bool.and_eq_true, decide_eq_true_eq, ge_iff_le, UInt32.le_iff_toNat_le] at hd
      have hgreatest : d.toNat ≤ 57 := hd.2
      unfold digitValue
      omega
    calc valueFrom n (d :: ds) = valueFrom (n * 10 + digitValue d) ds := rfl
      _ < (n * 10 + digitValue d + 1) * 10 ^ ds.length := ih hds _
      _ ≤ (n + 1) * 10 * 10 ^ ds.length := Nat.mul_le_mul_right _ (by omega)
      _ = (n + 1) * 10 ^ (d :: ds).length := by rw [List.length_cons, Nat.pow_succ, Nat.mul_assoc, Nat.mul_comm 10]

/-- A run of digits stands for less than the power of ten that it has room for. -/
theorem valueOf_lt {ds : List Char} (h : ∀ c ∈ ds, c.isDigit = true) : valueOf ds < 10 ^ ds.length := by
  have hlt := valueFrom_lt h 0
  rwa [Nat.zero_add, Nat.one_mul] at hlt

end ParamQuery.Number
