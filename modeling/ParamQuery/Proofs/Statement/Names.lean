/-
When the names of parameters are apart. A name is a stem and a number with
nothing between them, so two slots get one name only if the digits of the
later number end with those of the earlier, and the earlier stem has the
digits in front of them at its end: `Id1` in place 0 and `Id` in place 10
are both `Id10`.

`nodup_names_iff`: names are apart exactly if no two slots clash so.
-/
import Mathlib.Data.List.Nodup
import ParamQuery.Proofs.Statement.Slots

namespace ParamQuery

/-! ## Digits at the end -/

namespace Number

theorem digits_injective {i j : Nat} (h : digits i = digits j) : i = j := by
  rw [← valueOf_digits i, h, valueOf_digits]

theorem valueFrom_mono {n m : Nat} (h : n ≤ m) (ds : List Char) : valueFrom n ds ≤ valueFrom m ds := by
  induction ds generalizing n m with
  | nil => exact h
  | cons d ds ih => exact ih (Nat.add_le_add_right (Nat.mul_le_mul_right 10 h) _)

/-- A number whose digits end with those of another is not less. -/
theorem le_of_digits_eq_append {i j : Nat} {d : List Char} (h : digits j = d ++ digits i) : i ≤ j := by
  calc i = valueFrom 0 (digits i) := (valueOf_digits i).symm
    _ ≤ valueFrom (valueOf d) (digits i) := valueFrom_mono (Nat.zero_le _) _
    _ = valueOf (digits j) := by rw [h, valueOf, valueOf, valueFrom_append]
    _ = j := valueOf_digits j

end Number

/-! ## Names -/

/-- The stem `a` with the number `i` and the stem `b` with the number `j` make one name, where `i` is
less than `j`: behind `b`, the stem `a` goes on with digits, and behind those the digits of `i`
make the digits of `j`. -/
def Clash (a : String) (i : Nat) (b : String) (j : Nat) : Prop :=
  ∃ d ≠ [], a.toList = b.toList ++ d ∧ Number.digits j = d ++ Number.digits i

theorem name_eq_iff {i j : Nat} (hij : i < j) (a b : String) :
    a ++ Number.natText i = b ++ Number.natText j ↔ Clash a i b j := by
  rw [← String.toList_inj]
  simp only [String.toList_append, Number.natText, String.toList_ofList]
  constructor
  · intro h
    -- The digits that are over belong to the stem of the lesser number, or that number is not less.
    rcases List.append_eq_append_iff.1 h with ⟨d, hb, hi⟩ | ⟨d, ha, hj⟩
    · have := Number.le_of_digits_eq_append hi
      omega
    · refine ⟨d, ?_, ha, hj⟩
      rintro rfl
      have := Number.digits_injective hj
      omega
  · rintro ⟨d, -, ha, hj⟩
    rw [ha, hj, List.append_assoc]

/-- A stem that does not end in a digit clashes with no later one. -/
theorem not_clash_of_last {a : String} (h : ∀ c ∈ a.toList.getLast?, c.isDigit = false) (i : Nat)
    (b : String) (j : Nat) : ¬ Clash a i b j := by
  rintro ⟨d, hd, ha, hj⟩
  have hlast : a.toList.getLast? = .some (d.getLast hd) := by
    rw [ha, List.getLast?_append, List.getLast?_eq_some_getLast hd]
    rfl
  have hdigit : (d.getLast hd).isDigit = true := by
    refine Number.isDigit_of_mem_digits (n := j) ?_
    rw [hj]
    exact List.mem_append_left _ (List.getLast_mem hd)
  rw [h _ hlast] at hdigit
  exact absurd hdigit (by decide)

/-- Among the first ten numbers nothing clashes. -/
theorem not_clash_of_lt {j : Nat} (h : j < 10) (a : String) (i : Nat) (b : String) : ¬ Clash a i b j := by
  rintro ⟨d, hd, -, hj⟩
  have hlength := congrArg List.length hj
  rw [Number.digits, if_pos h, List.length_append, List.length_singleton] at hlength
  have hpos : 0 < d.length := List.length_pos_iff.2 hd
  have hpos' : 0 < (Number.digits i).length := List.length_pos_iff.2 (Number.digits_ne_nil i)
  omega

/-- **Names are apart exactly if no two slots clash.** -/
theorem nodup_names_iff (s : Slots) :
    (Slots.number 0 s).names.Nodup ↔
      ∀ i j a b, i < j → s.stems[i]? = .some a → s.stems[j]? = .some b → ¬ Clash a i b j := by
  rw [List.nodup_iff_getElem?_ne_getElem?]
  simp only [Slots.length_names_number, Slots.names_number_getElem?, Nat.zero_add]
  constructor
  · intro h i j a b hij ha hb hclash
    have hj : j < s.length := by simpa [Slots.stems] using (List.getElem?_eq_some_iff.1 hb).1
    refine h i j hij hj ?_
    rw [ha, hb]
    simpa using (name_eq_iff hij a b).2 hclash
  · intro h i j hij hj hname
    have hstem : ∀ k < s.length, ∃ a, s.stems[k]? = .some a := fun k hk =>
      ⟨_, List.getElem?_eq_getElem (by simpa [Slots.stems] using hk)⟩
    obtain ⟨b, hb⟩ := hstem j hj
    obtain ⟨a, ha⟩ := hstem i (by omega)
    refine h i j a b hij ha hb ((name_eq_iff hij a b).1 ?_)
    rw [ha, hb] at hname
    simpa using hname

/-- Up to ten parameters have names that are apart; and so have any, if no stem ends in a digit. -/
theorem nodup_names_of_stems {s : Slots}
    (h : s.length ≤ 10 ∨ ∀ a ∈ s.stems, ∀ c ∈ a.toList.getLast?, c.isDigit = false) :
    (Slots.number 0 s).names.Nodup := by
  rw [nodup_names_iff]
  intro i j a b _ ha hb
  rcases h with h | h
  · have hj : j < s.length := by simpa [Slots.stems] using (List.getElem?_eq_some_iff.1 hb).1
    exact not_clash_of_lt (by omega) a i b
  · exact not_clash_of_last (h a (List.mem_of_getElem? ha)) i b j

end ParamQuery
