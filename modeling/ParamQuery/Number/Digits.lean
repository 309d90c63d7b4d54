/-
Decimal digits: the text of a natural number or an integer, and the value
of a run of digits.

`valueOf_digits`: the digits of `n` read back as `n`.
-/
namespace ParamQuery.Number

/-- The digit of `d`, for `d < 10`. -/
def digitChar (d : Nat) : Char := Char.ofNat (48 + d)

/-- The value of a digit. -/
def digitValue (c : Char) : Nat := c.toNat - 48

/-- The decimal digits of `n`, without leading zeros. -/
def digits (n : Nat) : List Char :=
  if n < 10 then [digitChar n] else digits (n / 10) ++ [digitChar (n % 10)]
termination_by n
decreasing_by omega

/-- The value of a run of digits that stands after `n`. -/
def valueFrom (n : Nat) (ds : List Char) : Nat := ds.foldl (fun n d => n * 10 + digitValue d) n

/-- The value of a run of digits. -/
def valueOf (ds : List Char) : Nat := valueFrom 0 ds

/-- `n` in at least `width` digits. -/
def padded (width n : Nat) : List Char :=
  List.replicate (width - (digits n).length) '0' ++ digits n

/-- The text of a natural number. -/
def natText (n : Nat) : String := .ofList (digits n)

/-- The text of an integer. -/
def intText (i : Int) : String :=
  if i < 0 then .ofList ('-' :: digits i.natAbs) else .ofList (digits i.natAbs)

/-! ## Laws -/

theorem digitValue_digitChar {d : Nat} (h : d < 10) : digitValue (digitChar d) = d := by
  have : ∀ d : Fin 10, digitValue (digitChar d) = d := by decide
  exact this ⟨d, h⟩

theorem isDigit_digitChar {d : Nat} (h : d < 10) : (digitChar d).isDigit = true := by
  have : ∀ d : Fin 10, (digitChar d).isDigit = true := by decide
  exact this ⟨d, h⟩

theorem valueFrom_append (n : Nat) (a b : List Char) :
    valueFrom n (a ++ b) = valueFrom (valueFrom n a) b := List.foldl_append

theorem valueOf_digits (n : Nat) : valueOf (digits n) = n := by
  induction n using Nat.strongRecOn with
  | _ n ih =>
    rw [digits]
    split
    · rename_i h
      simp [valueOf, valueFrom, digitValue_digitChar h]
    · rename_i h
      have hr : n % 10 < 10 := Nat.mod_lt _ (by decide)
      rw [valueOf, valueFrom_append, ← valueOf, ih _ (by omega)]
      simp only [valueFrom, List.foldl_cons, List.foldl_nil, digitValue_digitChar hr]
      omega

theorem isDigit_of_mem_digits {n : Nat} {c : Char} (h : c ∈ digits n) : c.isDigit = true := by
  induction n using Nat.strongRecOn with
  | _ n ih =>
    rw [digits] at h
    split at h
    · rename_i hn
      rw [List.mem_singleton.1 h]; exact isDigit_digitChar hn
    · rcases List.mem_append.1 h with h | h
      · exact ih _ (by omega) h
      · rw [List.mem_singleton.1 h]; exact isDigit_digitChar (Nat.mod_lt _ (by decide))

theorem ne_of_mem_digits {n : Nat} {c d : Char} (h : c ∈ digits n) (hd : d.isDigit = false) : c ≠ d := by
  rintro rfl
  simp [isDigit_of_mem_digits h] at hd

theorem digits_ne_nil (n : Nat) : digits n ≠ [] := by
  rw [digits]; split <;> simp

end ParamQuery.Number
