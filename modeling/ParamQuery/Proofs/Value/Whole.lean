/-
Values as integers.

What number a value stands for is said by `Denotes`, exactly and without
rounding: of a binary number by the fields of its bits, of a decimal by its
magnitude and scale, of a text by its sign and digits. A field of integers
takes a value exactly if that number is an integer in the field's range, and
then holds that integer (`coerce_integer_iff`).
-/
import Mathlib.Data.Int.ConditionallyCompleteOrder
import ParamQuery.Proofs.Number.Integer
import ParamQuery.Proofs.Value.Received
import ParamQuery.Value.Coercion

namespace ParamQuery

open Number (Binary64 BinaryFormat Decimal IntRange IsIntegerText)

/-! ## What is asked for -/

/-- The number that the fields of the bits stand for: a sign, eleven bits of an exponent and
fifty-two of a fraction. With all bits of the exponent set there is none. -/
def Number.Binary64.number? (x : Binary64) : Option ℚ :=
  let negative : Bool := decide (x.bits.toNat / 2 ^ 63 = 1)
  let exponent : Nat := x.bits.toNat / 2 ^ 52 % 2 ^ 11
  let fraction : Nat := x.bits.toNat % 2 ^ 52
  if exponent = 2047 then .none
  else if exponent = 0 then .some (Quantity.signed negative (fraction * 2 ^ (-1074 : ℤ)))
  else .some (Quantity.signed negative ((2 ^ 52 + fraction) * 2 ^ ((exponent : ℤ) - 1075)))

namespace Value

/-- A value stands for a number. -/
def Denotes : (v : Value) → (q : ℚ) → Prop
  | .bool b, q => q = if b then 1 else 0
  | .int i, q => q = i.toInt
  | .float x, q => x.number? = .some q
  | .decimal d, q => q = Quantity.signed d.negative d.quotient
  | .text s, q => ∃ n, IsIntegerText (Text.trim s.toList) n ∧ q = n
  | _, _ => False

end Value

/-- The integers that a field has room for. -/
def Scalar.integers? : Scalar → Option (Set Int)
  | .int16 => .some (Set.Ico (-2 ^ 15) (2 ^ 15))
  | .int32 => .some (Set.Ico (-2 ^ 31) (2 ^ 31))
  | .int64 => .some (Set.Ico (-2 ^ 63) (2 ^ 63))
  | .uint32 => .some (Set.Ico 0 (2 ^ 32))
  | _ => .none

/-! ## Quotients -/

/-- A quotient with a sign is an integer exactly if nothing is left over. -/
theorem Quantity.signed_div_eq_iff (negative : Bool) (a : Nat) {b : Nat} (hb : 0 < b) (n : Int) :
    signed negative (a / b) = n ↔
      a % b = 0 ∧ (if negative then -((a / b : Nat) : Int) else (a / b : Nat)) = n := by
  have hpos : (b : ℚ) ≠ 0 := by exact_mod_cast Nat.pos_iff_ne_zero.1 hb
  have hquot (m : Int) : (a / b : ℚ) = m ↔ a % b = 0 ∧ ((a / b : Nat) : Int) = m := by
    rw [div_eq_iff hpos]
    have hcast : (a : ℚ) = m * b ↔ (a : Int) = m * b := by exact_mod_cast Iff.rfl
    rw [hcast]
    constructor
    · intro h
      have hrest : (a : Int) % b = 0 := by rw [h, Int.mul_emod_left]
      refine ⟨by exact_mod_cast hrest, ?_⟩
      rw [Int.natCast_ediv, h, Int.mul_ediv_cancel _ (by exact_mod_cast Nat.pos_iff_ne_zero.1 hb)]
    · rintro ⟨hrest, rfl⟩
      exact_mod_cast (Nat.div_mul_cancel (Nat.dvd_of_mod_eq_zero hrest)).symm
  cases negative with
  | false => simpa [signed] using hquot n
  | true =>
    have hneg : -(a / b : ℚ) = n ↔ (a / b : ℚ) = (-n : Int) := by
      rw [neg_eq_iff_eq_neg, Int.cast_neg]
    rw [signed, if_pos rfl, if_pos rfl, hneg, hquot]
    exact and_congr_right fun _ => ⟨fun h => by omega, fun h => by omega⟩

/-! ## Binary numbers and decimals -/

namespace Number

/-- The number of the fields is that of the word, with its sign. -/
theorem Binary64.number?_eq (x : Binary64) :
    x.number? =
      if x.isFinite then .some (Quantity.signed x.negative (BinaryFormat.double.value x.word)) else .none := by
  have hbits := x.bits.toNat_lt
  have hsign : x.negative = decide (x.bits.toNat / 2 ^ 63 = 1) := by
    unfold Binary64.negative
    rw [decide_eq_decide, Nat.pow_eq]
    omega
  have hword : x.word = x.bits.toNat / 2 ^ 52 % 2 ^ 11 * 2 ^ 52 + x.bits.toNat % 2 ^ 52 := by
    unfold Binary64.word
    rw [Nat.pow_eq]
    omega
  have hinfinity : BinaryFormat.double.infinity = 2047 * 2 ^ 52 := by decide
  have hfraction : x.bits.toNat % 2 ^ 52 < BinaryFormat.double.hidden := Nat.mod_lt _ (by decide)
  rw [number?, ← hsign]
  generalize x.bits.toNat % 2 ^ 52 = fraction at *
  have hexponent : x.bits.toNat / 2 ^ 52 % 2 ^ 11 < 2 ^ 11 := Nat.mod_lt _ (by decide)
  generalize x.bits.toNat / 2 ^ 52 % 2 ^ 11 = exponent at *
  have hhidden : BinaryFormat.double.hidden = 2 ^ 52 := rfl
  have hscale : BinaryFormat.double.scale = 1074 := rfl
  by_cases htop : exponent = 2047
  · have hinfinite : ¬ x.isFinite = true := by
      simp only [isFinite, decide_eq_true_eq]
      omega
    rw [if_neg hinfinite]
    simp only [htop, if_true]
  · have hfinite : x.isFinite = true := by
      simp only [isFinite, decide_eq_true_eq]
      omega
    rw [if_pos hfinite, if_neg htop]
    -- Without an exponent the unit is the smallest; each further one doubles it.
    rcases Nat.eq_zero_or_eq_succ_pred exponent with hzero | hsucc
    · have hunits : BinaryFormat.double.units x.word = fraction := by
        rw [hword, hzero, Nat.zero_mul, Nat.zero_add, BinaryFormat.units_of_lt hfraction]
      rw [if_pos hzero, BinaryFormat.value, hunits, hscale, zpow_neg, ← div_eq_mul_inv, zpow_ofNat]
    · have hunits : BinaryFormat.double.units x.word = (fraction + 2 ^ 52) * 2 ^ (exponent - 1) := by
        rw [hword, hsucc, ← hhidden, Nat.succ_eq_add_one, BinaryFormat.units_of_step hfraction]
        rfl
      have hexp : (exponent : ℤ) - 1075 = ((exponent - 1 : Nat) : ℤ) - (1074 : Nat) := by omega
      rw [if_neg (by omega), BinaryFormat.value, hunits, hscale, hexp, zpow_sub₀ (by norm_num), zpow_natCast,
        zpow_natCast, ← mul_div_assoc]
      push_cast
      rw [add_comm]
      norm_num

theorem Binary64.toInt?_eq_some_iff {x : Binary64} {n : Int} : x.toInt? = .some n ↔ x.number? = .some (n : ℚ) := by
  have hscale : 1074 = BinaryFormat.double.scale := rfl
  rw [number?_eq, toInt?, ← BinaryFormat.units_div, hscale]
  generalize BinaryFormat.double.scale = scale
  have hone : 0 < Nat.pow 2 scale := Nat.two_pow_pos _
  by_cases hfinite : x.isFinite = true
  · rw [if_pos hfinite, Option.some.injEq, Quantity.signed_div_eq_iff _ _ hone]
    simp [hfinite]
  · simp [hfinite]

theorem Decimal.truncated_eq_iff {d : Decimal} {n : Int} :
    d.isWhole = true ∧ d.truncated = n ↔ Quantity.signed d.negative d.quotient = n := by
  have hone : 0 < Nat.pow 10 d.scale := Nat.pow_pos (by decide)
  rw [d.quotient_eq, Quantity.signed_div_eq_iff _ _ hone, isWhole, beq_iff_eq]
  rfl

end Number

/-! ## Integers of values -/

namespace Value

variable {v : Value} {n : Int}

theorem holds_signed_iff (bits : Nat) :
    (IntRange.signed bits).holds n = true ↔ n ∈ Set.Ico (-2 ^ (bits - 1)) (2 ^ (bits - 1)) := by
  rw [IntRange.holds_iff, Set.mem_Ico]
  exact and_congr_right fun _ => Int.le_sub_one_iff

theorem holds_unsigned_iff (bits : Nat) :
    (IntRange.unsigned bits).holds n = true ↔ n ∈ Set.Ico 0 (2 ^ bits) := by
  rw [IntRange.holds_iff, Set.mem_Ico]
  exact and_congr_right fun _ => Int.le_sub_one_iff

theorem toInt_mem (i : Int64) : i.toInt ∈ Set.Ico (-2 ^ 63) (2 ^ 63) := ⟨i.le_toInt, i.toInt_lt⟩

theorem int64?_eq_some_iff {i : Int64} : int64? n = .some i ↔ i.toInt = n := by
  unfold int64?
  constructor
  · intro h
    split at h
    · rename_i hholds
      obtain ⟨hleast, hgreatest⟩ := (holds_signed_iff 64).1 hholds
      rw [← Option.some.inj h, Int64.toInt_ofInt_of_le hleast hgreatest]
    · cases h
  · rintro rfl
    rw [if_pos ((holds_signed_iff 64).2 (toInt_mem i)), Int64.ofInt_toInt]

/-- The integer that a value stands for; a text has to have room for it in 64 bits. -/
theorem whole?_eq_some_iff (hv : v.isNull = false) (hn : n ∈ Set.Ico (-2 ^ 63) (2 ^ 63)) :
    v.whole? = .some n ↔ v.Denotes n := by
  cases v with
  | null => simp [isNull] at hv
  | bool b => cases b <;> simp [whole?, Denotes, eq_comm]
  | int i => simp [whole?, Denotes, eq_comm]
  | float x => exact Binary64.toInt?_eq_some_iff
  | decimal d =>
    rw [Denotes, eq_comm (a := (n : ℚ)), ← Decimal.truncated_eq_iff, whole?]
    cases d.isWhole <;> simp
  | text s =>
    have hread : Number.readInt (.signed 64) (Text.trim s.toList) = .ok n ↔
        Number.IsIntegerText (Text.trim s.toList) n ∧ (IntRange.signed 64).holds n = true :=
      Number.readInt_eq_ok_iff (by decide) (by decide)
    have hsome : whole? (.text s) = .some n ↔ Number.readInt (.signed 64) (Text.trim s.toList) = .ok n := by
      rw [whole?]
      cases Number.readInt (.signed 64) (Text.trim s.toList) <;> simp [Except.toOption]
    rw [hsome, hread, and_iff_left ((holds_signed_iff 64).2 hn)]
    simp [Denotes]
  | _ => simp [whole?, Denotes]

theorem toInt64_eq_ok_iff (hv : v.isNull = false) {i : Int64} : v.toInt64 = .ok i ↔ v.Denotes i.toInt := by
  rw [← whole?_eq_some_iff hv (toInt_mem i), toInt64]
  have hbind : v.whole?.bind int64? = .some i ↔ v.whole? = .some i.toInt := by
    rw [Option.bind_eq_some_iff]
    simp only [int64?_eq_some_iff, exists_eq_right']
  rw [← hbind]
  cases v.whole?.bind int64? <;> simp

theorem toNarrow_eq_ok_iff (hv : v.isNull = false) {r : IntRange} {target : String} {i : Int64} :
    v.toNarrow r target = .ok i ↔ v.Denotes i.toInt ∧ r.holds i.toInt = true := by
  rw [← toInt64_eq_ok_iff hv, toNarrow]
  cases v.toInt64 with
  | error e => simp
  | ok j =>
    dsimp only
    split
    · rename_i h
      simp only [Except.ok.injEq]
      exact ⟨fun he => ⟨he, he ▸ h⟩, fun he => he.1⟩
    · rename_i h
      simp only [reduceCtorEq, Except.ok.injEq, false_iff]
      rintro ⟨rfl, hholds⟩
      exact h hholds

/-- Each field of integers reads those that it has room for. -/
theorem exists_coerce_eq {s : Scalar} {r : Set Int} (hs : s.integers? = .some r) (hv : v.isNull = false) :
    ∃ read : Except CoercionError Int64, s.coerce v = read.map .int ∧
      ∀ i, read = .ok i ↔ v.Denotes i.toInt ∧ i.toInt ∈ r := by
  cases s with
  | int16 =>
    refine ⟨v.toNarrow (.signed 16) "i16", rfl, fun i => ?_⟩
    rw [toNarrow_eq_ok_iff hv, holds_signed_iff, ← Option.some.inj hs]
  | int32 =>
    refine ⟨v.toNarrow (.signed 32) "i32", rfl, fun i => ?_⟩
    rw [toNarrow_eq_ok_iff hv, holds_signed_iff, ← Option.some.inj hs]
  | int64 =>
    refine ⟨v.toInt64, rfl, fun i => ?_⟩
    rw [toInt64_eq_ok_iff hv, ← Option.some.inj hs, and_iff_left (toInt_mem i)]
  | uint32 =>
    refine ⟨v.toNarrow (.unsigned 32) "u32", rfl, fun i => ?_⟩
    rw [toNarrow_eq_ok_iff hv, holds_unsigned_iff, ← Option.some.inj hs]
  | _ => simp [Scalar.integers?] at hs

theorem subset_of_integers? {s : Scalar} {r : Set Int} (hs : s.integers? = .some r) :
    r ⊆ Set.Ico (-2 ^ 63) (2 ^ 63) := by
  cases s with
  | int16 | int32 | uint32 =>
    rw [← Option.some.inj hs]
    exact Set.Ico_subset_Ico (by decide) (by decide)
  | int64 => exact Eq.subset (Option.some.inj hs).symm
  | _ => simp [Scalar.integers?] at hs

/-- **A field of integers takes a value exactly as the integer that it stands for.** It takes no other
value, so nothing is cut off, wrapped around, clamped or rounded. -/
theorem coerce_integer_iff {s : Scalar} {r : Set Int} (hs : s.integers? = .some r) (hv : v.isNull = false) :
    (∀ w, s.coerce v = .ok w → ∃ i, w = .int i) ∧
      ∀ n : Int, (∃ i, s.coerce v = .ok (.int i) ∧ i.toInt = n) ↔ v.Denotes n ∧ n ∈ r := by
  obtain ⟨read, hread, hok⟩ := exists_coerce_eq hs hv
  rw [hread]
  refine ⟨fun w hw => ?_, fun n => ⟨?_, fun ⟨hdenotes, hn⟩ => ?_⟩⟩
  · cases read with
    | error e => cases hw
    | ok i => exact ⟨i, (Except.ok.inj hw).symm⟩
  · rintro ⟨i, hi, rfl⟩
    cases read with
    | error e => cases hi
    | ok j =>
      rw [Except.map, Except.ok.injEq, Value.int.injEq] at hi
      exact (hok i).1 (by rw [hi])
  · obtain ⟨hleast, hgreatest⟩ := subset_of_integers? hs hn
    have hint : (Int64.ofInt n).toInt = n := Int64.toInt_ofInt_of_le hleast hgreatest
    have hreads := (hok (.ofInt n)).2 (by rw [hint]; exact ⟨hdenotes, hn⟩)
    exact ⟨.ofInt n, by rw [hreads]; rfl, hint⟩

/-- The binary number of `2 ^ 63` with a sign: the least integer of 64 bits, or the first behind the
greatest. -/
def twoPow63 (negative : Bool) : Binary64 := ⟨if negative then 0xC3E0000000000000 else 0x43E0000000000000⟩

theorem number?_twoPow63 (negative : Bool) :
    (twoPow63 negative).number? = .some (Quantity.signed negative (2 ^ 63)) := by
  have hbits : (twoPow63 negative).bits.toNat / 2 ^ 63 = negative.toNat ∧
      (twoPow63 negative).bits.toNat / 2 ^ 52 % 2 ^ 11 = 1086 ∧ (twoPow63 negative).bits.toNat % 2 ^ 52 = 0 := by
    cases negative <;> decide
  obtain ⟨hsign, hexponent, hfraction⟩ := hbits
  rw [Binary64.number?]
  simp only [hsign, hexponent, hfraction]
  cases negative <;> norm_num [Quantity.signed]

/-- One end of the range is taken, and what is behind the other is refused. -/
theorem coerce_integer_ends :
    Scalar.int64.integers? = .some (Set.Ico (-2 ^ 63) (2 ^ 63)) ∧
      (∀ negative, (Value.float (twoPow63 negative)).isNull = false) ∧
      (∃ i, Scalar.int64.coerce (.float (twoPow63 true)) = .ok (.int i) ∧ i.toInt = -2 ^ 63) ∧
      ∀ w, Scalar.int64.coerce (.float (twoPow63 false)) ≠ .ok w := by
  refine ⟨rfl, fun _ => rfl, ((coerce_integer_iff rfl rfl).2 _).2 ⟨?_, by simp⟩, fun w hw => ?_⟩
  · norm_num [Denotes, number?_twoPow63, Quantity.signed]
  · obtain ⟨i, rfl⟩ := (coerce_integer_iff rfl rfl).1 w hw
    obtain ⟨hdenotes, -, hlt⟩ := ((coerce_integer_iff rfl rfl).2 i.toInt).1 ⟨i, hw, rfl⟩
    have hnumber : (2 ^ 63 : ℚ) = i.toInt := Option.some.inj ((number?_twoPow63 false).symm.trans hdenotes)
    have hint : 2 ^ 63 = i.toInt := by exact_mod_cast hnumber
    omega

end Value

end ParamQuery
