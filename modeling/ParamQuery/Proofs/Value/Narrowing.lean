/-
Texts as binary numbers of 32 bits.

A parameter rounds the text's number once, to the nearest number of 32 bits
(`Literal.isNearest_toBinary32`). A field rounds it to 64 bits first and that result
to 32. Both take the same texts, and get the same bits unless the first
rounding puts the number half-way between two numbers of 32 bits, the odd
one of which was the nearer (`float4_of_text`).
-/
import ParamQuery.Proofs.Number.Literal
import ParamQuery.Proofs.Value.Numbers

namespace ParamQuery

open Number (bigEndian ofBigEndian Binary32 Binary64 BinaryFormat Literal)

namespace Number

/-! ## What is asked for -/

/-- What a literal stands for. -/
def Literal.quantity (l : Literal) : Quantity :=
  match l.magnitude with
  | .finite d => .finite (Quantity.signed l.negative d.value)
  | .infinite => .infinite l.negative
  | .nan => .nan

/-- Rounding to 64 bits does not hide the side on which a literal is of the number half-way between
two numbers of 32 bits, or the even one of them is on that side. -/
def Literal.IsNarrowedAlike (l : Literal) : Prop :=
  ∀ d, l.magnitude = .finite d → ∀ v < BinaryFormat.single.infinity,
    BinaryFormat.double.value (BinaryFormat.double.ofDecimal d) = BinaryFormat.single.halfway v →
    (d.value < BinaryFormat.single.halfway v → v % 2 = 0) ∧
      (BinaryFormat.single.halfway v < d.value → v % 2 = 1)

/-! ## Bits -/

theorem Binary32.ofWord_inj {negative : Bool} {v w : Nat} (hv : v < 2 ^ 31) (hw : w < 2 ^ 31) :
    Binary32.ofWord negative v = .ofWord negative w ↔ v = w := by
  refine ⟨fun h => ?_, fun h => by rw [h]⟩
  rw [← (Binary32.ofWord_parts negative hv).2, h, (Binary32.ofWord_parts negative hw).2]

theorem Binary32.bytes_inj {x y : Binary32} : x.bytes = y.bytes ↔ x = y := by
  refine ⟨fun h => ?_, fun h => by rw [h]⟩
  have hread : ∀ z : Binary32, ofBigEndian z.bytes = z.bits.toNat := fun z =>
    ofBigEndian_bigEndian_of_lt z.bits.toNat_lt
  have hbits : x.bits.toNat = y.bits.toNat := by rw [← hread x, ← hread y, h]
  cases x
  cases y
  exact congrArg Binary32.mk (UInt32.toNat_inj.1 hbits)

/-! ## Literals -/

namespace Literal

/-- The word of 32 bits that is made of a literal at once. -/
def directWord (l : Literal) : Nat :=
  match l.magnitude with
  | .finite d => BinaryFormat.single.ofDecimal d
  | .infinite => BinaryFormat.single.infinity
  | .nan => BinaryFormat.single.infinity + 2 ^ 22

theorem toBinary32_eq (l : Literal) : l.toBinary32 = .ofWord l.negative l.directWord := by
  obtain ⟨negative, magnitude⟩ := l
  cases magnitude <;> rfl

theorem directWord_lt (l : Literal) : l.directWord < 2 ^ 31 := by
  have hinfinity : BinaryFormat.single.infinity < 2 ^ 31 := by decide
  unfold directWord
  split
  · rename_i d _
    exact Nat.lt_of_le_of_lt (BinaryFormat.isBounded_single.isNearest_ofDecimal d).le_infinity hinfinity
  · exact hinfinity
  · decide

/-- **A literal becomes the number of 32 bits that is nearest to what it stands for.** -/
theorem isNearest_toBinary32 (l : Literal) :
    ∃ received, Wire.number? .float4 l.toBinary32.bytes = .some received ∧
      Quantity.IsNearest .single received l.quantity := by
  obtain ⟨hsign, hword⟩ := Binary32.ofWord_parts l.negative l.directWord_lt
  have hreceived := l.toBinary32.received
  rw [toBinary32_eq] at hreceived ⊢
  rw [hsign, hword] at hreceived
  refine ⟨_, hreceived, ?_⟩
  unfold directWord quantity
  split
  · rename_i d _
    have hnearest := BinaryFormat.isBounded_single.isNearest_ofDecimal d
    refine .finite ?_ ?_
    · rwa [Quantity.abs_signed, abs_of_nonneg d.value_nonneg]
    · rw [Quantity.abs_signed, abs_of_nonneg d.value_nonneg]
  · rw [Quantity.ofWord_infinity]
    exact .infinite _
  · rw [Quantity.ofWord_nan _ (by omega)]
    exact .nan

end Literal

/-! ## Rounding twice -/

/-- A number of 64 bits that is a number or infinite is rounded to a nearest word. -/
theorem isNearest_narrowedWord {x : Binary64} (hx : x.word ≤ BinaryFormat.double.infinity) :
    BinaryFormat.single.IsNearest (Value.narrowed x) (BinaryFormat.double.value x.word) := by
  have hnan : ¬ x.isNaN = true := by simp [Binary64.isNaN, hx]
  rw [Value.narrowed, if_neg hnan]
  rcases Nat.lt_or_eq_of_le hx with hlt | heq
  · have hfinite : x.isFinite = true := by simp [Binary64.isFinite, hlt]
    have hscale : 1074 = BinaryFormat.double.scale := rfl
    rw [if_pos hfinite, hscale]
    exact BinaryFormat.isNearest_value (by decide) .double x.word
  · have hfinite : ¬ x.isFinite = true := by simp [Binary64.isFinite, heq]
    rw [if_neg hfinite, heq]
    exact BinaryFormat.isNearest_infinity BinaryFormat.isFiner_double_single.reach

/-- **Rounding to 64 bits first** gives the same bits exactly for these literals. -/
theorem Literal.toBinary32_eq_iff (l : Literal) : l.toBinary32 = l.toBinary64.toBinary32 ↔ l.IsNarrowedAlike := by
  obtain ⟨negative, magnitude⟩ := l
  cases magnitude with
  | finite d =>
    have hdirect := BinaryFormat.isBounded_single.isNearest_ofDecimal d
    have hfirst := BinaryFormat.isBounded_double.isNearest_ofDecimal d
    have hinfinity : BinaryFormat.double.infinity < 2 ^ 63 := by decide
    have hinfinity' : BinaryFormat.single.infinity < 2 ^ 31 := by decide
    obtain ⟨hsign, hword⟩ :=
      Binary64.ofWord_parts negative (Nat.lt_of_le_of_lt hfirst.le_infinity hinfinity)
    have hsecond := isNearest_narrowedWord (x := .ofWord negative (BinaryFormat.double.ofDecimal d))
      (by rw [hword]; exact hfirst.le_infinity)
    rw [hword] at hsecond
    have hwords : (⟨negative, .finite d⟩ : Literal).toBinary32 =
          (⟨negative, .finite d⟩ : Literal).toBinary64.toBinary32 ↔
        BinaryFormat.single.ofDecimal d =
          Value.narrowed (.ofWord negative (BinaryFormat.double.ofDecimal d)) := by
      rw [Literal.toBinary64, Value.toBinary32_eq, hsign]
      exact Binary32.ofWord_inj (Nat.lt_of_le_of_lt hdirect.le_infinity hinfinity')
        (Nat.lt_of_le_of_lt hsecond.le_infinity hinfinity')
    rw [hwords, BinaryFormat.isFiner_double_single.eq_round_twice_iff hdirect hfirst hsecond]
    exact ⟨fun h e he => by cases he; exact h, fun h => h d rfl⟩
  | infinite =>
    refine iff_of_true ?_ (fun d hd => by cases hd)
    cases negative <;> decide +kernel
  | nan =>
    refine iff_of_true ?_ (fun d hd => by cases hd)
    cases negative <;> decide +kernel

end Number

/-! ## Values -/

namespace Value

/-- **A text is sent as the nearest number of 32 bits, and refused if it is refused in a cell.** What
a cell gets from it is the same number exactly if rounding to 64 bits in between does not matter. -/
theorem float4_of_text (s : String) :
    match Literal.read (Text.trim s.toList) with
    | .error _ => (∃ e, (Value.text s).bind .float4 = .error e) ∧ ∃ e, (Value.text s).toBinary32 = .error e
    | .ok l =>
      ∃ data received x, (Value.text s).bind .float4 = .ok (.some data) ∧
        Wire.number? .float4 data = .some received ∧ Quantity.IsNearest .single received l.quantity ∧
        (Value.text s).toBinary32 = .ok x ∧ (data = x.bytes ↔ l.IsNarrowedAlike) := by
  cases hread : Literal.read (Text.trim s.toList) with
  | error fault => simp [toBinary32, toBinary64, bind, bindText, hread, Except.map]
  | ok l =>
    have hsent : (Value.text s).bind .float4 = .ok (.some l.toBinary32.bytes) := by
      simp [bind, bindText, hread, Except.map]
    have hfound : (Value.text s).toBinary32 = .ok l.toBinary64.toBinary32 := by
      simp [toBinary32, toBinary64, hread, Except.map]
    obtain ⟨received, hreceived, hnearest⟩ := l.isNearest_toBinary32
    exact ⟨_, received, _, hsent, hreceived, hnearest, hfound,
      Number.Binary32.bytes_inj.trans l.toBinary32_eq_iff⟩

/-- A number that is a little more than half-way from 1 to the next one of 32 bits. -/
def besideHalfway : Literal := ⟨false, .finite ⟨1000000059604644775390625000000001, -33⟩⟩

theorem read_besideHalfway :
    Literal.read (Text.trim "1.000000059604644775390625000000001".toList) = .ok besideHalfway := by decide +kernel

/-- Its text is sent as the next number, and read in a cell as 1. -/
theorem float4_besideHalfway :
    (Value.text "1.000000059604644775390625000000001").bind .float4 = .ok (.some [0x3F, 0x80, 0x00, 0x01]) ∧
      (Value.text "1.000000059604644775390625000000001").toBinary32 = .ok ⟨0x3F800000⟩ ∧
      (⟨0x3F800000⟩ : Binary32).bytes = [0x3F, 0x80, 0x00, 0x00] := by
  have honce : besideHalfway.toBinary32.bytes = [0x3F, 0x80, 0x00, 0x01] := by decide +kernel
  have htwice : besideHalfway.toBinary64.toBinary32 = ⟨0x3F800000⟩ := by decide +kernel
  refine ⟨?_, ?_, by decide⟩
  · simp only [bind, bindText, read_besideHalfway, Except.map, honce]
  · simp only [toBinary32, toBinary64, read_besideHalfway, Except.map, htwice]

end Value

end ParamQuery
