/-
Numbers as parameters.

A number that is sent for a parameter of a numeric type should be read by
the database as that number: exactly for the integer types, rounded to the
nearest number of the type for the others. `numeric` has places for every
binary number, so the nearest of its numbers is the number itself
(`isNearestNumeric_iff`).

`isKept_iff` says when this holds. It holds of every integer, of binary
numbers for the floating point types, and of decimals for `numeric`. Two
rules do not always give the nearest number: a decimal becomes a `float8` in
several steps, which have to end where one rounding does, and a binary number
becomes a `numeric` by way of a decimal, so it has to have one
(`Decimal.HasDecimal`). They are off by little all the same
(`isAbout_toBinary64`, `isAbout_ofBinary64?`). The other pairs of a kind and
a type have no rule, and the value is sent in its own form: the database then
refuses the bytes or reads another number, and only some zeros are read as
what they are.
-/
import ParamQuery.Proofs.Number.Bits
import ParamQuery.Proofs.Number.Decimal.Exact
import ParamQuery.Proofs.Number.Integer
import ParamQuery.Proofs.Value.Received

namespace ParamQuery

open Number (bigEndian ofBigEndian signedOfBigEndian Binary32 Binary64 BinaryFormat Decimal IntRange)

/-! ## What is asked for -/

namespace Quantity

/-- `received` is `meant`, rounded to the nearest number of a binary format. -/
inductive IsNearest (f : BinaryFormat) : (received meant : Quantity) → Prop where
  | finite {x : ℚ} {negative : Bool} {w : Nat} (nearest : f.IsNearest w |x|)
    (sign : signed negative |x| = x) : IsNearest f (.ofWord f negative w) (.finite x)
  | infinite (negative : Bool) : IsNearest f (.infinite negative) (.infinite negative)
  | nan : IsNearest f .nan .nan

/-- `received` is `meant`, rounded to the nearest number that has at most the places of a `numeric`. -/
inductive IsNearestNumeric : (received meant : Quantity) → Prop where
  | finite {y x : ℚ} (nearest : ∀ (m : ℤ) (places : Nat), places < 0x4000 → |y - x| ≤ |m / 10 ^ places - x|) :
    IsNearestNumeric (.finite y) (.finite x)
  | infinite (negative : Bool) : IsNearestNumeric (.infinite negative) (.infinite negative)
  | nan : IsNearestNumeric .nan .nan

/-- `received` is `meant`, up to an absolute and a relative error. -/
def IsAbout (absolute relative : ℚ) (received meant : Quantity) : Prop :=
  ∃ y x, received = .finite y ∧ meant = .finite x ∧ |y - x| ≤ absolute + relative * |x|

theorem abs_signed (negative : Bool) (q : ℚ) : |signed negative q| = |q| := by
  cases negative <;> simp [signed]

theorem signed_sub (negative : Bool) (y x : ℚ) :
    signed negative y - signed negative x = signed negative (y - x) := by
  cases negative
  · simp [signed]
  · simp [signed]
    ring

theorem signed_zero (negative : Bool) : signed negative 0 = 0 := by
  cases negative <;> simp [signed]

theorem ofWord_finite {f : BinaryFormat} (negative : Bool) {w : Nat} (h : w < f.infinity) :
    ofWord f negative w = .finite (signed negative (f.value w)) := by
  rw [ofWord, if_pos h]

theorem ofWord_infinity (f : BinaryFormat) (negative : Bool) :
    ofWord f negative f.infinity = .infinite negative := by
  rw [ofWord, if_neg (Nat.lt_irrefl _), if_pos rfl]

theorem ofWord_nan {f : BinaryFormat} (negative : Bool) {w : Nat} (h : f.infinity < w) :
    ofWord f negative w = .nan := by
  rw [ofWord, if_neg (Nat.lt_asymm h), if_neg (Nat.ne_of_gt h)]

theorem isNearest_ofWord_iff {f : BinaryFormat} {negative : Bool} {w : Nat} {x : ℚ} (hw : w < f.infinity)
    (hx : signed negative |x| = x) : IsNearest f (ofWord f negative w) (.finite x) ↔ f.IsNearest w |x| := by
  refine ⟨fun h => ?_, fun h => .finite h hx⟩
  generalize hreceived : ofWord f negative w = received at h
  cases h with
  | @finite _ _ v nearest _ =>
    have hv : v < f.infinity := by
      refine Nat.lt_of_le_of_ne nearest.le_infinity fun heq => ?_
      rw [ofWord_finite _ hw, heq, ofWord_infinity] at hreceived
      simp at hreceived
    rw [ofWord_finite _ hw, ofWord_finite _ hv, finite.injEq] at hreceived
    have habs := congrArg abs hreceived
    rw [abs_signed, abs_signed, abs_of_nonneg (f.value_nonneg w), abs_of_nonneg (f.value_nonneg v)] at habs
    rwa [f.value_strictMono.injective habs]

/-- A binary number is its own nearest one. -/
theorem isNearest_self (f : BinaryFormat) (negative : Bool) (w : Nat) :
    IsNearest f (ofWord f negative w) (ofWord f negative w) := by
  rcases Nat.lt_trichotomy w f.infinity with hlt | heq | hgt
  · have hsign : signed negative |signed negative (f.value w)| = signed negative (f.value w) := by
      rw [abs_signed, abs_of_nonneg (f.value_nonneg w)]
    have hself : f.IsNearest w (f.value w) := by
      refine ⟨Nat.le_of_lt hlt, fun v _ => ?_, fun v _ heq hne => ?_⟩
      · rw [sub_self, abs_zero]
        exact abs_nonneg _
      · rw [sub_self, abs_zero, eq_comm, abs_eq_zero, sub_eq_zero] at heq
        exact absurd (f.value_strictMono.injective heq) hne
    rw [← abs_of_nonneg (f.value_nonneg w), ← abs_signed negative] at hself
    have h := (isNearest_ofWord_iff hlt hsign).2 hself
    rwa [← ofWord_finite negative hlt] at h
  · rw [heq, ofWord_infinity]
    exact .infinite negative
  · rw [ofWord_nan negative hgt]
    exact .nan

/-- **What has the places of a `numeric` is not rounded for it.** -/
theorem isNearestNumeric_iff {y x : ℚ} {m : ℤ} {s : Nat} (hs : s < 0x4000) (hx : x = m / 10 ^ s) :
    IsNearestNumeric (.finite y) (.finite x) ↔ y = x := by
  constructor
  · rintro ⟨nearest⟩
    have hnone := nearest m s hs
    rw [← hx, sub_self, abs_zero, abs_nonpos_iff, sub_eq_zero] at hnone
    exact hnone
  · rintro rfl
    refine .finite fun n k _ => ?_
    rw [sub_self, abs_zero]
    exact abs_nonneg _

theorem isNearestNumeric_int_iff {y : ℚ} (i : Int) : IsNearestNumeric (.finite y) (.finite i) ↔ y = i :=
  isNearestNumeric_iff (m := i) (s := 0) (by decide) (by rw [pow_zero, div_one])

theorem isNearestNumeric_signed_iff {y q : ℚ} (negative : Bool) {m s : Nat} (hs : s < 0x4000)
    (hq : q = m / 10 ^ s) :
    IsNearestNumeric (.finite y) (.finite (signed negative q)) ↔ y = signed negative q := by
  refine isNearestNumeric_iff (m := if negative then -m else m) hs ?_
  rw [hq, signed]
  split
  · push_cast
    ring
  · push_cast
    rfl

theorem isNearestNumeric_decimal_iff {y : ℚ} (d : Decimal) :
    IsNearestNumeric (.finite y) (.finite (signed d.negative d.quotient)) ↔ y = signed d.negative d.quotient :=
  isNearestNumeric_signed_iff d.negative (Nat.lt_of_le_of_lt d.scale_le (by decide)) rfl

theorem value_eq_decimal (f : BinaryFormat) (w : Nat) :
    f.value w = (f.units w * 5 ^ f.scale : Nat) / 10 ^ f.scale := by
  have hten : (10 : ℚ) ^ f.scale = 2 ^ f.scale * 5 ^ f.scale := by
    rw [← mul_pow]
    norm_num
  rw [BinaryFormat.value, hten]
  push_cast
  field_simp

/-- **A `numeric` has room for every binary number.** -/
theorem isNearestNumeric_double_iff {y : ℚ} (negative : Bool) (w : Nat) :
    IsNearestNumeric (.finite y) (.finite (signed negative (BinaryFormat.double.value w))) ↔
      y = signed negative (BinaryFormat.double.value w) :=
  isNearestNumeric_signed_iff negative (by decide) (value_eq_decimal .double w)

end Quantity

namespace Value

/-- The number that a value is, if it is of a kind of numbers. -/
def quantity? : Value → Option Quantity
  | .int i => .some (.finite i.toInt)
  | .float x => .some (.ofWord .double x.negative x.word)
  | .decimal d => .some (.finite (Quantity.signed d.negative d.quotient))
  | _ => .none

/-- How a number must be received for a parameter of a type. -/
def Renders (type : PgType) (received meant : Quantity) : Prop :=
  match type with
  | .float4 => Quantity.IsNearest .single received meant
  | .float8 => Quantity.IsNearest .double received meant
  | .numeric => Quantity.IsNearestNumeric received meant
  | _ => received = meant

/-- Whether a number is in the range of what it is converted to. -/
def Fits : Value → PgType → Prop
  | .int i, .int2 => -2 ^ 15 ≤ i.toInt ∧ i.toInt < 2 ^ 15
  | .int i, .int4 => -2 ^ 31 ≤ i.toInt ∧ i.toInt < 2 ^ 31
  | .float x, .numeric => x.isFinite = true ∧ BinaryFormat.double.value x.word < 2 ^ 96
  | _, _ => True

/-- The number is sent so that the database receives it, or it is not sent at all. -/
structure IsKept (v : Value) (type : PgType) (meant : Quantity) : Prop where
  sent : v.Fits type → ∃ bytes, v.bind type = .ok (.some bytes)
  read : ∀ bytes, v.bind type = .ok (.some bytes) →
    ∃ received, Wire.number? type bytes = .some received ∧ Renders type received meant
  refused : (¬ ∃ bytes received, Wire.number? type bytes = .some received ∧ Renders type received meant) →
    ∃ fault, v.bind type = .error fault

/-- Whether there is a rule that converts a number of the value's kind to the type, and gives the
nearest one. -/
def HasSoundRule : Value → PgType → Prop
  | .int _, _ => True
  | .float _, .float4 => True
  | .float _, .float8 => True
  | .float x, .numeric => x.isFinite = true →
    Decimal.HasDecimal (BinaryFormat.double.value x.word) ∨ 2 ^ 96 < BinaryFormat.double.value x.word
  | .decimal d, .float8 => d.IsRoundedOnce
  | .decimal _, .numeric => True
  | _, _ => False

/-- A zero of which the bytes are all zero and eight. -/
def IsBlankZero : Value → Prop
  | .float x => x.bits = 0
  | .decimal d => d.magnitude = 0
  | _ => False

end Value

/-- Whether a type holds numbers. -/
def PgType.isNumber : PgType → Bool
  | .int2 | .int4 | .int8 | .float4 | .float8 | .numeric => true
  | _ => false

/-! ## Words with a sign -/

namespace Number

theorem Binary64.ofWord_parts (negative : Bool) {w : Nat} (h : w < 2 ^ 63) :
    (Binary64.ofWord negative w).negative = negative ∧ (Binary64.ofWord negative w).word = w := by
  have hbits : (Binary64.ofWord negative w).bits.toNat = (if negative then 2 ^ 63 else 0) + w := by
    have hroom : (if negative then Nat.pow 2 63 else 0) + w < 2 ^ 64 := by
      rw [Nat.pow_eq]
      split <;> omega
    exact UInt64.toNat_ofNat_of_lt hroom
  unfold Binary64.negative Binary64.word
  rw [hbits]
  cases negative
  · exact ⟨by simp; omega, by simp; omega⟩
  · exact ⟨by simp, by simp; omega⟩

theorem Binary32.ofWord_parts (negative : Bool) {w : Nat} (h : w < 2 ^ 31) :
    (Binary32.ofWord negative w).negative = negative ∧ (Binary32.ofWord negative w).word = w := by
  have hbits : (Binary32.ofWord negative w).bits.toNat = (if negative then 2 ^ 31 else 0) + w := by
    have hroom : (if negative then Nat.pow 2 31 else 0) + w < 2 ^ 32 := by
      rw [Nat.pow_eq]
      split <;> omega
    exact UInt32.toNat_ofNat_of_lt hroom
  unfold Binary32.negative Binary32.word
  rw [hbits]
  cases negative
  · exact ⟨by simp; omega, by simp; omega⟩
  · exact ⟨by simp, by simp; omega⟩

end Number

/-! ## Integers -/

namespace Value

theorem isNearest_natAbs {f : BinaryFormat} (hp : 1 < f.precision) (i : Int) :
    f.IsNearest (f.ofRatio i.natAbs 1) |(i : ℚ)| := by
  have h := BinaryFormat.isNearest_ofRatio hp i.natAbs Nat.one_pos
  rwa [Nat.cast_one, div_one, Nat.cast_natAbs, Int.cast_abs] at h

theorem signed_abs (i : Int) : Quantity.signed (decide (i < 0)) |(i : ℚ)| = i := by
  unfold Quantity.signed
  by_cases h : i < 0
  · have hneg : (i : ℚ) < 0 := by exact_mod_cast h
    simp [h, abs_of_neg hneg]
  · have hnonneg : (0 : ℚ) ≤ i := by exact_mod_cast Int.not_lt.1 h
    simp [h, abs_of_nonneg hnonneg]

/-- An integer that is checked has room, so it is received. -/
theorem received_check {type : PgType} {count : Nat} {i j : Int}
    (htype : (type, count) ∈ [(PgType.int2, 2), (.int4, 4), (.int8, 8)])
    (h : (IntRange.signed (8 * count)).check i = .ok j) :
    Wire.number? type (bigEndian count j) = .some (.finite i) := by
  obtain ⟨hholds, rfl⟩ := IntRange.check_eq_ok_iff.1 h
  obtain ⟨hleast, hgreatest⟩ := IntRange.holds_iff.1 hholds
  have hpos : 1 ≤ 8 * count := by
    simp only [List.mem_cons, Prod.mk.injEq, List.not_mem_nil, or_false] at htype
    omega
  have hroom : (256 : Int) ^ count = 2 * 2 ^ (8 * count - 1) := by
    have hbase : (256 : Int) = 2 ^ 8 := by norm_num
    rw [hbase, ← pow_mul, ← pow_succ', Nat.sub_add_cancel hpos]
  have hleast : -2 ^ (8 * count - 1) ≤ i := hleast
  have hgreatest : i ≤ 2 ^ (8 * count - 1) - 1 := hgreatest
  exact Number.received_bigEndian htype (by omega) (by omega)

theorem received_int8 (i : Int64) :
    Wire.number? .int8 (bigEndian 8 i.toInt) = .some (.finite i.toInt) := by
  have hleast := i.le_toInt
  have hgreatest := i.toInt_lt
  exact Number.received_bigEndian (by simp) (by omega) (by omega)

theorem isNearest_ofInt32 (i : Int) :
    ∃ received, Wire.number? .float4 (Binary32.ofInt i).bytes = .some received ∧
      Quantity.IsNearest .single received (.finite i) := by
  have hnearest := isNearest_natAbs (f := .single) (by decide) i
  have hroom : BinaryFormat.single.ofRatio i.natAbs 1 < 2 ^ 31 :=
    Nat.lt_of_le_of_lt hnearest.le_infinity (by decide)
  obtain ⟨hsign, hword⟩ := Binary32.ofWord_parts (decide (i < 0)) hroom
  have hreceived := (Binary32.ofInt i).received
  unfold Binary32.ofInt at hreceived ⊢
  rw [hsign, hword] at hreceived
  exact ⟨_, hreceived, .finite hnearest (signed_abs i)⟩

theorem isNearest_ofInt64 (i : Int) :
    ∃ received, Wire.number? .float8 (Binary64.ofInt i).bytes = .some received ∧
      Quantity.IsNearest .double received (.finite i) := by
  have hnearest := isNearest_natAbs (f := .double) (by decide) i
  have hroom : BinaryFormat.double.ofRatio i.natAbs 1 < 2 ^ 63 :=
    Nat.lt_of_le_of_lt hnearest.le_infinity (by decide)
  obtain ⟨hsign, hword⟩ := Binary64.ofWord_parts (decide (i < 0)) hroom
  have hreceived := (Binary64.ofInt i).received
  unfold Binary64.ofInt at hreceived ⊢
  rw [hsign, hword] at hreceived
  exact ⟨_, hreceived, .finite hnearest (signed_abs i)⟩

theorem received_decimalOfInt (i : Int64) :
    Wire.number? .numeric (decimalOfInt i).bytes = .some (.finite i.toInt) := by
  have hroom : i.toInt.natAbs < Nat.pow 2 96 ∧ 0 ≤ 28 := by
    have hleast := i.le_toInt
    have hgreatest := i.toInt_lt
    rw [Nat.pow_eq]
    omega
  have hdecimal : decimalOfInt i = ⟨decide (i.toInt < 0), i.toInt.natAbs, 0, hroom.1, hroom.2⟩ := by
    rw [decimalOfInt, Decimal.ofInt?, Decimal.make?, dif_pos hroom, Option.getD_some]
  have hnumber : Quantity.signed (decimalOfInt i).negative (decimalOfInt i).quotient = i.toInt := by
    rw [hdecimal, Decimal.quotient, pow_zero, div_one, Nat.cast_natAbs, Int.cast_abs, signed_abs]
  rw [Decimal.received, hnumber]

/-! ## Binary numbers and decimals -/

/-- The word of 32 bits that a number of 64 bits becomes. -/
def narrowed (x : Binary64) : Nat :=
  if x.isNaN then BinaryFormat.single.infinity + Nat.pow 2 22 + x.word % Nat.pow 2 51 / Nat.pow 2 29
  else if x.isFinite then
    BinaryFormat.single.ofRatio (BinaryFormat.double.units x.word) (Nat.pow 2 1074)
  else BinaryFormat.single.infinity

theorem toBinary32_eq (x : Binary64) : x.toBinary32 = .ofWord x.negative (narrowed x) := rfl

theorem isNearest_narrowed (x : Binary64) : narrowed x < 2 ^ 31 ∧
    Quantity.IsNearest .single (.ofWord .single x.negative (narrowed x)) (.ofWord .double x.negative x.word) := by
  have hinfinity : BinaryFormat.single.infinity < 2 ^ 31 := by decide
  -- Words below infinity are rounded, infinity stays itself, and a word behind it stays behind it.
  rcases Nat.lt_trichotomy x.word BinaryFormat.double.infinity with hlt | heq | hgt
  · have hword : narrowed x =
        BinaryFormat.single.ofRatio (BinaryFormat.double.units x.word) (Nat.pow 2 1074) := by
      have hnan : ¬ x.isNaN = true := by simp [Binary64.isNaN, Nat.le_of_lt hlt]
      have hfinite : x.isFinite = true := by simp [Binary64.isFinite, hlt]
      rw [narrowed, if_neg hnan, if_pos hfinite]
    have hnearest : BinaryFormat.single.IsNearest (narrowed x)
        |Quantity.signed x.negative (BinaryFormat.double.value x.word)| := by
      have hscale : 1074 = BinaryFormat.double.scale := rfl
      rw [Quantity.abs_signed, abs_of_nonneg (BinaryFormat.value_nonneg _ _), hword, hscale]
      exact BinaryFormat.isNearest_value (by decide) .double x.word
    refine ⟨Nat.lt_of_le_of_lt hnearest.le_infinity hinfinity, ?_⟩
    rw [Quantity.ofWord_finite x.negative hlt]
    refine .finite hnearest ?_
    rw [Quantity.abs_signed, abs_of_nonneg (BinaryFormat.value_nonneg _ _)]
  · have hword : narrowed x = BinaryFormat.single.infinity := by
      have hnan : ¬ x.isNaN = true := by simp [Binary64.isNaN, heq]
      have hfinite : ¬ x.isFinite = true := by simp [Binary64.isFinite, heq]
      rw [narrowed, if_neg hnan, if_neg hfinite]
    rw [hword, heq, Quantity.ofWord_infinity, Quantity.ofWord_infinity]
    exact ⟨hinfinity, .infinite _⟩
  · have hword : narrowed x =
        BinaryFormat.single.infinity + Nat.pow 2 22 + x.word % Nat.pow 2 51 / Nat.pow 2 29 := by
      have hnan : x.isNaN = true := by simp [Binary64.isNaN, hgt]
      rw [narrowed, if_pos hnan]
    have hrest : x.word % Nat.pow 2 51 / Nat.pow 2 29 < Nat.pow 2 22 := by
      simp only [Nat.pow_eq]
      omega
    have hsum : BinaryFormat.single.infinity + Nat.pow 2 22 + Nat.pow 2 22 = 2 ^ 31 := by decide
    have hpos : 0 < Nat.pow 2 22 := Nat.two_pow_pos 22
    generalize x.word % Nat.pow 2 51 / Nat.pow 2 29 = rest at hword hrest
    rw [Quantity.ofWord_nan x.negative hgt, Quantity.ofWord_nan x.negative (by omega)]
    exact ⟨by omega, .nan⟩

theorem isNearest_toBinary32 (x : Binary64) :
    ∃ received, Wire.number? .float4 x.toBinary32.bytes = .some received ∧
      Quantity.IsNearest .single received (.ofWord .double x.negative x.word) := by
  obtain ⟨hroom, hnearest⟩ := isNearest_narrowed x
  obtain ⟨hsign, hword⟩ := Binary32.ofWord_parts x.negative hroom
  have hreceived := x.toBinary32.received
  rw [toBinary32_eq] at hreceived ⊢
  rw [hsign, hword] at hreceived
  exact ⟨_, hreceived, hnearest⟩

theorem isAbout_ofBinary64? {x : Binary64} {d : Decimal} (h : Decimal.ofBinary64? x = .some d) :
    ∃ received, Wire.number? .numeric d.bytes = .some received ∧
      Quantity.IsAbout (1 / 10 ^ 28) (1 / 2 ^ 49) received (.ofWord .double x.negative x.word) := by
  obtain ⟨hfinite, hsign, hnear⟩ := Decimal.ofBinary64?_eq_some h
  have hword : x.word < BinaryFormat.double.infinity := of_decide_eq_true hfinite
  refine ⟨_, d.received, _, _, rfl, Quantity.ofWord_finite x.negative hword, ?_⟩
  rw [hsign, Quantity.signed_sub, Quantity.abs_signed, Quantity.abs_signed,
    abs_of_nonneg (BinaryFormat.value_nonneg _ _)]
  exact hnear

/-- The sign of a zero without places is lost, which does not change the number. -/
theorem signed_quotient (d : Decimal) :
    Quantity.signed (d.negative && (d.scale != 0 || d.magnitude != 0)) d.quotient =
      Quantity.signed d.negative d.quotient := by
  by_cases hzero : d.magnitude = 0
  · have hquot : d.quotient = 0 := by simp [Decimal.quotient, hzero]
    rw [hquot, Quantity.signed_zero, Quantity.signed_zero]
  · have hmagnitude : (d.magnitude != 0) = true := by simpa using hzero
    rw [hmagnitude, Bool.or_true, Bool.and_true]

theorem received_toBinary64 (d : Decimal) : Wire.number? .float8 d.toBinary64.bytes =
    .some (.ofWord .double (d.negative && (d.scale != 0 || d.magnitude != 0)) d.wordOf) := by
  have hroom : d.wordOf < 2 ^ 63 := Nat.lt_trans d.wordOf_lt_infinity (by decide)
  obtain ⟨hsign, hword⟩ := Binary64.ofWord_parts (d.negative && (d.scale != 0 || d.magnitude != 0)) hroom
  have hreceived := d.toBinary64.received
  rw [d.toBinary64_eq] at hreceived ⊢
  rwa [hsign, hword] at hreceived

/-- **Every decimal is sent for a `float8` up to `2 ^ -49` of it.** -/
theorem isAbout_toBinary64 (d : Decimal) :
    ∃ received, Wire.number? .float8 d.toBinary64.bytes = .some received ∧
      Quantity.IsAbout 0 (1 / 2 ^ 49) received (.finite (Quantity.signed d.negative d.quotient)) := by
  refine ⟨_, received_toBinary64 d, _, _, Quantity.ofWord_finite _ d.wordOf_lt_infinity, rfl, ?_⟩
  rw [← signed_quotient, Quantity.signed_sub, Quantity.abs_signed, Quantity.abs_signed, zero_add]
  exact d.isClose_wordOf

/-- **A decimal is sent for a `float8` as the nearest one** exactly if one rounding gives it too. -/
theorem isNearest_toBinary64_iff (d : Decimal) :
    Quantity.IsNearest .double (.ofWord .double (d.negative && (d.scale != 0 || d.magnitude != 0)) d.wordOf)
      (.finite (Quantity.signed d.negative d.quotient)) ↔ d.IsRoundedOnce := by
  have hnonneg : 0 ≤ d.quotient := by
    unfold Decimal.quotient
    positivity
  have habs : |Quantity.signed d.negative d.quotient| = d.quotient := by
    rw [Quantity.abs_signed, abs_of_nonneg hnonneg]
  rw [Quantity.isNearest_ofWord_iff d.wordOf_lt_infinity (by rw [habs, signed_quotient]), habs]
  exact d.isNearest_wordOf_iff

/-- **A decimal of a binary number is sent for a `numeric` as the nearest one** exactly if it is the same
number. -/
theorem isNearestNumeric_ofBinary64?_iff {x : Binary64} {d : Decimal} (h : Decimal.ofBinary64? x = .some d) :
    Quantity.IsNearestNumeric (.finite (Quantity.signed d.negative d.quotient))
        (.ofWord .double x.negative x.word) ↔ d.quotient = BinaryFormat.double.value x.word := by
  obtain ⟨hfinite, hsign, -⟩ := Decimal.ofBinary64?_eq_some h
  rw [Quantity.ofWord_finite _ (of_decide_eq_true hfinite), Quantity.isNearestNumeric_double_iff, hsign]
  refine ⟨fun heq => ?_, fun heq => by rw [heq]⟩
  have hzero : Quantity.signed x.negative (d.quotient - BinaryFormat.double.value x.word) = 0 := by
    rw [← Quantity.signed_sub, heq, sub_self]
  rwa [← abs_eq_zero, Quantity.abs_signed, abs_eq_zero, sub_eq_zero] at hzero

/-! ## Zeros of other types -/

theorem signedOfBigEndian_bytes (x : Binary64) :
    signedOfBigEndian x.bytes = (if x.negative then x.word - 2 ^ 63 else x.word : Int) := by
  have hlt := x.bits.toNat_lt
  have hvalue : ofBigEndian x.bytes = x.bits.toNat := Number.ofBigEndian_bigEndian_of_lt hlt
  have hlength : x.bytes.length = 8 := Number.length_bigEndian 8 _
  have hsize : Nat.pow 256 8 = 2 ^ 64 := rfl
  have hhalf : Nat.pow 2 63 = 2 ^ 63 := rfl
  rw [signedOfBigEndian, hvalue, hlength, hsize, Binary64.negative, Binary64.word, hhalf]
  by_cases hneg : 2 ^ 63 ≤ x.bits.toNat
  · rw [if_neg (by omega), if_pos (by simpa using hneg)]
    omega
  · rw [if_pos (by omega), if_neg (by simpa using hneg)]
    omega

/-- **The bits of a binary number, read as an integer, are another number**, unless all are zero. -/
theorem bits_eq_zero {x : Binary64} (h : Quantity.ofWord .double x.negative x.word =
    .finite (signedOfBigEndian x.bytes : ℚ)) : x.bits = 0 := by
  have hword : x.word < BinaryFormat.double.infinity := by
    rcases Nat.lt_trichotomy x.word BinaryFormat.double.infinity with hlt | heq | hgt
    · exact hlt
    · rw [heq, Quantity.ofWord_infinity] at h
      simp at h
    · rw [Quantity.ofWord_nan _ hgt] at h
      simp at h
  rw [Quantity.ofWord_finite _ hword, Quantity.finite.injEq, signedOfBigEndian_bytes] at h
  -- With the sign set, the bits stand for what is missing to `2 ^ 63`, below zero.
  cases hneg : x.negative with
  | true =>
    rw [hneg] at h
    simp only [Quantity.signed, if_true] at h
    have hroom : x.word < 2 ^ 63 := Nat.lt_trans hword (by decide)
    have hvalue : BinaryFormat.double.value x.word = (2 ^ 63 - x.word : Nat) := by
      rw [Nat.cast_sub (Nat.le_of_lt hroom)]
      push_cast at h ⊢
      linarith
    rw [BinaryFormat.value, div_eq_iff (by positivity)] at hvalue
    exact absurd (by exact_mod_cast hvalue) (BinaryFormat.units_ne_complement hword)
  | false =>
    rw [hneg] at h
    simp only [Quantity.signed, Bool.false_eq_true, if_false] at h
    rcases Nat.eq_zero_or_pos x.word with hzero | hpos
    · have hbits : x.bits.toNat = 0 := by
        unfold Binary64.negative at hneg
        unfold Binary64.word at hzero
        simp only [Nat.pow_eq, decide_eq_false_iff_not] at hneg hzero
        omega
      exact UInt64.toNat_inj.1 hbits
    · have hvalue : BinaryFormat.double.value x.word = x.word := by exact_mod_cast h
      rw [BinaryFormat.value, div_eq_iff (by positivity)] at hvalue
      exact absurd (by exact_mod_cast hvalue) (BinaryFormat.units_ne_word hpos)

/-! ## The rules -/

/-- **A number that is in the range is sent.** -/
theorem exists_bind {v : Value} {type : PgType} {meant : Quantity} (h : v.quantity? = .some meant)
    (hfits : v.Fits type) : ∃ bytes, v.bind type = .ok (.some bytes) := by
  cases v with
  | int i =>
    cases type with
    | int2 =>
      have hcheck : (IntRange.signed 16).check i.toInt = .ok i.toInt :=
        IntRange.check_eq_ok_iff.2 ⟨IntRange.holds_iff.2 ⟨hfits.1, Int.le_sub_one_of_lt hfits.2⟩, rfl⟩
      exact ⟨bigEndian 2 i.toInt, by simp [bind, bindInt, hcheck, Except.map]⟩
    | int4 =>
      have hcheck : (IntRange.signed 32).check i.toInt = .ok i.toInt :=
        IntRange.check_eq_ok_iff.2 ⟨IntRange.holds_iff.2 ⟨hfits.1, Int.le_sub_one_of_lt hfits.2⟩, rfl⟩
      exact ⟨bigEndian 4 i.toInt, by simp [bind, bindInt, hcheck, Except.map]⟩
    | _ => exact ⟨_, rfl⟩
  | float x =>
    cases type with
    | numeric =>
      obtain ⟨d, hdecimal⟩ := Option.isSome_iff_exists.1 (Decimal.isSome_ofBinary64? hfits.1 hfits.2)
      exact ⟨d.bytes, by simp [bind, bindFloat, hdecimal, Except.map]⟩
    | _ => exact ⟨_, rfl⟩
  | decimal d => exact ⟨bindDecimal d type, rfl⟩
  | _ => simp [quantity?] at h

/-- **What is read decides** whether a number that is sent is kept. -/
theorem isKept_iff_renders {v : Value} {type : PgType} {meant received : Quantity} {bytes : List UInt8}
    (h : v.quantity? = .some meant) (hbind : v.bind type = .ok (.some bytes))
    (hreceived : Wire.number? type bytes = .some received) : v.IsKept type meant ↔ Renders type received meant := by
  constructor
  · intro hkept
    obtain ⟨read, hsome, hrenders⟩ := hkept.read bytes hbind
    rw [hreceived, Option.some.injEq] at hsome
    rwa [hsome]
  · intro hrenders
    refine ⟨exists_bind h, fun bytes' hbytes => ?_, fun hnone => ?_⟩
    · rw [hbind, Except.ok.injEq, Option.some.injEq] at hbytes
      exact ⟨received, hbytes ▸ hreceived, hrenders⟩
    · exact absurd ⟨bytes, received, hreceived, hrenders⟩ hnone

/-- A number that is refused is not in the range, and nothing is read. -/
theorem isKept_of_refused {v : Value} {type : PgType} {meant : Quantity} {fault : BindingError}
    (h : v.quantity? = .some meant) (hbind : v.bind type = .error fault) : v.IsKept type meant := by
  refine ⟨exists_bind h, fun bytes hbytes => ?_, fun _ => ⟨fault, hbind⟩⟩
  rw [hbind] at hbytes
  simp at hbytes

theorem not_isKept_of_unread {v : Value} {type : PgType} {meant : Quantity} {bytes : List UInt8}
    (hbind : v.bind type = .ok (.some bytes)) (hnone : Wire.number? type bytes = .none) :
    ¬ v.IsKept type meant := by
  intro hkept
  obtain ⟨received, hreceived, -⟩ := hkept.read bytes hbind
  rw [hnone] at hreceived
  simp at hreceived

/-! ## Kinds of numbers -/

/-- **Every integer is kept for every type.** -/
theorem isKept_int (i : Int64) {type : PgType} (ht : type.isNumber = true) :
    (Value.int i).IsKept type (.finite i.toInt) := by
  cases type with
  | int2 =>
    cases hcheck : (IntRange.signed 16).check i.toInt with
    | ok j =>
      have hbind : (Value.int i).bind .int2 = .ok (.some (bigEndian 2 j)) := by
        simp [bind, bindInt, hcheck, Except.map]
      exact (isKept_iff_renders rfl hbind (received_check (by simp) hcheck)).2 rfl
    | error fault =>
      have hbind : (Value.int i).bind .int2 = .error (.integer fault) := by
        simp [bind, bindInt, hcheck, Except.map]
      exact isKept_of_refused rfl hbind
  | int4 =>
    cases hcheck : (IntRange.signed 32).check i.toInt with
    | ok j =>
      have hbind : (Value.int i).bind .int4 = .ok (.some (bigEndian 4 j)) := by
        simp [bind, bindInt, hcheck, Except.map]
      exact (isKept_iff_renders rfl hbind (received_check (by simp) hcheck)).2 rfl
    | error fault =>
      have hbind : (Value.int i).bind .int4 = .error (.integer fault) := by
        simp [bind, bindInt, hcheck, Except.map]
      exact isKept_of_refused rfl hbind
  | int8 =>
    have hbind : (Value.int i).bind .int8 = .ok (.some (bigEndian 8 i.toInt)) := rfl
    exact (isKept_iff_renders rfl hbind (received_int8 i)).2 rfl
  | float4 =>
    have hbind : (Value.int i).bind .float4 = .ok (.some (Binary32.ofInt i.toInt).bytes) := rfl
    obtain ⟨received, hreceived, hnearest⟩ := isNearest_ofInt32 i.toInt
    exact (isKept_iff_renders rfl hbind hreceived).2 hnearest
  | float8 =>
    have hbind : (Value.int i).bind .float8 = .ok (.some (Binary64.ofInt i.toInt).bytes) := rfl
    obtain ⟨received, hreceived, hnearest⟩ := isNearest_ofInt64 i.toInt
    exact (isKept_iff_renders rfl hbind hreceived).2 hnearest
  | numeric =>
    have hbind : (Value.int i).bind .numeric = .ok (.some (decimalOfInt i).bytes) := rfl
    exact (isKept_iff_renders rfl hbind (received_decimalOfInt i)).2
      ((Quantity.isNearestNumeric_int_iff i.toInt).2 rfl)
  | _ => simp [PgType.isNumber] at ht

/-- For a `numeric` a binary number needs a decimal, or it is refused. -/
theorem isKept_float_numeric_iff (x : Binary64) :
    (Value.float x).IsKept .numeric (.ofWord .double x.negative x.word) ↔ (Value.float x).HasSoundRule .numeric := by
  have hexact : (Value.float x).HasSoundRule .numeric ↔
      ∀ d, Decimal.ofBinary64? x = .some d → d.quotient = BinaryFormat.double.value x.word := by
    by_cases hfinite : x.isFinite = true
    · rw [Decimal.ofBinary64?_exact_iff hfinite]
      exact ⟨fun h => h hfinite, fun h _ => h⟩
    · have hnone : Decimal.ofBinary64? x = .none := by simp [Decimal.ofBinary64?, hfinite]
      refine iff_of_true (fun h => absurd h hfinite) fun d hd => ?_
      rw [hnone] at hd
      simp at hd
  rw [hexact]
  cases hdecimal : Decimal.ofBinary64? x with
  | none =>
    have hbind : (Value.float x).bind .numeric = .error .noDecimal := by
      simp [bind, bindFloat, hdecimal, Except.map]
    exact iff_of_true (isKept_of_refused rfl hbind) (by simp)
  | some d =>
    have hbind : (Value.float x).bind .numeric = .ok (.some d.bytes) := by
      simp [bind, bindFloat, hdecimal, Except.map]
    rw [isKept_iff_renders rfl hbind d.received, Renders, isNearestNumeric_ofBinary64?_iff hdecimal]
    simp

theorem isKept_float_iff (x : Binary64) {type : PgType} (ht : type.isNumber = true) :
    (Value.float x).IsKept type (.ofWord .double x.negative x.word) ↔
      (Value.float x).HasSoundRule type ∨ (type = .int8 ∧ x.bits = 0) := by
  have hlength : x.bytes.length = 8 := Number.length_bigEndian 8 _
  cases type with
  | int2 =>
    have hnone : Wire.number? .int2 x.bytes = .none :=
      Wire.number?_of_length_ne 2 (by simp) (by omega)
    exact iff_of_false (not_isKept_of_unread rfl hnone) (by simp [HasSoundRule])
  | int4 =>
    have hnone : Wire.number? .int4 x.bytes = .none :=
      Wire.number?_of_length_ne 4 (by simp) (by omega)
    exact iff_of_false (not_isKept_of_unread rfl hnone) (by simp [HasSoundRule])
  | int8 =>
    -- The size is right, so an integer is read, and all depends on which one.
    have hreceived : Wire.number? .int8 x.bytes = .some (.finite (signedOfBigEndian x.bytes)) := by
      rw [Wire.number?, Wire.exactly_of_length _ hlength]
    rw [isKept_iff_renders rfl rfl hreceived]
    constructor
    · intro hrenders
      have hmeant : .finite (signedOfBigEndian x.bytes : ℚ) = Quantity.ofWord .double x.negative x.word := hrenders
      exact .inr ⟨rfl, bits_eq_zero hmeant.symm⟩
    · rintro (hrule | ⟨-, hzero⟩)
      · exact hrule.elim
      · have hword : x.word = 0 := by rw [Binary64.word, hzero]; rfl
        have hnegative : x.negative = false := by rw [Binary64.negative, hzero]; rfl
        have hmeant : .finite (signedOfBigEndian x.bytes : ℚ) = Quantity.ofWord .double x.negative x.word := by
          rw [signedOfBigEndian_bytes, hword, hnegative, Quantity.ofWord_finite false (by decide),
            BinaryFormat.value_zero, Quantity.signed_zero]
          simp
        exact hmeant
  | float4 =>
    obtain ⟨received, hreceived, hnearest⟩ := isNearest_toBinary32 x
    exact iff_of_true ((isKept_iff_renders rfl rfl hreceived).2 hnearest) (.inl trivial)
  | float8 =>
    exact iff_of_true ((isKept_iff_renders rfl rfl x.received).2 (Quantity.isNearest_self .double _ _))
      (.inl trivial)
  | numeric =>
    rw [isKept_float_numeric_iff, or_iff_left (by simp)]
  | _ => simp [PgType.isNumber] at ht

theorem isKept_decimal_iff (d : Decimal) {type : PgType} (ht : type.isNumber = true) :
    (Value.decimal d).IsKept type (.finite (Quantity.signed d.negative d.quotient)) ↔
      (Value.decimal d).HasSoundRule type ∨ (type = .int8 ∧ d.magnitude = 0) := by
  -- There is a header of eight bytes, and at least one digit behind it unless the decimal is zero.
  have hlong : d.magnitude ≠ 0 → 10 ≤ d.bytes.length := by
    intro hzero
    have hkept := List.length_pos_iff.2 (Decimal.keptOf_ne_nil hzero)
    rw [Decimal.length_bytes hzero]
    omega
  have hblank : d.magnitude = 0 → d.bytes = bigEndian 8 0 := fun hzero => by rw [Decimal.bytes, if_pos hzero]
  have hlength : 8 ≤ d.bytes.length := by
    by_cases hzero : d.magnitude = 0
    · rw [hblank hzero, Number.length_bigEndian]
    · have := hlong hzero
      omega
  cases type with
  | int2 =>
    have hnone : Wire.number? .int2 d.bytes = .none :=
      Wire.number?_of_length_ne 2 (by simp) (by omega)
    exact iff_of_false (not_isKept_of_unread rfl hnone) (by simp [HasSoundRule])
  | int4 =>
    have hnone : Wire.number? .int4 d.bytes = .none :=
      Wire.number?_of_length_ne 4 (by simp) (by omega)
    exact iff_of_false (not_isKept_of_unread rfl hnone) (by simp [HasSoundRule])
  | int8 =>
    by_cases hzero : d.magnitude = 0
    · have hreceived : Wire.number? .int8 d.bytes = .some (.finite (0 : Int)) := by
        rw [hblank hzero]
        exact Number.received_bigEndian (by simp) (by decide) (by decide)
      have hmeant : Quantity.finite (0 : Int) = .finite (Quantity.signed d.negative d.quotient) := by
        rw [Decimal.quotient, hzero, Nat.cast_zero, zero_div, Quantity.signed_zero, Int.cast_zero]
      exact iff_of_true ((isKept_iff_renders rfl rfl hreceived).2 hmeant) (.inr ⟨rfl, hzero⟩)
    · have hlong := hlong hzero
      have hnone : Wire.number? .int8 d.bytes = .none :=
        Wire.number?_of_length_ne 8 (by simp) (by omega)
      exact iff_of_false (not_isKept_of_unread rfl hnone) (by simp [HasSoundRule, hzero])
  | float4 =>
    have hnone : Wire.number? .float4 d.bytes = .none :=
      Wire.number?_of_length_ne 4 (by simp) (by omega)
    exact iff_of_false (not_isKept_of_unread rfl hnone) (by simp [HasSoundRule])
  | float8 =>
    rw [isKept_iff_renders rfl rfl (received_toBinary64 d), or_iff_left (by simp)]
    exact isNearest_toBinary64_iff d
  | numeric =>
    exact iff_of_true ((isKept_iff_renders rfl rfl d.received).2 ((Quantity.isNearestNumeric_decimal_iff d).2 rfl))
      (.inl trivial)
  | _ => simp [PgType.isNumber] at ht

/-- **Numbers are sent so that the database receives them exactly if there is a rule** for the kind
and the type that gives the nearest number, apart from two zeros for `int8`. -/
theorem isKept_iff {v : Value} {type : PgType} {meant : Quantity} (h : v.quantity? = .some meant)
    (ht : type.isNumber = true) :
    v.IsKept type meant ↔ v.HasSoundRule type ∨ (type = .int8 ∧ v.IsBlankZero) := by
  cases v with
  | int i =>
    rw [quantity?, Option.some.injEq] at h
    rw [← h]
    exact iff_of_true (isKept_int i ht) (.inl trivial)
  | float x =>
    rw [quantity?, Option.some.injEq] at h
    rw [← h]
    exact isKept_float_iff x ht
  | decimal d =>
    rw [quantity?, Option.some.injEq] at h
    rw [← h]
    exact isKept_decimal_iff d ht
  | _ => simp [quantity?] at h

theorem value_two : BinaryFormat.double.value 0x4000000000000000 = 2 := by
  have hunits : BinaryFormat.double.units 0x4000000000000000 = 2 * 2 ^ BinaryFormat.double.scale := by
    decide +kernel
  rw [BinaryFormat.value, div_eq_iff (by positivity)]
  exact_mod_cast hunits

theorem quantity?_two : (Value.float ⟨0x4000000000000000⟩).quantity? = .some (.finite 2) := by
  have hnumber : Quantity.ofWord .double false 0x4000000000000000 = .finite 2 := by
    rw [Quantity.ofWord_finite false (by decide), value_two]
    rfl
  exact congrArg Option.some hnumber

theorem isKept_two : (Value.float ⟨0x4000000000000000⟩).quantity? = .some (.finite 2) ∧
    PgType.numeric.isNumber = true ∧ (Value.float ⟨0x4000000000000000⟩).IsKept .numeric (.finite 2) := by
  have hrule : (Value.float ⟨0x4000000000000000⟩).HasSoundRule .numeric :=
    fun _ => .inl (.whole 2 (by decide) (by exact_mod_cast value_two))
  exact ⟨quantity?_two, rfl, (isKept_iff quantity?_two rfl).2 (.inl hrule)⟩

/-- The bits of the floating point number two are sent for an `int8`, and read as another number. -/
theorem not_isKept_two : (Value.float ⟨0x4000000000000000⟩).quantity? = .some (.finite 2) ∧
    (Value.float ⟨0x4000000000000000⟩).bind .int8 = .ok (.some [0x40, 0, 0, 0, 0, 0, 0, 0]) ∧
    Wire.number? .int8 [0x40, 0, 0, 0, 0, 0, 0, 0] = .some (.finite 4611686018427387904) ∧
    ¬ (Value.float ⟨0x4000000000000000⟩).IsKept .int8 (.finite 2) := by
  have hbind : (Value.float ⟨0x4000000000000000⟩).bind .int8 = .ok (.some [0x40, 0, 0, 0, 0, 0, 0, 0]) := by
    rfl
  have hread : signedOfBigEndian [0x40, 0, 0, 0, 0, 0, 0, 0] = 4611686018427387904 := by decide +kernel
  have hreceived : Wire.number? .int8 [0x40, 0, 0, 0, 0, 0, 0, 0] = .some (.finite 4611686018427387904) := by
    have hlength : [0x40, 0, 0, 0, 0, 0, 0, (0 : UInt8)].length = 8 := rfl
    rw [Wire.number?, Wire.exactly_of_length _ hlength, hread]
    norm_num
  refine ⟨quantity?_two, hbind, hreceived, fun hkept => ?_⟩
  obtain ⟨received, hsome, hrenders⟩ := hkept.read _ hbind
  rw [hreceived, Option.some.injEq] at hsome
  have hmeant : received = .finite 2 := hrenders
  rw [← hsome, Quantity.finite.injEq] at hmeant
  norm_num at hmeant

end Value

end ParamQuery
