/-
What the database reads in the binary form of a number.

The forms are those of the wire: integers in two's complement of exactly
their size; floating point words of exactly theirs; and for `numeric` a
header of four words and digits to the base of ten thousand, of which
those behind the scale are cut off. Bytes that are none of these are
refused.

`Number.received_bigEndian`, `Binary64.received`, `Binary32.received` and
`Decimal.received`: each form that is written is read as the number that
was written.
-/
import Mathlib.Algebra.Order.Field.Power
import Mathlib.Algebra.Order.Floor.Semiring
import Mathlib.Data.List.TakeWhile
import Mathlib.Data.Rat.Floor
import ParamQuery.Proofs.Number.BigEndian
import ParamQuery.Proofs.Number.Decimal.ToBinary
import ParamQuery.Value.Binding

namespace ParamQuery

open Number (bigEndian ofBigEndian signedOfBigEndian positional Binary32 Binary64 BinaryFormat Decimal)

/-- A number, or what binary formats have besides numbers. -/
inductive Quantity where
  | finite (number : ℚ)
  | infinite (negative : Bool)
  | nan

namespace Quantity

/-- A number with a sign. -/
def signed (negative : Bool) (q : ℚ) : ℚ := if negative then -q else q

/-- What a word with a sign stands for. -/
def ofWord (f : BinaryFormat) (negative : Bool) (w : Nat) : Quantity :=
  if w < f.infinity then .finite (signed negative (f.value w))
  else if w = f.infinity then .infinite negative
  else .nan

/-- What the bits of a word stand for, of which the highest is the sign. -/
def ofBits (f : BinaryFormat) (bits : Nat) : Quantity :=
  let sign := 2 ^ (f.precision - 1 + f.exponentBits)
  ofWord f (decide (sign ≤ bits)) (bits % sign)

end Quantity

/-! ## The wire -/

namespace Wire

/-- Bytes as words of two. -/
def words? : List UInt8 → Option (List Nat)
  | [] => .some []
  | [_] => .none
  | a :: b :: rest => (words? rest).map ((a.toNat * 256 + b.toNat) :: ·)

/-- The number of digits of which the first has a weight, cut off behind `scale` places. -/
def numberOf (weight : Int) (scale : Nat) (digits : List Nat) : ℚ :=
  let q : ℚ := positional 10000 digits * 10000 ^ (weight + 1 - digits.length)
  (⌊q * 10 ^ scale⌋₊ : ℚ) / 10 ^ scale

/-- The header of a `numeric` and its digits. -/
def numeric? (bytes : List UInt8) : Option Quantity :=
  match words? bytes with
  | .some (count :: weight :: sign :: scale :: digits) =>
    if digits.length = count ∧ (∀ g ∈ digits, g < 10000) ∧ scale < 0x4000 then
      let number := numberOf (if weight < 0x8000 then weight else (weight : Int) - 0x10000) scale digits
      if sign = 0 then .some (.finite number)
      else if sign = 0x4000 then .some (.finite (-number))
      else if sign = 0xC000 then .some .nan
      else if sign = 0xD000 then .some (.infinite false)
      else if sign = 0xF000 then .some (.infinite true)
      else .none
    else .none
  | _ => .none

/-- Bytes of exactly the size that is asked for. -/
def exactly (count : Nat) (read : List UInt8 → Quantity) (bytes : List UInt8) : Option Quantity :=
  if bytes.length = count then .some (read bytes) else .none

/-- A number of a type. -/
def number? (type : PgType) (bytes : List UInt8) : Option Quantity :=
  match type with
  | .int2 => exactly 2 (fun bs => .finite (signedOfBigEndian bs)) bytes
  | .int4 => exactly 4 (fun bs => .finite (signedOfBigEndian bs)) bytes
  | .int8 => exactly 8 (fun bs => .finite (signedOfBigEndian bs)) bytes
  | .float4 => exactly 4 (fun bs => .ofBits .single (ofBigEndian bs)) bytes
  | .float8 => exactly 8 (fun bs => .ofBits .double (ofBigEndian bs)) bytes
  | .numeric => numeric? bytes
  | _ => .none

end Wire

/-! ## Words -/

theorem Wire.exactly_of_length {count : Nat} {bytes : List UInt8} (read : List UInt8 → Quantity)
    (h : bytes.length = count) : exactly count read bytes = .some (read bytes) := by
  rw [exactly, if_pos h]

/-- Bytes that are too few or too many are refused. -/
theorem Wire.number?_of_length_ne {type : PgType} {bytes : List UInt8} (count : Nat)
    (htype : (type, count) ∈ [(PgType.int2, 2), (.int4, 4), (.int8, 8), (.float4, 4), (.float8, 8)])
    (h : bytes.length ≠ count) : number? type bytes = .none := by
  simp only [List.mem_cons, Prod.mk.injEq, List.not_mem_nil, or_false] at htype
  rcases htype with ⟨rfl, rfl⟩ | ⟨rfl, rfl⟩ | ⟨rfl, rfl⟩ | ⟨rfl, rfl⟩ | ⟨rfl, rfl⟩ <;>
    rw [number?, exactly, if_neg h]

theorem Number.Binary64.received (x : Binary64) :
    Wire.number? .float8 x.bytes = .some (.ofWord .double x.negative x.word) := by
  have hbits : ofBigEndian (bigEndian 8 x.bits.toNat) = x.bits.toNat :=
    Number.ofBigEndian_bigEndian_of_lt x.bits.toNat_lt
  rw [Wire.number?, Binary64.bytes, Wire.exactly_of_length _ (Number.length_bigEndian 8 _), hbits]
  rfl

theorem Number.Binary32.received (x : Binary32) :
    Wire.number? .float4 x.bytes = .some (.ofWord .single x.negative x.word) := by
  have hbits : ofBigEndian (bigEndian 4 x.bits.toNat) = x.bits.toNat :=
    Number.ofBigEndian_bigEndian_of_lt x.bits.toNat_lt
  rw [Wire.number?, Binary32.bytes, Wire.exactly_of_length _ (Number.length_bigEndian 4 _), hbits]
  rfl

/-! ## Digits -/

namespace Number.Decimal

theorem positional_groups (n : Nat) : positional 10000 (groups n) = n := by
  induction n using groups.induct with
  | case1 => simp [groups, positional]
  | case2 n hn ih =>
    rw [groups, if_neg hn, positional_append, ih, positional_singleton, List.length_singleton, Nat.pow_one]
    omega

theorem lt_of_mem_groups (n : Nat) : ∀ g ∈ groups n, g < 10000 := by
  induction n using groups.induct with
  | case1 => simp [groups]
  | case2 n hn ih =>
    intro g hg
    rw [groups, if_neg hn, List.mem_append, List.mem_singleton] at hg
    rcases hg with hg | rfl
    · exact ih g hg
    · omega

theorem length_groups_le (n k : Nat) (h : n < 10000 ^ k) : (groups n).length ≤ k := by
  induction n using groups.induct generalizing k with
  | case1 => simp [groups]
  | case2 n hn ih =>
    cases k with
    | zero => simp at h; omega
    | succ k =>
      rw [Nat.pow_succ] at h
      have := ih k (by omega)
      rw [groups, if_neg hn, List.length_append, List.length_singleton]
      omega

theorem exists_zeros (gs : List Nat) :
    ∃ z, gs = (gs.reverse.dropWhile (· == 0)).reverse ++ List.replicate z 0 := by
  have hzeros : gs.reverse.takeWhile (· == 0) =
      List.replicate (gs.reverse.takeWhile (· == 0)).length 0 := by
    refine List.eq_replicate_iff.2 ⟨rfl, fun g hg => ?_⟩
    simpa using List.mem_takeWhile_imp hg
  refine ⟨(gs.reverse.takeWhile (· == 0)).length, ?_⟩
  rw [← List.reverse_replicate, ← hzeros, ← List.reverse_append, List.takeWhile_append_dropWhile,
    List.reverse_reverse]

/-! ## Decimals -/

section Form

variable (d : Decimal)

/-- All digits to the base of ten thousand, filled up with zeros behind the last place. -/
def digitsOf : List Nat := groups (d.magnitude * Nat.pow 10 ((4 - d.scale % 4) % 4))

/-- How many of them are behind the point. -/
def placesOf : Nat := (d.scale + 3) / 4

/-- The weight of the first one. -/
def weightOf : Int := ((digitsOf d).length : Int) - placesOf d - 1

/-- The digits that are written. -/
def keptOf : List Nat :=
  if weightOf d < 0 then digitsOf d
  else
    (digitsOf d).take ((digitsOf d).length - placesOf d) ++
      (((digitsOf d).drop ((digitsOf d).length - placesOf d)).reverse.dropWhile (· == 0)).reverse

end Form

theorem bytes_eq {d : Decimal} (h : d.magnitude ≠ 0) :
    d.bytes = bigEndian 2 (keptOf d).length ++ bigEndian 2 (weightOf d) ++
      bigEndian 2 (if d.negative then 0x4000 else 0) ++ bigEndian 2 d.scale ++
      (keptOf d).flatMap fun (g : Nat) => bigEndian 2 g := by
  rw [bytes, if_neg h]
  rfl

/-- Nothing but zeros is left out. -/
theorem digitsOf_eq (d : Decimal) : ∃ z, digitsOf d = keptOf d ++ List.replicate z 0 := by
  unfold keptOf
  split
  · exact ⟨0, by simp⟩
  · obtain ⟨z, hz⟩ := exists_zeros ((digitsOf d).drop ((digitsOf d).length - placesOf d))
    refine ⟨z, ?_⟩
    rw [List.append_assoc, ← hz, List.take_append_drop]

theorem positional_zeros (z : Nat) : positional 10000 (List.replicate z 0) = 0 := by
  induction z with
  | zero => rfl
  | succ z ih => rw [List.replicate_succ', positional_append, ih, positional_singleton, Nat.zero_mul]

/-- **The digits that are written have the decimal's number.** -/
theorem numberOf_keptOf (d : Decimal) : Wire.numberOf (weightOf d) d.scale (keptOf d) = d.quotient := by
  obtain ⟨z, hz⟩ := digitsOf_eq d
  have hlength : ((digitsOf d).length : ℤ) = (keptOf d).length + z := by
    rw [hz, List.length_append, List.length_replicate]
    push_cast
    rfl
  have hnumber : positional 10000 (keptOf d) * 10000 ^ z =
      d.magnitude * 10 ^ ((4 - d.scale % 4) % 4) := by
    have hall : positional 10000 (digitsOf d) = d.magnitude * 10 ^ ((4 - d.scale % 4) % 4) :=
      positional_groups _
    rw [← hall, hz, positional_append, positional_zeros, List.length_replicate, Nat.add_zero]
  have hquot : (positional 10000 (keptOf d) : ℚ) * 10000 ^ (weightOf d + 1 - (keptOf d).length) =
      d.quotient := by
    have hexp : weightOf d + 1 - (keptOf d).length = (z : ℤ) - placesOf d := by
      unfold weightOf
      omega
    have hplaces : (10000 : ℚ) ^ placesOf d = 10 ^ d.scale * 10 ^ ((4 - d.scale % 4) % 4) := by
      have hfour : (10000 : ℚ) = 10 ^ 4 := by norm_num
      rw [hfour, ← pow_mul, ← pow_add]
      congr 1
      unfold placesOf
      omega
    have hcast : (positional 10000 (keptOf d) : ℚ) * 10000 ^ z =
        d.magnitude * 10 ^ ((4 - d.scale % 4) % 4) := by exact_mod_cast hnumber
    rw [hexp, zpow_sub₀ (by norm_num), zpow_natCast, zpow_natCast, ← mul_div_assoc, hcast, hplaces, quotient]
    field_simp
  have hfloor : d.quotient * 10 ^ d.scale = d.magnitude := by
    rw [quotient]
    field_simp
  rw [Wire.numberOf, hquot, hfloor, Nat.floor_natCast, quotient]

theorem keptOf_ne_nil {d : Decimal} (h : d.magnitude ≠ 0) : keptOf d ≠ [] := by
  intro hnil
  obtain ⟨z, hz⟩ := digitsOf_eq d
  have hnumber : positional 10000 (digitsOf d) = d.magnitude * Nat.pow 10 ((4 - d.scale % 4) % 4) :=
    positional_groups _
  rw [hz, hnil, List.nil_append, positional_zeros] at hnumber
  have hpos : 0 < Nat.pow 10 ((4 - d.scale % 4) % 4) := Nat.pow_pos (by decide)
  have := Nat.mul_pos (Nat.pos_of_ne_zero h) hpos
  omega

/-! ### The bytes of a decimal -/

theorem length_bytes {d : Decimal} (h : d.magnitude ≠ 0) :
    d.bytes.length = 8 + 2 * (keptOf d).length := by
  have hdigits : ∀ gs : List Nat, (gs.flatMap fun (g : Nat) => bigEndian 2 g).length = 2 * gs.length := by
    intro gs
    induction gs with
    | nil => rfl
    | cons g gs ih =>
      rw [List.flatMap_cons, List.length_append, ih, length_bigEndian, List.length_cons]
      omega
  rw [bytes_eq h]
  simp only [List.length_append, length_bigEndian, hdigits]

theorem words?_bigEndian (i : Int) (rest : List UInt8) :
    Wire.words? (bigEndian 2 i ++ rest) =
      (Wire.words? rest).map ((i % 65536).toNat :: ·) := by
  obtain ⟨a, b, hab⟩ : ∃ a b, bigEndian 2 i = [a, b] := ⟨_, _, rfl⟩
  have hvalue := ofBigEndian_bigEndian 2 i
  have hpair : ofBigEndian [a, b] = a.toNat * 256 + b.toNat := by simp [ofBigEndian]
  rw [hab, hpair] at hvalue
  have hword : a.toNat * 256 + b.toNat = (i % 65536).toNat := by omega
  rw [hab, List.cons_append, List.singleton_append, Wire.words?, hword]

theorem words?_digits {gs : List Nat} (h : ∀ g ∈ gs, g < 10000) :
    Wire.words? (gs.flatMap fun (g : Nat) => bigEndian 2 g) = .some gs := by
  induction gs with
  | nil => rfl
  | cons g gs ih =>
    have hg : g < 10000 := h g (by simp)
    have hword : ((g : Int) % 65536).toNat = g := by omega
    rw [List.flatMap_cons, words?_bigEndian, ih fun x hx => h x (by simp [hx]), hword]
    rfl

theorem length_digitsOf_le (d : Decimal) : (digitsOf d).length ≤ 8 := by
  refine length_groups_le _ _ ?_
  have hpow : Nat.pow 10 ((4 - d.scale % 4) % 4) ≤ Nat.pow 10 3 :=
    Nat.pow_le_pow_right (by decide) (by omega)
  have hm : d.magnitude < Nat.pow 2 96 := d.magnitude_lt
  exact Nat.lt_of_lt_of_le (Nat.mul_lt_mul_of_lt_of_le hm hpow (by decide)) (by decide)

theorem lt_of_mem_keptOf (d : Decimal) : ∀ g ∈ keptOf d, g < 10000 := by
  obtain ⟨z, hz⟩ := digitsOf_eq d
  intro g hg
  refine lt_of_mem_groups _ g (show g ∈ digitsOf d from ?_)
  rw [hz, List.mem_append]
  exact .inl hg

/-- What is written, word by word. -/
theorem words?_bytes {d : Decimal} (h : d.magnitude ≠ 0) :
    Wire.words? d.bytes =
      .some ((keptOf d).length :: (weightOf d % 65536).toNat ::
        (if d.negative then 0x4000 else 0) :: d.scale :: keptOf d) := by
  obtain ⟨z, hz⟩ := digitsOf_eq d
  have hall := length_digitsOf_le d
  have hlength : (keptOf d).length ≤ 8 := by
    rw [hz, List.length_append] at hall
    omega
  have hcount : (((keptOf d).length : Int) % 65536).toNat = (keptOf d).length := by omega
  have hsign : ((if d.negative then 0x4000 else 0 : Int) % 65536).toNat = if d.negative then 0x4000 else 0 := by
    split <;> rfl
  have hscale : ((d.scale : Int) % 65536).toNat = d.scale := by
    have := d.scale_le
    omega
  rw [bytes_eq h, List.append_assoc, List.append_assoc, List.append_assoc, words?_bigEndian,
    words?_bigEndian, words?_bigEndian, words?_bigEndian, words?_digits (lt_of_mem_keptOf d)]
  simp only [Option.map_some]
  rw [hcount, hsign, hscale]

/-- **The database reads a decimal's number in its bytes.** -/
theorem received (d : Decimal) :
    Wire.number? .numeric d.bytes = .some (.finite (Quantity.signed d.negative d.quotient)) := by
  by_cases hzero : d.magnitude = 0
  · have hquot : Quantity.signed d.negative d.quotient = 0 := by
      simp [Quantity.signed, quotient, hzero]
    have hwords : Wire.words? (bigEndian 8 0) = .some [0, 0, 0, 0] := by decide +kernel
    have hnumber : Wire.numberOf 0 0 [] = 0 := by simp [Wire.numberOf, positional]
    rw [bytes, if_pos hzero, hquot, Wire.number?, Wire.numeric?, hwords]
    simp [hnumber]
  · have hwords := words?_bytes hzero
    obtain ⟨z, hz⟩ := digitsOf_eq d
    have hall := length_digitsOf_le d
    have hplaces : placesOf d ≤ 7 := by
      have := d.scale_le
      unfold placesOf
      omega
    have hweight : (if (weightOf d % 65536).toNat < 0x8000 then ((weightOf d % 65536).toNat : Int)
        else ((weightOf d % 65536).toNat : Int) - 0x10000) = weightOf d := by
      have hrange : -8 ≤ weightOf d ∧ weightOf d ≤ 7 := by
        unfold weightOf
        omega
      split <;> omega
    have hform : (keptOf d).length = (keptOf d).length ∧ (∀ g ∈ keptOf d, g < 10000) ∧ d.scale < 0x4000 := by
      have := d.scale_le
      exact ⟨rfl, lt_of_mem_keptOf d, by omega⟩
    rw [Wire.number?, Wire.numeric?, hwords]
    dsimp only
    rw [if_pos hform, hweight, numberOf_keptOf, Quantity.signed]
    cases d.negative <;> simp

end Number.Decimal

/-! ## Integers -/

/-- **The database reads an integer in its bytes.** -/
theorem Number.received_bigEndian {type : PgType} {count : Nat} {i : Int}
    (htype : (type, count) ∈ [(PgType.int2, 2), (.int4, 4), (.int8, 8)]) (hleast : -256 ^ count ≤ 2 * i)
    (hgreatest : 2 * i < 256 ^ count) :
    Wire.number? type (bigEndian count i) = .some (.finite i) := by
  have hread := Number.signedOfBigEndian_bigEndian hleast hgreatest
  have hlength := Number.length_bigEndian count i
  simp only [List.mem_cons, Prod.mk.injEq, List.not_mem_nil, or_false] at htype
  rcases htype with ⟨rfl, rfl⟩ | ⟨rfl, rfl⟩ | ⟨rfl, rfl⟩ <;>
    rw [Wire.number?, Wire.exactly_of_length _ hlength, hread]

end ParamQuery
