/-
Numbers written as bytes, the highest first, are read back.

`ofBigEndian_bigEndian`: what is written is what `count` bytes hold of it,
so `signedOfBigEndian_bigEndian` for integers in two's complement that
have room.
-/
import Mathlib.Algebra.Ring.Int.Defs
import Mathlib.Algebra.Ring.Nat
import ParamQuery.Number.Integer

namespace ParamQuery.Number

theorem length_bigEndian (count : Nat) (i : Int) : (bigEndian count i).length = count := by
  induction count generalizing i with
  | zero => rfl
  | succ n ih => rw [bigEndian, List.length_append, ih, List.length_singleton]

/-- The number with digits to a base, the highest first. -/
def positional (base : Nat) (digits : List Nat) : Nat := digits.foldl (fun n g => n * base + g) 0

theorem positional_append (base : Nat) (gs hs : List Nat) :
    positional base (gs ++ hs) = positional base gs * base ^ hs.length + positional base hs := by
  unfold positional
  rw [List.foldl_append]
  generalize gs.foldl (fun n g => n * base + g) 0 = start
  induction hs generalizing start with
  | nil => simp
  | cons g hs ih =>
    have hfirst := ih (0 * base + g)
    have hstart := ih (start * base + g)
    simp only [List.foldl_cons, List.length_cons, Nat.pow_succ] at hfirst hstart ⊢
    have hmul : (start * base + g) * base ^ hs.length =
        start * (base ^ hs.length * base) + g * base ^ hs.length := by
      rw [Nat.add_mul, Nat.mul_assoc, Nat.mul_comm base]
    rw [Nat.zero_mul, Nat.zero_add] at hfirst
    rw [Nat.zero_mul, Nat.zero_add]
    omega

theorem positional_singleton (base g : Nat) : positional base [g] = g := by
  simp [positional]

theorem ofBigEndian_eq (bs : List UInt8) : ofBigEndian bs = positional 256 (bs.map (·.toNat)) := by
  rw [ofBigEndian, positional, List.foldl_map]

theorem ofBigEndian_append (bs cs : List UInt8) :
    ofBigEndian (bs ++ cs) = ofBigEndian bs * 256 ^ cs.length + ofBigEndian cs := by
  simp only [ofBigEndian_eq, List.map_append, positional_append, List.length_map]

theorem ofBigEndian_singleton (b : UInt8) : ofBigEndian [b] = b.toNat := by
  rw [ofBigEndian_eq, List.map_singleton, positional_singleton]

/-- **The bytes hold the number up to a multiple of what they have room for.** -/
theorem ofBigEndian_bigEndian (count : Nat) (i : Int) :
    (ofBigEndian (bigEndian count i) : Int) = i % 256 ^ count := by
  induction count generalizing i with
  | zero =>
    simp only [bigEndian, ofBigEndian, List.foldl_nil, Int.pow_zero]
    omega
  | succ n ih =>
    have hbyte : (UInt8.ofNat (i % 256).toNat).toNat = (i % 256).toNat := by
      rw [UInt8.toNat_ofNat']
      omega
    have hsplit : i = (i % 256 + 256 * (i / 256 % 256 ^ n)) + 256 ^ n * 256 * (i / 256 / 256 ^ n) := by
      have hhigh := Int.emod_add_mul_ediv (i / 256) (256 ^ n)
      have hmul : (256 : Int) ^ n * 256 * (i / 256 / 256 ^ n) = 256 * (256 ^ n * (i / 256 / 256 ^ n)) := by
        rw [Int.mul_comm (256 ^ n), Int.mul_assoc]
      omega
    have hmod : i % (256 ^ n * 256) = i % 256 + 256 * (i / 256 % 256 ^ n) := by
      have hpos : (0 : Int) < 256 ^ n := Int.pow_pos (by decide)
      have hlow := Int.emod_nonneg (i / 256) (Int.ne_of_gt hpos)
      have hhigh := Int.emod_lt_of_pos (i / 256) hpos
      have hdrop := Int.add_mul_emod_self_left (i % 256 + 256 * (i / 256 % 256 ^ n)) (256 ^ n * 256)
        (i / 256 / 256 ^ n)
      rw [← hsplit] at hdrop
      rw [hdrop]
      exact Int.emod_eq_of_lt (by omega) (by omega)
    have hrest := ih (i / 256)
    rw [bigEndian, ofBigEndian_append, ofBigEndian_singleton, hbyte, List.length_singleton, Nat.pow_one,
      Int.pow_succ, hmod]
    omega

theorem ofBigEndian_bigEndian_of_lt {count n : Nat} (h : n < 256 ^ count) :
    ofBigEndian (bigEndian count n) = n := by
  have hcast : ((256 ^ count : Nat) : Int) = 256 ^ count := by simp
  have hmod : (n : Int) % 256 ^ count = n := Int.emod_eq_of_lt (by omega) (by omega)
  have := ofBigEndian_bigEndian count n
  omega

/-- **Two's complement is read back.** -/
theorem signedOfBigEndian_bigEndian {count : Nat} {i : Int} (hleast : -256 ^ count ≤ 2 * i)
    (hgreatest : 2 * i < 256 ^ count) : signedOfBigEndian (bigEndian count i) = i := by
  have hvalue := ofBigEndian_bigEndian count i
  have hsize : ((Nat.pow 256 count : Nat) : Int) = 256 ^ count := by
    rw [Nat.pow_eq]
    simp
  rw [signedOfBigEndian, length_bigEndian]
  generalize ofBigEndian (bigEndian count i) = n at hvalue ⊢
  generalize (256 : Int) ^ count = size at hleast hgreatest hsize hvalue
  rcases Int.lt_or_le i 0 with hneg | hnonneg
  · have hmod : i % size = i + size := by
      rw [← Int.add_emod_right, Int.emod_eq_of_lt (by omega) (by omega)]
    rw [if_neg (by omega)]
    omega
  · have hmod : i % size = i := Int.emod_eq_of_lt hnonneg (by omega)
    rw [if_pos (by omega)]
    omega

end ParamQuery.Number
