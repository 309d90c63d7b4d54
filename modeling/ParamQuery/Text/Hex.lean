/-
Bytes as pairs of hexadecimal digits. They are written small and read in
either case.
-/
namespace ParamQuery.Text

/-- The digit of `n`, for `n < 16`. -/
def hexDigit (n : Nat) : Char := if n < 10 then Char.ofNat (48 + n) else Char.ofNat (87 + n)

/-- The value of a hexadecimal digit. -/
def hexValue? (c : Char) : Option Nat :=
  if c.isDigit then .some (c.toNat - 48)
  else if 'a' ≤ c ∧ c ≤ 'f' then .some (c.toNat - 87)
  else if 'A' ≤ c ∧ c ≤ 'F' then .some (c.toNat - 55)
  else .none

/-- Two digits for each byte. -/
def hexOfBytes : List UInt8 → List Char
  | [] => []
  | b :: bs => hexDigit (b.toNat / 16) :: hexDigit (b.toNat % 16) :: hexOfBytes bs

/-- The bytes of pairs of digits. -/
def bytesOfHex? : List Char → Option (List UInt8)
  | [] => .some []
  | [_] => .none
  | h :: l :: cs =>
    match hexValue? h, hexValue? l, bytesOfHex? cs with
    | .some h, .some l, .some bs => .some (UInt8.ofNat (16 * h + l) :: bs)
    | _, _, _ => .none

theorem hexValue?_hexDigit {n : Nat} (h : n < 16) : hexValue? (hexDigit n) = .some n := by
  have : ∀ n : Fin 16, hexValue? (hexDigit n) = .some (n : Nat) := by decide
  exact this ⟨n, h⟩

theorem bytesOfHex?_hexOfBytes (bs : List UInt8) : bytesOfHex? (hexOfBytes bs) = .some bs := by
  induction bs with
  | nil => rfl
  | cons b bs ih =>
    have hb : b.toNat < 256 := b.toNat_lt
    have e : 16 * (b.toNat / 16) + b.toNat % 16 = b.toNat := by omega
    simp [hexOfBytes, bytesOfHex?, ih, hexValue?_hexDigit (show b.toNat / 16 < 16 by omega),
      hexValue?_hexDigit (show b.toNat % 16 < 16 by omega), e]

end ParamQuery.Text
