import ComicScript.Decimal.Binary
import Mathlib

/-!
# What a double stands for

The library's own account of doubles unpacks one into its sign, its mantissa and its exponent; the number that they denote
is the fraction that is read off its bits.
-/

namespace ComicScript.Decimal
set_option autoImplicit false
open Float.Model (UnpackedFloat)
open Float.Model.UnpackedFloat
open Float.Model.Format (binary64)

/-- The number that a double denotes; an infinity is none. -/
def denoted? : UnpackedFloat → Option ℚ
  | .finite sign mantissa exponent _ => some (sign.apply mantissa * 2 ^ exponent)
  | .zero _ => some 0
  | .infinity _ => none
  | .notANumber => none

/-- Every finite double denotes a number, and no other double does. -/
theorem isSome_denoted? (x : Float) : (denoted? x.toModel.unpack).isSome = x.isFinite := by
  unfold Float.isFinite Float.Model.isFinite
  cases x.toModel.unpack <;> rfl

/-- The sign that a sign bit stands for. -/
def signOf (negative : Bool) : Sign :=
  if negative then .negative else .positive

/-- The number that a fraction with a power of two stands for. -/
def Dyadic.value (d : Dyadic) : ℚ :=
  if d.negative then -(d.num / d.den) else d.num / d.den

/-- The number that a double stands for, if it is finite. -/
def Exact.value? : Exact → Option ℚ
  | .finite d => some d.value
  | .infinite _ => none
  | .notANumber => none

theorem Dyadic.den_pos (d : Dyadic) : 0 < d.den :=
  Nat.two_pow_pos _

theorem Dyadic.num_div_den (d : Dyadic) : (d.num / d.den : ℚ) = d.mantissa * 2 ^ d.exponent := by
  have exponents : d.exponent = (d.exponent.toNat : ℤ) - ((-d.exponent).toNat : ℤ) := by omega
  have powers : (2 : ℚ) ^ d.exponent = 2 ^ d.exponent.toNat / 2 ^ (-d.exponent).toNat := by
    conv_lhs => rw [exponents]
    rw [zpow_sub₀ two_ne_zero, zpow_natCast, zpow_natCast]
  rw [powers, num, den, Nat.pow_eq, Nat.pow_eq, ← mul_div_assoc]
  push_cast
  rfl

/-- A fraction with a power of two stands for its mantissa, moved by its exponent. -/
theorem Dyadic.value_eq (negative : Bool) (mantissa : Nat) (exponent : ℤ) :
    value ⟨negative, mantissa, exponent⟩ = (signOf negative).apply mantissa * 2 ^ exponent := by
  rw [value, num_div_den]
  cases negative with
  | true => simp [Sign.apply, signOf]
  | false => simp [Sign.apply, signOf]

/-! ## The fields of a double -/

section Fields

variable (bits : UInt64)

theorem toNat_unpackMantissa :
    (@unpackMantissa binary64 bits.toBitVec).toNat = bits.toNat % fractionSize := by
  simp [unpackMantissa, fractionSize]

theorem toNat_unpackExponent :
    (@unpackExponent binary64 bits.toBitVec).toNat = bits.toNat / fractionSize % 2048 := by
  simp [unpackExponent, fractionSize, Nat.shiftRight_eq_div_pow]

theorem ofBitVec_unpackSign :
    Sign.ofBitVec (@unpackSign binary64 bits.toBitVec) = signOf (bits.toNat / Nat.pow 2 63 == 1) := by
  have bound := bits.toNat_lt
  have field : @unpackSign binary64 bits.toBitVec = BitVec.ofNat 1 (bits.toNat / Nat.pow 2 63) := by
    apply BitVec.eq_of_toNat_eq
    simp [unpackSign, Nat.shiftRight_eq_div_pow]
  have either : bits.toNat / Nat.pow 2 63 = 0 ∨ bits.toNat / Nat.pow 2 63 = 1 := by
    simp only [Nat.pow_eq]
    omega
  rw [field]
  rcases either with zero | one
  · rw [zero]
    rfl
  · rw [one]
    rfl

end Fields

/-- A mantissa with its leading bit. -/
theorem toNat_leading (mantissa : BitVec 52) : (1#1 ++ mantissa).toNat = mantissa.toNat + fractionSize := by
  rw [BitVec.toNat_append, ← Nat.shiftLeft_add_eq_or_of_lt mantissa.isLt, Nat.add_comm]
  rfl

/-- The fraction that is read off the bits of a double is what the double denotes. -/
theorem value?_exact (x : Float) : (exact x).value? = denoted? x.toModel.unpack := by
  unfold exact Float.Model.unpack
  change _ = denoted? (unpack binary64 x.toBits.toBitVec)
  generalize x.toBits = bits
  dsimp only
  rw [← toNat_unpackMantissa bits, ← toNat_unpackExponent bits]
  have special : @unpackExponent binary64 bits.toBitVec = -1#11 ↔
      (@unpackExponent binary64 bits.toBitVec).toNat = 2047 := BitVec.toNat_inj.symm
  have small : @unpackExponent binary64 bits.toBitVec = 0#11 ↔
      (@unpackExponent binary64 bits.toBitVec).toNat = 0 := BitVec.toNat_inj.symm
  have empty : @unpackMantissa binary64 bits.toBitVec = 0#52 ↔
      (@unpackMantissa binary64 bits.toBitVec).toNat = 0 := BitVec.toNat_inj.symm
  have bias : (binary64.exponentBias : ℤ) + (52 : Nat) = 1075 := rfl
  -- both sides now branch on the same fields
  simp only [unpack, special, small, empty, ofBitVec_unpackSign, toNat_leading, bias]
  split
  · split <;> rfl
  · split
    · rename_i least
      split
      · rename_i none
        rw [Exact.value?, denoted?, Dyadic.value_eq, none]
        cases signOf (bits.toNat / Nat.pow 2 63 == 1) <;> simp [Sign.apply]
      · rw [Exact.value?, denoted?, Dyadic.value_eq, least]
        rfl
    · have place (e : ℤ) : e + minExponent - 1 = e - 1075 := by
        rw [minExponent]
        omega
      rw [Exact.value?, denoted?, Dyadic.value_eq, place]

end ComicScript.Decimal
