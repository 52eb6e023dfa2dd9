import FoxScript.Number.Binary
import Mathlib

/-!
# Rounding toward zero

A number of the language that is finite is a rational number. As an index it counts as that number
rounded toward zero, and brought into the range of 64-bit signed integers if it is too large: this
is what the conversion of numbers to words of 64 bits does.

## Main definitions

* `Number.Binary.value`: the rational number that a finite number is.
* `Number.towardZero`: a rational number rounded toward zero.

## Main statements

* `Number.Binary.truncate_eq`: how a finite number is rounded.
* `Number.decode_eq`: to take a number apart loses nothing.
* `Number.toIndex?_eq`: an index is what the conversion to a word gives.
-/
namespace FoxScript.Number

open Float.Model UnpackedFloat

/-! ### Values -/

/-- The rational number that a finite number is. -/
def Binary.value (b : Binary) : ℚ :=
  (if b.negative then -1 else 1) * (b.significand * 2 ^ b.exponent)

/-- A rational number rounded toward zero. -/
def towardZero (q : ℚ) : ℤ := if 0 ≤ q then ⌊q⌋ else ⌈q⌉

theorem towardZero_neg (q : ℚ) : towardZero (-q) = -towardZero q := by
  unfold towardZero
  obtain less | rfl | greater := lt_trichotomy q 0
  · rw [if_pos (by linarith), if_neg (by linarith), Int.floor_neg]
  · simp
  · rw [if_neg (by linarith), if_pos (by linarith), Int.ceil_neg]

/-- Digits behind the point are left out. -/
theorem Binary.wholePart_eq (b : Binary) :
    (b.wholePart : ℤ) = ⌊(b.significand * 2 ^ b.exponent : ℚ)⌋ := by
  unfold wholePart
  split
  · rename_i large
    obtain ⟨n, exponent⟩ := Int.eq_ofNat_of_zero_le large
    rw [exponent, Int.toNat_natCast, zpow_natCast]
    exact_mod_cast (Int.floor_natCast (R := ℚ) (b.significand * 2 ^ n)).symm
  · rename_i small
    obtain ⟨n, exponent⟩ : ∃ n : ℕ, b.exponent = -n := ⟨(-b.exponent).toNat, by omega⟩
    have quotient := Rat.floor_natCast_div_natCast b.significand (2 ^ n)
    rw [exponent, neg_neg, Int.toNat_natCast, zpow_neg, zpow_natCast, ← div_eq_mul_inv]
    exact_mod_cast quotient.symm

/-- A finite number is rounded toward zero. -/
theorem Binary.truncate_eq (b : Binary) : b.truncate = towardZero b.value := by
  have size : (0 : ℚ) ≤ b.significand * 2 ^ b.exponent := by positivity
  have part : towardZero (b.significand * 2 ^ b.exponent) = b.wholePart := by
    rw [towardZero, if_pos size, b.wholePart_eq]
  unfold truncate value
  cases b.negative with
  | false => simp [part]
  | true => simp [part, towardZero_neg]

/-! ### Parts of numbers -/

/-- What a number that has been taken apart stands for. -/
def Decoded.ofUnpacked : UnpackedFloat → Decoded
  | .notANumber => .nan
  | .infinity sign => .infinite (sign == .negative)
  | .zero sign => .finite ⟨sign == .negative, 0, -1074⟩
  | .finite sign mantissa exponent _ => .finite ⟨sign == .negative, mantissa, exponent⟩

section

variable (b : BitVec Format.binary64.numBits)

theorem toNat_unpackMantissa : (unpackMantissa b).toNat = b.toNat % hiddenBit := by
  simp [unpackMantissa, hiddenBit]

theorem toNat_unpackExponent : (unpackExponent b).toNat = b.toNat / hiddenBit % 2048 := by
  simp [unpackExponent, hiddenBit, Nat.shiftRight_eq_div_pow]

theorem toNat_unpackSign : (unpackSign b).toNat = b.toNat / 2 ^ 63 := by
  have bound : b.toNat < 2 ^ 64 := b.isLt
  simp [unpackSign, Nat.shiftRight_eq_div_pow]
  omega

theorem sign_unpackSign :
    (Sign.ofBitVec (unpackSign b) == .negative) = decide (Nat.pow 2 63 ≤ b.toNat) := by
  have one : ∀ c : BitVec 1, (Sign.ofBitVec c == .negative) = decide (1 ≤ c.toNat) := by decide
  have same : 1 ≤ b.toNat / 2 ^ 63 ↔ Nat.pow 2 63 ≤ b.toNat := by
    rw [Nat.one_le_div_iff (by positivity)]
    rfl
  rw [one, toNat_unpackSign]
  exact decide_eq_decide.2 same

theorem decodeBits_eq : decodeBits b.toNat = Decoded.ofUnpacked (unpack Format.binary64 b) := by
  have mantissa := toNat_unpackMantissa b
  have exponent := toNat_unpackExponent b
  have bias : Format.binary64.exponentBias = 1023 := rfl
  have full : unpackExponent b = -1#_ ↔ b.toNat / hiddenBit % 2048 = 2047 := by
    rw [← exponent, ← BitVec.toNat_inj]
    rfl
  have least : unpackExponent b = 0#_ ↔ b.toNat / hiddenBit % 2048 = 0 := by
    rw [← exponent, ← BitVec.toNat_inj]
    rfl
  have none : unpackMantissa b = 0#_ ↔ b.toNat % hiddenBit = 0 := by
    rw [← mantissa, ← BitVec.toNat_inj]
    rfl
  unfold decodeBits UnpackedFloat.unpack
  simp only [full, least, none, mantissa, exponent, bias]
  split_ifs with infinite zero subnormal zero
  · rw [Decoded.ofUnpacked, sign_unpackSign]
  · rfl
  · rw [Decoded.ofUnpacked, sign_unpackSign, zero]
  · rw [Decoded.ofUnpacked, sign_unpackSign, subnormal]
    rfl
  · have digits : (1#1 ++ unpackMantissa b).toNat =
        b.toNat % hiddenBit + hiddenBit := by
      rw [BitVec.toNat_append, ← Nat.shiftLeft_add_eq_or_of_lt (BitVec.isLt _), mantissa,
        Nat.add_comm]
      rfl
    rw [Decoded.ofUnpacked, sign_unpackSign, digits]
    rfl

end

/-- To take a number apart loses nothing. -/
theorem decode_eq (x : Float) : decode x = Decoded.ofUnpacked x.toModel.unpack :=
  decodeBits_eq x.toBits.toBitVec

theorem isFinite_iff {x : Float} : x.isFinite = true ↔ ∃ b, decode x = .finite b := by
  rw [decode_eq]
  change x.toModel.unpack.isFinite = true ↔ _
  cases x.toModel.unpack with
  | infinity | notANumber => simp [UnpackedFloat.isFinite, Decoded.ofUnpacked]
  | zero | finite => simp [UnpackedFloat.isFinite, Decoded.ofUnpacked]

/-! ### Words -/

/-- Digits that are shifted out are lost. -/
theorem mantissa_shiftRight (m : ExtendedMantissa) (j : ℕ) :
    (m >>> j : ExtendedMantissa).mantissa = m.mantissa / 2 ^ j := by
  induction j with
  | zero => simp [HShiftRight.hShiftRight, Nat.repeat]
  | succ j ih =>
    change (ExtendedMantissa.shiftRightOne (m >>> j)).mantissa = _
    simp only [ExtendedMantissa.shiftRightOne, ih, Nat.div_div_eq_div_mul, Nat.pow_succ]

theorem roundToInt_eq (sign : Sign) (mantissa : ℕ) (exponent : ℤ) :
    roundToInt sign mantissa exponent =
      (⟨sign == .negative, mantissa, exponent⟩ : Binary).truncate := by
  have part : (shiftToExponent (decreaseExponent mantissa exponent 0).1
      (decreaseExponent mantissa exponent 0).2 .exact 0).1.mantissa =
        (⟨sign == .negative, mantissa, exponent⟩ : Binary).wholePart := by
    simp only [shiftToExponent, decreaseExponent, mantissa_shiftRight, Binary.wholePart,
      ExtendedMantissa.ofMantissaAndAccuracy, Nat.shiftLeft_eq, Int.sub_zero]
    split
    · rename_i large
      have still : (0 - (exponent - (exponent.toNat : ℤ))).toNat = 0 := by omega
      rw [still, Nat.pow_zero, Nat.div_one]
      rfl
    · rename_i small
      have still : exponent.toNat = 0 := by omega
      simp [still]
  have rounded : roundToInt sign mantissa exponent =
      sign.apply (shiftToExponent (decreaseExponent mantissa exponent 0).1
        (decreaseExponent mantissa exponent 0).2 .exact 0).1.mantissa := rfl
  rw [rounded, part]
  cases sign <;> rfl

theorem truncate_zero (negative : Bool) (exponent : ℤ) :
    (⟨negative, 0, exponent⟩ : Binary).truncate = 0 := by
  simp [Binary.truncate, Binary.wholePart]

/-- The range of words with a sign. -/
theorem toInt_ofIntClamp (n : ℤ) : (Int64.ofIntClamp n).toInt =
    clamp (-9223372036854775808) 9223372036854775807 n := by
  have least : Int64.minValue.toInt = -9223372036854775808 := by decide
  have greatest : Int64.maxValue.toInt = 9223372036854775807 := by decide
  unfold Int64.ofIntClamp clamp
  split_ifs with low high
  · rw [Int64.toInt_ofIntLE]
    omega
  · omega
  · omega

/-- An index is what the conversion of a finite number to a word with a sign gives. -/
theorem toIndex?_eq (x : Float) :
    toIndex? x = if x.isFinite then some x.toModel.toInt64.toInt else none := by
  change toIndex? x = if x.toModel.unpack.isFinite then
    some (Int64.ofIntClamp (x.toModel.unpack.toInt Int64.minValue.toInt Int64.maxValue.toInt)).toInt
    else none
  rw [toIndex?, decode_eq, toInt_ofIntClamp]
  cases x.toModel.unpack with
  | infinity | notANumber => rfl
  | zero sign =>
    simp only [Decoded.ofUnpacked, UnpackedFloat.toInt, truncate_zero]
    rfl
  | finite sign mantissa exponent =>
    rw [Decoded.ofUnpacked, UnpackedFloat.toInt, roundToInt_eq]
    rfl

/-- The conversion rounds toward zero and ends at the bounds of the range. -/
theorem toInt_toInt64 {x : Float} {b : Binary} (h : decode x = .finite b) :
    x.toModel.toInt64.toInt =
      clamp (-9223372036854775808) 9223372036854775807 (towardZero b.value) := by
  have index := toIndex?_eq x
  rw [if_pos (isFinite_iff.2 ⟨b, h⟩), toIndex?, h] at index
  rw [← b.truncate_eq]
  exact (Option.some.inj index).symm

end FoxScript.Number
