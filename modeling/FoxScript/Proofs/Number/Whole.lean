import FoxScript.Number.Binary
import Mathlib

/-!
# Whole numbers

Numbers below `2 ^ 53` that are whole and not below zero are numbers of the language without loss:
they can be added, subtracted and compared, and stand for themselves as indexes and as numbers of
elements.

## Main definitions

* `Number.whole`: a whole number, taken apart into a significand and a power of two.

## Main statements

* `Number.unpack_ofNat`: what such a number is.
* `Number.ofNat_add`, `Number.ofNat_sub`, `Number.ofNat_lt_iff`: sums, differences and comparisons are
  exact.
* `Number.toIndex?_ofNat`, `Number.toWhole?_ofNat`: conversions are exact.
-/
namespace FoxScript.Number

open Float.Model UnpackedFloat

/-! ### Rounding -/

/-- A significand to which so many zeros are appended loses them when it is shifted back. -/
theorem shiftRight_exact (m j : Nat) :
    (ExtendedMantissa.mk (m * 2 ^ j) false false >>> j : ExtendedMantissa) =
      ⟨m, false, false⟩ := by
  change j.repeat ExtendedMantissa.shiftRightOne _ = _
  induction j generalizing m with
  | zero => simp [Nat.repeat]
  | succ j ih =>
    rw [Nat.repeat, pow_succ, mul_comm (2 ^ j) 2, ← mul_assoc, ih]
    simp [ExtendedMantissa.shiftRightOne]

theorem log2_mul_pow {n : Nat} (pos : 0 < n) (j : Nat) : (n * 2 ^ j).log2 = n.log2 + j := by
  have nonzero : n ≠ 0 := Nat.ne_of_gt pos
  rw [Nat.log2_eq_iff (Nat.mul_ne_zero nonzero (by positivity)), Nat.add_right_comm, pow_add,
    pow_add]
  exact ⟨Nat.mul_le_mul_right _ (Nat.log2_self_le nonzero),
    Nat.mul_lt_mul_of_pos_right Nat.lt_log2_self (by positivity)⟩

theorem log2_le_of_lt {n : Nat} (pos : 0 < n) (small : n < 2 ^ 53) : n.log2 ≤ 52 :=
  Nat.lt_succ_iff.1 ((Nat.log2_lt (Nat.ne_of_gt pos)).2 small)

/-- A whole number as it is when it is taken apart: with all digits of the significand in use. -/
def whole (n : Nat) : UnpackedFloat :=
  if h : n = 0 then .zero .positive
  else .finite .positive (n * 2 ^ (52 - n.log2)) (n.log2 - 52 : Int)
    (Nat.mul_pos (Nat.pos_of_ne_zero h) (by positivity))

theorem whole_of_pos {n : Nat} (pos : 0 < n) : whole n =
    .finite .positive (n * 2 ^ (52 - n.log2)) (n.log2 - 52 : Int) (by positivity) := by
  rw [whole, dif_neg (Nat.ne_of_gt pos)]

section

variable {n : Nat} (pos : 0 < n) (small : n < 2 ^ 53)

include pos small

theorem targetExponent_whole (j : Nat) :
    Format.binary64.targetExponent (totalExponent (n * 2 ^ j) (-j)) = n.log2 - 52 := by
  have le := log2_le_of_lt pos small
  simp only [Format.targetExponent, totalExponent, log2_mul_pow pos, Format.minExponent,
    Format.mantissaBits]
  norm_num
  omega

/-- Digits that are zero are given up without loss. -/
theorem shiftToTargetExponent_whole {j : Nat} (le : 52 - n.log2 ≤ j) :
    shiftToTargetExponent Format.binary64 (n * 2 ^ j) (-j) .exact =
      (⟨n * 2 ^ (52 - n.log2), false, false⟩, (n.log2 - 52 : Int)) := by
  have bound := log2_le_of_lt pos small
  obtain ⟨d, rfl⟩ := Nat.exists_eq_add_of_le le
  have amount : ((n.log2 - 52 : Int) - -((52 - n.log2 + d : Nat) : Int)).toNat = d := by omega
  rw [shiftToTargetExponent, targetExponent_whole pos small, shiftToExponent]
  simp only [amount, ExtendedMantissa.ofMantissaAndAccuracy]
  rw [pow_add, ← mul_assoc, shiftRight_exact]
  congr 1
  omega

theorem roundWithAccuracy_whole {j : Nat} (le : 52 - n.log2 ≤ j) :
    roundWithAccuracy Format.binary64 .positive (n * 2 ^ j) (-j) .exact = whole n := by
  have bound := log2_le_of_lt pos small
  have nonzero : n ≠ 0 := Nat.ne_of_gt pos
  have exponent : (n.log2 - 52 : Int) = -((52 - n.log2 : Nat) : Int) := by omega
  have again := shiftToTargetExponent_whole pos small (Nat.le_refl (52 - n.log2))
  rw [← exponent] at again
  rw [roundWithAccuracy, shiftToTargetExponent_whole pos small le]
  simp only [ExtendedMantissa.roundedMantissa, ExtendedMantissa.accuracy,
    Accuracy.roundToNearestEven, again]
  simp [whole, nonzero]

/-- A whole number is rounded to itself. -/
theorem round_whole (j : Nat) :
    UnpackedFloat.round Format.binary64 .positive (n * 2 ^ j) (-j) = whole n := by
  have bound := log2_le_of_lt pos small
  rw [UnpackedFloat.round, targetExponent_whole pos small, decreaseExponent]
  generalize shift : ((-j : Int) - (n.log2 - 52 : Int)).toNat = d
  have le : 52 - n.log2 ≤ j + d := by omega
  have exponent : (-j - d : Int) = -((j + d : Nat) : Int) := by omega
  simp only [Nat.shiftLeft_eq, mul_assoc, ← pow_add, exponent]
  exact roundWithAccuracy_whole pos small le

/-- All digits of the significand are in use. -/
theorem mantissa_whole_bounds :
    2 ^ 52 ≤ n * 2 ^ (52 - n.log2) ∧ n * 2 ^ (52 - n.log2) < 2 ^ 53 := by
  have bound := log2_le_of_lt pos small
  have log := log2_mul_pow pos (52 - n.log2)
  rw [Nat.add_sub_of_le bound] at log
  have nonzero : n * 2 ^ (52 - n.log2) ≠ 0 := by positivity
  exact (Nat.log2_eq_iff nonzero).1 log

end

/-! ### Bits -/

/-- The bits of a whole number that is not zero. -/
theorem pack_whole {n : Nat} (pos : 0 < n) (small : n < 2 ^ 53) :
    UnpackedFloat.pack Format.binary64 (whole n) =
      packComponents Format.binary64 .positive (BitVec.ofNat 11 (n.log2 + 1023))
        (BitVec.ofNat 52 (n * 2 ^ (52 - n.log2))) := by
  have bound := log2_le_of_lt pos small
  have log := log2_mul_pow pos (52 - n.log2)
  rw [Nat.add_sub_of_le bound] at log
  have nonzero : n ≠ 0 := Nat.ne_of_gt pos
  have biased : ((n.log2 - 52 : Int) + Format.binary64.exponentBias + 52).toNat =
      n.log2 + 1023 := by
    have bias : Format.binary64.exponentBias = 1023 := rfl
    omega
  have implicit : Format.binary64.mantissaBits = 53 := rfl
  have room : ¬1024 ≤ n.log2 := by omega
  simp [whole, nonzero, UnpackedFloat.pack, biased, log, implicit, room]

theorem unpack_pack_whole {n : Nat} (small : n < 2 ^ 53) :
    (Float.Model.pack (whole n)).unpack = whole n := by
  change UnpackedFloat.unpack Format.binary64 (UnpackedFloat.pack Format.binary64 (whole n)) = _
  obtain rfl | pos := Nat.eq_zero_or_pos n
  · rfl
  have bound := log2_le_of_lt pos small
  obtain ⟨lower, upper⟩ := mantissa_whole_bounds pos small
  rw [pack_whole pos small]
  have size : (BitVec.ofNat 11 (n.log2 + 1023)).toNat = n.log2 + 1023 := by
    simp
    omega
  have some : BitVec.ofNat 11 (n.log2 + 1023) ≠ 0#11 := by
    intro same
    rw [← BitVec.toNat_inj, size] at same
    simp at same
  have finite : BitVec.ofNat 11 (n.log2 + 1023) ≠ 2047#11 := by
    intro same
    rw [← BitVec.toNat_inj, size] at same
    simp at same
    omega
  have mantissa : (1#1 ++ BitVec.ofNat 52 (n * 2 ^ (52 - n.log2))).toNat =
      n * 2 ^ (52 - n.log2) := by
    rw [BitVec.toNat_append]
    change 2 ^ 52 ||| n * 2 ^ (52 - n.log2) % 2 ^ 52 = _
    rw [Nat.or_comm, Nat.or_two_pow_eq_add_of_lt (Nat.mod_lt _ (by positivity))]
    omega
  have bias : Format.binary64.exponentBias = 1023 := rfl
  simp [UnpackedFloat.unpack, finite, some, size, mantissa, whole, Nat.ne_of_gt pos, bias]
  omega

/-! ### Arithmetic -/

theorem normalize_whole {n : Nat} (small : n < 2 ^ 53) (j : Nat) :
    UnpackedFloat.normalize Format.binary64 (n * 2 ^ j : Nat) (-j) .positive = whole n := by
  obtain rfl | pos := Nat.eq_zero_or_pos n
  · simp [UnpackedFloat.normalize, whole]
  · have positive : (0 : Int) < ((n * 2 ^ j : Nat) : Int) := by positivity
    rw [UnpackedFloat.normalize, Int.compare_eq_gt.2 positive]
    exact round_whole pos small j

/-- What a whole number is as a number of the language. -/
theorem ofNat_eq {n : Nat} (small : n < 2 ^ 53) :
    Float.ofNat n = .ofModel (Float.Model.pack (whole n)) := by
  have one : (Float.Model.ofBits 0x3FF0000000000000).unpack = whole 1 := by
    rfl
  have digits : (n.toUInt64).toNat = n := by
    rw [Nat.toUInt64, UInt64.toNat_ofNat']
    omega
  have converted : (n.toUInt64).toFloat = .ofModel (Float.Model.pack (whole n)) := by
    have exact := normalize_whole small 0
    rw [Nat.pow_zero, Nat.mul_one] at exact
    rw [UInt64.toFloat, Float.Model.ofUInt64, UnpackedFloat.ofUInt64, UnpackedFloat.ofNat,
      UnpackedFloat.ofInt, digits]
    exact congrArg (fun x => Float.ofModel (Float.Model.pack x)) exact
  have power : (Float.Model.ofBits 0x3FF0000000000000).unpack = whole 1 := by rfl
  have product : UnpackedFloat.mul Format.binary64 (whole n) (whole 1) = whole n := by
    obtain rfl | pos := Nat.eq_zero_or_pos n
    · rfl
    have bound := log2_le_of_lt pos small
    have exponent : -((52 - n.log2 + 52 : Nat) : Int) = (n.log2 - 52 : Int) + -52 := by omega
    have exact := roundWithAccuracy_whole pos small (j := 52 - n.log2 + 52) (by omega)
    rw [pow_add, ← mul_assoc, exponent] at exact
    refine Eq.trans ?_ exact
    rw [whole_of_pos pos]
    rfl
  rw [Float.ofNat]
  change Float.ofScientific n false 0 = _
  rw [Float.ofScientific, dif_pos ⟨small, by decide⟩]
  change n.toUInt64.toFloat * Float.ofBits 0x3FF0000000000000 = _
  rw [converted]
  change Float.ofModel (Float.Model.pack (UnpackedFloat.mul Format.binary64
    (Float.Model.pack (whole n)).unpack (Float.Model.ofBits 0x3FF0000000000000).unpack)) = _
  rw [power, unpack_pack_whole small, product]

theorem unpack_ofNat {n : Nat} (small : n < 2 ^ 53) : (Float.ofNat n).toModel.unpack = whole n := by
  rw [ofNat_eq small]
  exact unpack_pack_whole small

/-- A significand is brought to a smaller exponent without loss. -/
theorem decreaseExponent_whole {k j : Nat} (le : k.log2 ≤ 52) (ge : -(j : Int) ≤ k.log2 - 52) :
    (decreaseExponent (k * 2 ^ (52 - k.log2)) (k.log2 - 52) (-j)).1 = k * 2 ^ j := by
  have digits : 52 - k.log2 + ((k.log2 - 52 : Int) - -(j : Int)).toNat = j := by omega
  simp only [decreaseExponent, Nat.shiftLeft_eq, mul_assoc, ← pow_add, digits]

/-- Whole numbers are added exactly. -/
theorem ofNat_add {m n : Nat} (small : m + n < 2 ^ 53) :
    Float.ofNat m + Float.ofNat n = Float.ofNat (m + n) := by
  have left := unpack_ofNat (n := m) (by omega)
  have right := unpack_ofNat (n := n) (by omega)
  have sum : UnpackedFloat.add Format.binary64 (whole m) (whole n) = whole (m + n) := by
    obtain rfl | hm := Nat.eq_zero_or_pos m
    · rw [Nat.zero_add]
      obtain rfl | hn := Nat.eq_zero_or_pos n
      · rfl
      · rw [whole_of_pos hn]
        rfl
    obtain rfl | hn := Nat.eq_zero_or_pos n
    · rw [Nat.add_zero, whole_of_pos hm]
      rfl
    have boundM := log2_le_of_lt hm (by omega)
    have boundN := log2_le_of_lt hn (by omega)
    -- the significands are brought to the smaller of the two exponents
    generalize smaller : min (m.log2 - 52 : Int) (n.log2 - 52 : Int) = e
    obtain ⟨j, rfl⟩ : ∃ j : Nat, e = -j := ⟨(-e).toNat, by omega⟩
    have both : Sign.positive.apply ((m * 2 ^ j : Nat) : Int) +
        Sign.positive.apply ((n * 2 ^ j : Nat) : Int) = ((m + n) * 2 ^ j : Nat) := by
      simp [Sign.apply, add_mul]
    rw [whole_of_pos hm, whole_of_pos hn, UnpackedFloat.add]
    simp only [smaller]
    rw [decreaseExponent_whole boundM (by omega), decreaseExponent_whole boundN (by omega), both]
    exact normalize_whole small j
  change Float.ofModel (Float.Model.pack (UnpackedFloat.add Format.binary64
    (Float.ofNat m).toModel.unpack (Float.ofNat n).toModel.unpack)) = _
  rw [left, right, sum, ofNat_eq small]

/-- A whole number is subtracted exactly from one that is not smaller. -/
theorem ofNat_sub {m n : Nat} (le : n ≤ m) (small : m < 2 ^ 53) :
    Float.ofNat m - Float.ofNat n = Float.ofNat (m - n) := by
  have less : m - n < 2 ^ 53 := by omega
  have left := unpack_ofNat small
  have right := unpack_ofNat (Nat.lt_of_le_of_lt le small)
  have difference : UnpackedFloat.sub Format.binary64 (whole m) (whole n) = whole (m - n) := by
    obtain rfl | hn := Nat.eq_zero_or_pos n
    · obtain rfl | hm := Nat.eq_zero_or_pos m
      · rfl
      · rw [Nat.sub_zero, whole_of_pos hm]
        rfl
    have hm : 0 < m := Nat.lt_of_lt_of_le hn le
    have boundM := log2_le_of_lt hm small
    have boundN := log2_le_of_lt hn (Nat.lt_of_le_of_lt le small)
    generalize smaller : min (m.log2 - 52 : Int) (n.log2 - 52 : Int) = e
    obtain ⟨j, rfl⟩ : ∃ j : Nat, e = -j := ⟨(-e).toNat, by omega⟩
    have both : Sign.positive.apply ((m * 2 ^ j : Nat) : Int) -
        Sign.positive.apply ((n * 2 ^ j : Nat) : Int) = ((m - n) * 2 ^ j : Nat) := by
      obtain ⟨d, rfl⟩ := Nat.exists_eq_add_of_le le
      simp [Sign.apply, add_mul]
    rw [whole_of_pos hm, whole_of_pos hn, UnpackedFloat.sub]
    simp only [smaller]
    rw [decreaseExponent_whole boundM (by omega), decreaseExponent_whole boundN (by omega), both]
    exact normalize_whole less j
  change Float.ofModel (Float.Model.pack (UnpackedFloat.sub Format.binary64
    (Float.ofNat m).toModel.unpack (Float.ofNat n).toModel.unpack)) = _
  rw [left, right, difference, ofNat_eq less]

/-- Whole numbers are compared as such. -/
theorem ofNat_lt_iff {m n : Nat} (hm : m < 2 ^ 53) (hn : n < 2 ^ 53) :
    Float.ofNat m < Float.ofNat n ↔ m < n := by
  have left := unpack_ofNat hm
  have right := unpack_ofNat hn
  change decide ((UnpackedFloat.lt (Float.ofNat m).toModel.unpack
    (Float.ofNat n).toModel.unpack) = true) = true ↔ _
  rw [decide_eq_true_iff, left, right, UnpackedFloat.lt, beq_iff_eq]
  obtain rfl | hm' := Nat.eq_zero_or_pos m
  · obtain rfl | hn' := Nat.eq_zero_or_pos n
    · decide
    · rw [whole_of_pos hn']
      exact iff_of_true rfl hn'
  obtain rfl | hn' := Nat.eq_zero_or_pos n
  · rw [whole_of_pos hm']
    exact iff_of_false (by simp [whole, UnpackedFloat.compare]) (Nat.not_lt_zero m)
  rw [whole_of_pos hm', whole_of_pos hn', UnpackedFloat.compare, Option.some.injEq,
    Ordering.then_eq_lt, Int.compare_eq_lt, Nat.compare_eq_lt, Std.compare_eq_iff_eq]
  have shorter {k l : Nat} (hk : 0 < k) (hl : 0 < l) (lt : k.log2 < l.log2) : k < l :=
    Nat.lt_of_lt_of_le ((Nat.log2_lt (Nat.ne_of_gt hk)).1 lt) (Nat.log2_self_le (Nat.ne_of_gt hl))
  obtain lt | same | gt := Nat.lt_trichotomy m.log2 n.log2
  · exact iff_of_true (.inl (by omega)) (shorter hm' hn' lt)
  · rw [same, Nat.mul_lt_mul_right (by positivity)]
    simp
  · have larger := shorter hn' hm' gt
    exact iff_of_false (by omega) (by omega)

/-! ### Conversions -/

theorem decode_ofNat {n : Nat} (pos : 0 < n) (small : n < 2 ^ 53) :
    decode (Float.ofNat n) = .finite ⟨false, n * 2 ^ (52 - n.log2), n.log2 - 52⟩ := by
  have bound := log2_le_of_lt pos small
  obtain ⟨lower, upper⟩ := mantissa_whole_bounds pos small
  have bits : (Float.ofNat n).toBits.toNat =
      (n.log2 + 1023) * 2 ^ 52 + (n * 2 ^ (52 - n.log2) - 2 ^ 52) := by
    rw [ofNat_eq small]
    change (UnpackedFloat.pack Format.binary64 (whole n)).toNat = _
    rw [pack_whole pos small, packComponents, BitVec.toNat_append, BitVec.toNat_append]
    change (0 <<< 11 ||| (n.log2 + 1023) % 2 ^ 11) <<< 52 ||| n * 2 ^ (52 - n.log2) % 2 ^ 52 = _
    rw [← Nat.shiftLeft_add_eq_or_of_lt (Nat.mod_lt _ (by positivity)), Nat.shiftLeft_eq]
    simp only [Nat.zero_shiftLeft, Nat.zero_or]
    omega
  have exponent : (Float.ofNat n).toBits.toNat / hiddenBit % 2048 = n.log2 + 1023 := by
    rw [bits, hiddenBit]
    omega
  have fraction : (Float.ofNat n).toBits.toNat % hiddenBit = n * 2 ^ (52 - n.log2) - 2 ^ 52 := by
    rw [bits, hiddenBit]
    omega
  have sign : ¬Nat.pow 2 63 ≤ (Float.ofNat n).toBits.toNat := by
    rw [bits]
    change ¬2 ^ 63 ≤ _
    omega
  simp only [decode, decodeBits, exponent, fraction, sign]
  rw [if_neg (by omega), if_neg (by omega)]
  simp only [decide_false, Decoded.finite.injEq, Binary.mk.injEq, true_and]
  rw [hiddenBit]
  omega

/-- Taken apart, a whole number is whole and not below zero, and nothing is lost. -/
theorem exists_decode_ofNat {n : Nat} (small : n < 2 ^ 53) :
    ∃ b, decode (Float.ofNat n) = .finite b ∧ b.negative = false ∧ b.wholePart = n ∧
      b.isWhole = true := by
  obtain rfl | pos := Nat.eq_zero_or_pos n
  · have zero : decode (Float.ofNat 0) = .finite ⟨false, 0, -1074⟩ := by
      rw [decode, ofNat_eq small]
      rfl
    refine ⟨_, zero, rfl, ?_, ?_⟩
    · rw [Binary.wholePart, if_neg (by decide), Nat.zero_div]
    · rw [Binary.isWhole, Nat.zero_mod]
      rfl
  have bound := log2_le_of_lt pos small
  refine ⟨_, decode_ofNat pos small, rfl, ?_⟩
  simp only [Binary.wholePart, Binary.isWhole]
  by_cases full : n.log2 = 52
  · simp [full]
  · have below : ¬(0 : Int) ≤ n.log2 - 52 := by omega
    have digits : (-(n.log2 - 52 : Int)).toNat = 52 - n.log2 := by omega
    have power : 0 < 2 ^ (52 - n.log2) := by positivity
    rw [if_neg below, digits]
    exact ⟨Nat.mul_div_cancel n power, by simp⟩

/-- As an index a whole number stands for itself. -/
theorem toIndex?_ofNat {n : Nat} (small : n < 2 ^ 53) :
    toIndex? (Float.ofNat n) = some (n : Int) := by
  obtain ⟨b, decoded, sign, part, -⟩ := exists_decode_ofNat small
  rw [toIndex?, decoded]
  simp only [Binary.truncate, sign, part, clamp]
  simp
  omega

/-- As a number of elements a whole number stands for itself. -/
theorem toWhole?_ofNat {n : Nat} (small : n < 2 ^ 53) : toWhole? (Float.ofNat n) = some n := by
  obtain ⟨b, decoded, sign, part, isWhole⟩ := exists_decode_ofNat small
  rw [toWhole?, decoded]
  simp [isWhole, Binary.isNegative, sign, part]

end FoxScript.Number
