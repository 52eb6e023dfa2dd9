/-!
# Binary numbers

The numbers of the language are 64-bit floating point numbers. Here one is taken apart into a sign,
a whole significand and a power of two, over which exact statements can be made.
-/
namespace FoxScript.Number

/-- A finite number: `± significand * 2 ^ exponent`. -/
structure Binary where
  /-- Whether the sign is minus. -/
  negative : Bool
  /-- The digits, as a whole number below `2 ^ 53`. -/
  significand : Nat
  /-- The power of two. -/
  exponent : Int
  deriving DecidableEq, Repr

/-- What a 64-bit pattern stands for. -/
inductive Decoded
  /-- Not a number. -/
  | nan
  /-- An infinity. -/
  | infinite (negative : Bool)
  /-- A finite number. -/
  | finite (b : Binary)
  deriving DecidableEq, Repr

/-- The significand of one bit, which all but the smallest numbers have without storing it. -/
def hiddenBit : Nat := 4503599627370496

/-- Takes a pattern apart into sign, exponent and fraction. -/
def decodeBits (bits : Nat) : Decoded :=
  let negative := decide (Nat.pow 2 63 ≤ bits)
  let exponent : Nat := bits / hiddenBit % 2048
  let fraction : Nat := bits % hiddenBit
  if exponent = 2047 then
    if fraction = 0 then .infinite negative else .nan
  else if exponent = 0 then .finite ⟨negative, fraction, -1074⟩
  else .finite ⟨negative, fraction + hiddenBit, (exponent : Int) - 1075⟩

/-- Takes a number apart. -/
def decode (x : Float) : Decoded := decodeBits x.toBits.toNat

/-- The whole part of the size of a finite number. -/
def Binary.wholePart (b : Binary) : Nat :=
  if 0 ≤ b.exponent then b.significand * Nat.pow 2 b.exponent.toNat
  else b.significand / Nat.pow 2 (-b.exponent).toNat

/-- The number rounded toward zero. -/
def Binary.truncate (b : Binary) : Int :=
  if b.negative then -(b.wholePart : Int) else b.wholePart

/-- Whether the number is whole. -/
def Binary.isWhole (b : Binary) : Bool :=
  0 ≤ b.exponent || b.significand % Nat.pow 2 (-b.exponent).toNat == 0

/-- Whether the number is below zero; minus zero is not. -/
def Binary.isNegative (b : Binary) : Bool := b.negative && b.significand != 0

/-- The nearest whole number between `low` and `high`. -/
def clamp (low high n : Int) : Int := max low (min high n)

/-- The number rounded toward zero and brought into the range of 64-bit signed integers; `none` for
an infinity and for what is not a number. -/
def toIndex? (x : Float) : Option Int :=
  match decode x with
  | .finite b => some (clamp (-9223372036854775808) 9223372036854775807 b.truncate)
  | _ => none

/-- The number rounded toward zero and brought into the range of 32-bit unsigned integers. What is
not a number counts as zero. -/
def toCode (x : Float) : Nat :=
  match decode x with
  | .nan => 0
  | .infinite negative => if negative then 0 else 4294967295
  | .finite b => (clamp 0 4294967295 b.truncate).toNat

/-- The whole number that `x` stands for, if it is whole and not below zero. -/
def toWhole? (x : Float) : Option Nat :=
  match decode x with
  | .finite b => if b.isWhole && !b.isNegative then some b.wholePart else none
  | _ => none

/-- Positive infinity. -/
def infinity : Float := Float.ofBits 0x7FF0000000000000

/-- The value that is not a number. -/
def notANumber : Float := Float.ofBits 0x7FF8000000000000

end FoxScript.Number
