import FoxScript.Number.Shortest

/-!
# Number text

Two ways to write a number: `plain`, which a program sees, and `exact`, which marks every number as
one that can have a fraction.
-/
namespace FoxScript.Number

/-- How a decimal is laid out. -/
structure Layout where
  /-- The decimals with their point at or below this place are written with a power of ten. -/
  lowest : Option Int
  /-- The decimals with their point at or above this place are written with a power of ten. -/
  highest : Option Int
  /-- What is written after a whole number. -/
  wholeMark : String

/-- Positional notation throughout, and nothing after a whole number. -/
def plainLayout : Layout := ⟨none, none, ""⟩

/-- Positional notation from 0.0001 up to below 10 ^ 16, and a fraction for every whole number. -/
def exactLayout : Layout := ⟨some (-4), some 17, ".0"⟩

/-- So many zeros. -/
def zeros (n : Nat) : String := "".pushn '0' n

/-- Writes digits with the point after the first `point` of them. -/
def positional (layout : Layout) (digits : String) (point : Int) : String :=
  let count : Int := digits.length
  if point ≤ 0 then "0." ++ zeros (-point).toNat ++ digits
  else if count ≤ point then digits ++ zeros (point - count).toNat ++ layout.wholeMark
  else String.ofList (digits.toList.take point.toNat) ++ "." ++
    String.ofList (digits.toList.drop point.toNat)

/-- Writes digits as a number from one to ten times a power of ten. -/
def scientific (digits : String) (point : Int) : String :=
  let head := String.ofList (digits.toList.take 1)
  let tail := String.ofList (digits.toList.drop 1)
  let mantissa := if tail.isEmpty then head else head ++ "." ++ tail
  mantissa ++ "e" ++ toString (point - 1)

/-- Writes a decimal. -/
def Decimal.text (layout : Layout) (d : Decimal) : String :=
  let digits := toString d.digits
  let point := d.exponent + digits.length
  let tooLow := layout.lowest.any (point ≤ ·)
  let tooHigh := layout.highest.any (· ≤ point)
  if tooLow || tooHigh then scientific digits point else positional layout digits point

/-- Writes a number by its shortest decimal. -/
def text (layout : Layout) (x : Float) : String :=
  match decode x with
  | .nan => "NaN"
  | .infinite negative => if negative then "-inf" else "inf"
  | .finite b =>
    let sign := if b.negative then "-" else ""
    if b.significand = 0 then sign ++ "0" ++ layout.wholeMark
    else sign ++ b.shortest.strip.text layout

/-- The number as a program shows it. -/
def plain (x : Float) : String := text plainLayout x

/-- The number as a report on values shows it. -/
def exact (x : Float) : String := text exactLayout x

end FoxScript.Number
