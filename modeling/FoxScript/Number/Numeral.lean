import FoxScript.Number.Shortest

/-!
# Numerals

Reading a number from text: an optional sign, then `inf`, `infinity` or `nan` in any case, or digits
with an optional point and an optional power of ten. At least one digit stands before or after the
point. The number read is the nearest to the decimal, ties to the even one.
-/
namespace FoxScript.Number

/-- The value of a decimal digit. -/
def digitValue (c : Char) : Nat := c.toNat - '0'.toNat

/-- The whole number that a list of decimal digits writes. -/
def ofDigits (cs : List Char) : Nat := cs.foldl (fun n c => n * 10 + digitValue c) 0

/-- The number nearest to `digits * 10 ^ exponent`. The two bounds only spare the arithmetic on
numbers that are out of range whatever their digits. -/
def nearest (digits : Nat) (exponent : Int) : Float :=
  let point := exponent + digitCount digits
  if digits = 0 || point < -400 then 0
  else if 400 < point then infinity
  else Float.ofScientific digits (exponent < 0) exponent.natAbs

/-- Reads the power of ten that may follow the digits: nothing, or `e` and a whole number. -/
def readPower? : List Char → Option Int
  | [] => some 0
  | c :: rest =>
    if c == 'e' || c == 'E' then
      let (negative, digits) := match rest with
        | '-' :: ds => (true, ds)
        | '+' :: ds => (false, ds)
        | ds => (false, ds)
      if digits.isEmpty || !digits.all Char.isDigit then none
      else
        let n : Int := ofDigits digits
        some (if negative then -n else n)
    else none

/-- Reads digits, point and power. -/
def readDecimal? (cs : List Char) : Option Float :=
  let whole := cs.takeWhile Char.isDigit
  let afterWhole := cs.dropWhile Char.isDigit
  let (fraction, rest) := match afterWhole with
    | '.' :: ds => (ds.takeWhile Char.isDigit, ds.dropWhile Char.isDigit)
    | ds => ([], ds)
  if whole.isEmpty && fraction.isEmpty then none
  else
    (readPower? rest).map fun power => nearest (ofDigits (whole ++ fraction)) (power - fraction.length)

/-- Reads a numeral without its sign. -/
def readUnsigned? (cs : List Char) : Option Float :=
  let lower := String.ofList (cs.map Char.toLower)
  if lower == "inf" || lower == "infinity" then some infinity
  else if lower == "nan" then some notANumber
  else readDecimal? cs

/-- Reads a number. -/
def read? (s : String) : Option Float :=
  match s.toList with
  | '-' :: cs => (readUnsigned? cs).map (- ·)
  | '+' :: cs => readUnsigned? cs
  | cs => readUnsigned? cs

end FoxScript.Number
