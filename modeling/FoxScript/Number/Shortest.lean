import FoxScript.Number.Binary

/-!
# Shortest digits

The decimal with the fewest digits that still rounds to a given binary number, and among those the
nearest to it. The numbers that round to `m * 2 ^ e` form an interval around it; on each decimal
grid only the two neighbours of the value have to be looked at, since if the interval holds a point
of the grid then it holds one of these two.
-/
namespace FoxScript.Number

/-- The decimal number `digits * 10 ^ exponent`. -/
structure Decimal where
  /-- The digits, as a whole number. -/
  digits : Nat
  /-- The power of ten. -/
  exponent : Int
  deriving DecidableEq, Repr

/-- How many decimal digits a positive whole number has; zero has none. -/
def digitCount (n : Nat) : Nat :=
  if n = 0 then 0 else digitCount (n / 10) + 1

/-- A positive fraction `value / unit` with the ends of the interval that rounds to it. -/
structure Interval where
  /-- The lower end. -/
  low : Nat
  /-- The value itself. -/
  value : Nat
  /-- The upper end. -/
  high : Nat
  /-- The denominator of all three. -/
  unit : Nat
  /-- Whether the ends belong to the interval. -/
  closed : Bool
  deriving DecidableEq, Repr

/-- The interval of the reals that round to `significand * 2 ^ exponent`. The gap below a power of
two is half as wide as the one above it. -/
def Binary.interval (b : Binary) : Interval :=
  let narrow := b.significand = hiddenBit ∧ b.exponent ≠ -1074
  let low := 4 * b.significand - (if narrow then 1 else 2)
  let value := 4 * b.significand
  let high := 4 * b.significand + 2
  let closed := b.significand % 2 == 0
  if 2 ≤ b.exponent then
    let scale := Nat.pow 2 (b.exponent - 2).toNat
    ⟨low * scale, value * scale, high * scale, 1, closed⟩
  else ⟨low, value, high, Nat.pow 2 (2 - b.exponent).toNat, closed⟩

/-- The least `p` with `value / unit < 10 ^ p`. -/
def Interval.magnitude (i : Interval) : Int :=
  if i.unit ≤ i.value then digitCount (i.value / i.unit)
  else 1 - (digitCount ((i.unit - 1) / i.value) : Int)

/-- Whether `n / d` lies in the interval. -/
def Interval.contains (i : Interval) (n d : Nat) : Bool :=
  if i.closed then i.low * d ≤ n * i.unit && n * i.unit ≤ i.high * d
  else i.low * d < n * i.unit && n * i.unit < i.high * d

/-- The point of the grid of step `10 ^ k` that lies in the interval nearest to its value. When both
neighbours are equally near the upper one is taken. -/
def Interval.onGrid? (i : Interval) (k : Int) : Option Decimal :=
  let up := if 0 ≤ k then Nat.pow 10 k.toNat else 1
  let down := if 0 ≤ k then 1 else Nat.pow 10 (-k).toNat
  let below := i.value * down / (i.unit * up)
  let rest := i.value * down - below * (i.unit * up)
  let lower := i.contains (below * up) down
  let upper := i.contains ((below + 1) * up) down
  if lower && upper then
    if 2 * rest < i.unit * up then some ⟨below, k⟩ else some ⟨below + 1, k⟩
  else if lower then some ⟨below, k⟩
  else if upper then some ⟨below + 1, k⟩
  else none

/-- The shortest decimal of a positive number: grids with 1, 2, … digits are tried in turn, and
seventeen digits always suffice. -/
def Binary.shortest (b : Binary) : Decimal :=
  let i := b.interval
  let p := i.magnitude
  ((List.range 17).findSome? fun n => i.onGrid? (p - ((n + 1 : Nat) : Int))).getD ⟨0, 0⟩

/-- The decimal without zeros at the end of its digits. -/
def Decimal.strip (d : Decimal) : Decimal :=
  if h : d.digits ≠ 0 ∧ d.digits % 10 = 0 then Decimal.strip ⟨d.digits / 10, d.exponent + 1⟩ else d
termination_by d.digits
decreasing_by omega

end FoxScript.Number
