import FoxScript.Value.Store

/-!
# Equality of values

Arrays are equal if their elements are. A pair of arrays that is being compared counts as equal
where it is met again, so that cyclic arrays can be compared.
-/
namespace FoxScript

namespace Value

/-- Compares two values. The pairs of `active` are being compared; there are at most so many pairs
besides. -/
def equalWithin (s : Store) : Nat → List (ArrayId × ArrayId) → Value → Value → Bool
  | _, _, .null, .null => true
  | _, _, .bool a, .bool b => a == b
  | _, _, .number x, .number y => x == y
  | _, _, .text a, .text b => a == b
  | _, _, .function f, .function g => f.id == g.id
  | n, active, .array a, .array b =>
    if a = b || active.contains (a, b) then true
    else
      match n with
      | 0 => true
      | n + 1 =>
        let xs := (s.elements a).toList
        let ys := (s.elements b).toList
        xs.length == ys.length &&
          (xs.zip ys).all fun (x, y) => equalWithin s n ((a, b) :: active) x y
  | _, _, _, _ => false

/-- Whether two values are equal. -/
def equal (s : Store) (v w : Value) : Bool :=
  equalWithin s (s.arrays.size * s.arrays.size + 1) [] v w

end Value

end FoxScript
