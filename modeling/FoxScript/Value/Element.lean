import FoxScript.Number.Binary
import FoxScript.Value.Text

/-!
# Elements of arrays

Reading and writing single elements, and cutting out parts. An index is a finite number, whose
fraction is ignored.
-/
namespace FoxScript

namespace Value

/-- The index that a value stands for. -/
def toIndex (s : Store) (v : Value) : Except Fault Int :=
  let invalid : Except Fault Int := .error (.invalidIndex (v.render s))
  match v with
  | .number x =>
    match Number.toIndex? x with
    | some i => .ok i
    | none => invalid
  | _ => invalid

/-- The index that a value stands for, if an array of this length has it. -/
def toElementIndex (s : Store) (length : Nat) (v : Value) : Except Fault Nat := do
  let i ← v.toIndex s
  if i < 0 || i.toNat ≥ length then throw (.indexOutOfBounds i)
  return i.toNat

/-- Whether an array can be reached from a value through elements, without passing through the
arrays `active`, in at most so many steps. -/
def reachesWithin (s : Store) (target : ArrayId) : Nat → List ArrayId → Value → Bool
  | n, active, .array a =>
    if active.contains a then false
    else if a = target then true
    else
      match n with
      | 0 => false
      | n + 1 => (s.elements a).toList.any (reachesWithin s target n (a :: active))
  | _, _, _ => false

/-- Whether an array can be reached from a value through elements. -/
def reaches (s : Store) (target : ArrayId) (v : Value) : Bool :=
  reachesWithin s target (s.arrays.size + 1) [] v

end Value

/-- Why an element cannot be replaced. -/
inductive ElementFailure
  /-- The array or the index is wrong. -/
  | fault (f : Fault)
  /-- The index is an array from which the changed array can be reached. It would have to be shown
  while that array is being changed. -/
  | aliased

namespace Store

/-- The element of an array at an index. -/
def element (s : Store) (a : ArrayId) (index : Value) : Except Fault Value := do
  let i ← index.toElementIndex s (s.elements a).size
  return (s.elements a)[i]?.getD .null

/-- The elements of an array from an index on up to but not including another. -/
def slice (s : Store) (a : ArrayId) (lower upper : Value) : Except Fault (Array Value) := do
  let size := (s.elements a).size
  let start ← lower.toElementIndex s size
  let stop ← upper.toIndex s
  if stop < 0 || stop.toNat > size then throw (.upperBoundOutOfBounds stop)
  if (start : Int) > stop then throw (.invertedSlice start stop)
  return (s.elements a).extract start stop.toNat

/-- The array that a value stands for and the place in it that an index stands for, if the element
there can be replaced. -/
def elementPlace (s : Store) (target index : Value) : Except ElementFailure (ArrayId × Nat) :=
  match target with
  | .array a =>
    let size := (s.elements a).size
    if size = 0 then .error (.fault .emptyArray)
    else if index.array?.isSome && index.reaches s a then .error .aliased
    else
      match index.toElementIndex s size with
      | .ok i => .ok (a, i)
      | .error f => .error (.fault f)
  | _ => .error (.fault (.notAnArray target.kind))

/-- Replaces an element of the array that a value stands for. -/
def setElement (s : Store) (target index v : Value) : Except ElementFailure Store :=
  (s.elementPlace target index).map fun (a, i) => s.setAt a i v

/-- Replaces an element of the array that a name stands for in a frame or the frames around it. -/
def assignElement (s : Store) (f : FrameId) (name : String) (index v : Value) :
    Except ElementFailure Store :=
  match s.get f name with
  | .ok target => s.setElement target index v
  | .error e => .error (.fault e)

/-- Replaces an element of the array that a name stands for in the frame that lies so many parents
away. -/
def assignElementAt (s : Store) (f : FrameId) (hops : Nat) (name : String) (index v : Value) :
    Except ElementFailure Store :=
  match s.getAt f hops name with
  | .ok target => s.setElement target index v
  | .error e => .error (.fault e)

end Store

end FoxScript
