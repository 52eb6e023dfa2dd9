import FoxScript.Proofs.Number.Truncation
import FoxScript.Proofs.Session.Elements

/-!
# Elements and parts that are read

An element of an array or a part of it is read where the bounds in brackets say, or the first bound
that is wrong is told. The bounds are rounded toward zero; a part goes from the lower bound on up to
but not including the upper one, which may be the length of the array.

## Main definitions

* `Store.Picks`, `Store.Slices`: the rules by which an element or a part is read.
* `Eval.Indexed`, `Eval.Sliced`: the rules of expressions with brackets.
* `Store.boundWords`: the bounds of a part, computed with words of 64 bits.

## Main statements

* `Store.picks_iff`, `Store.slices_iff`: the rules say just what is read.
* `Store.slice_eq_boundWords`: with words of 64 bits the bounds come out the same.
* `Session.brackets_exact`: so it is in programs, and nothing is changed by it.
-/
namespace FoxScript

variable {s : Store} {a : ArrayId} {index lower upper : Value}

namespace Store

/-! ### The rules -/

/-- What it comes to when the element of an array at an index is read. -/
inductive Picks (s : Store) (a : ArrayId) (index : Value) : Except Fault Value → Prop
  /-- If the array has the index, it is the element there. -/
  | element {i : Nat} {v : Value} (indexes : index.Indexes i)
    (found : (s.elements a)[i]? = some v) :
    Picks s a index (.ok v)
  /-- The index has to be a finite number. -/
  | invalidIndex (none : ∀ i, ¬index.Indexes i) :
    Picks s a index (.error (.invalidIndex (index.render s)))
  /-- The array has to have the index. -/
  | indexOutOfBounds {i : Int} (indexes : index.Indexes i)
    (outside : ¬(0 ≤ i ∧ i < (s.elements a).size)) :
    Picks s a index (.error (.indexOutOfBounds i))

/-- What it comes to when the part of an array between two bounds is read. Each fault is told where
the conditions before it are met. -/
inductive Slices (s : Store) (a : ArrayId) (lower upper : Value) :
    Except Fault (Array Value) → Prop
  /-- If the array has the lower bound, and the upper one is neither before it nor behind the end,
  it is the elements between them. -/
  | part {i j : Nat} {es : Array Value} (first : lower.Indexes i) (last : upper.Indexes j)
    (inside : i < (s.elements a).size) (order : i ≤ j) (within : j ≤ (s.elements a).size)
    (size : es.size = j - i) (elements : ∀ k < j - i, es[k]? = (s.elements a)[i + k]?) :
    Slices s a lower upper (.ok es)
  /-- The lower bound has to be a finite number. -/
  | invalidLower (none : ∀ i, ¬lower.Indexes i) :
    Slices s a lower upper (.error (.invalidIndex (lower.render s)))
  /-- The array has to have the lower bound. -/
  | lowerOutOfBounds {i : Int} (first : lower.Indexes i)
    (outside : ¬(0 ≤ i ∧ i < (s.elements a).size)) :
    Slices s a lower upper (.error (.indexOutOfBounds i))
  /-- The upper bound has to be a finite number. -/
  | invalidUpper {i : Nat} (first : lower.Indexes i) (inside : i < (s.elements a).size)
    (none : ∀ j, ¬upper.Indexes j) :
    Slices s a lower upper (.error (.invalidIndex (upper.render s)))
  /-- The upper bound must not be behind the end of the array. -/
  | upperOutOfBounds {i : Nat} {j : Int} (first : lower.Indexes i)
    (inside : i < (s.elements a).size) (last : upper.Indexes j)
    (outside : ¬(0 ≤ j ∧ j ≤ (s.elements a).size)) :
    Slices s a lower upper (.error (.upperBoundOutOfBounds j))
  /-- The upper bound must not be before the lower one. -/
  | inverted {i j : Nat} (first : lower.Indexes i) (inside : i < (s.elements a).size)
    (last : upper.Indexes j) (within : j ≤ (s.elements a).size) (crossed : j < i) :
    Slices s a lower upper (.error (.invertedSlice i j))

/-! ### Elements -/

theorem Picks.element_eq {r : Except Fault Value} (h : s.Picks a index r) :
    s.element a index = r := by
  unfold Store.element
  cases h with
  | @element i v indexes found =>
    obtain ⟨inside, -⟩ := Array.getElem?_eq_some_iff.1 found
    rw [Value.toElementIndex_of_indexes indexes, if_pos (by omega)]
    simp [Bind.bind, Except.bind, Pure.pure, Except.pure, found]
  | invalidIndex none =>
    rw [Value.toElementIndex_of_not_indexes none]
    rfl
  | indexOutOfBounds indexes outside =>
    rw [Value.toElementIndex_of_indexes indexes, if_neg outside]
    rfl

theorem exists_picks (s : Store) (a : ArrayId) (index : Value) : ∃ r, s.Picks a index r := by
  by_cases indexed : ∃ i, index.Indexes i
  · obtain ⟨i, indexes⟩ := indexed
    by_cases inside : 0 ≤ i ∧ i < (s.elements a).size
    · obtain ⟨n, rfl⟩ := Int.eq_ofNat_of_zero_le inside.1
      have inside : n < (s.elements a).size := Int.ofNat_lt.1 inside.2
      exact ⟨_, .element indexes (Array.getElem?_eq_getElem inside)⟩
    · exact ⟨_, .indexOutOfBounds indexes inside⟩
  · exact ⟨_, .invalidIndex (not_exists.1 indexed)⟩

/-- The rules say just what is read. -/
theorem picks_iff {r : Except Fault Value} : s.element a index = r ↔ s.Picks a index r := by
  refine ⟨?_, Picks.element_eq⟩
  rintro rfl
  obtain ⟨r, h⟩ := exists_picks s a index
  exact h.element_eq ▸ h

/-! ### Parts -/

/-- What is cut out of an array is given by its size and its elements. -/
theorem eq_extract_iff {vs es : Array Value} {i j : Nat} (within : j ≤ vs.size) :
    es = vs.extract i j ↔ es.size = j - i ∧ ∀ k < j - i, es[k]? = vs[i + k]? := by
  have size : (vs.extract i j).size = j - i := by
    rw [Array.size_extract]
    omega
  have cut {k : Nat} (before : k < j - i) : (vs.extract i j)[k]? = vs[i + k]? := by
    rw [Array.getElem?_extract, if_pos (by omega)]
  constructor
  · rintro rfl
    exact ⟨size, fun k before => cut before⟩
  · rintro ⟨same, elements⟩
    refine Array.ext_getElem? fun k => ?_
    by_cases before : k < j - i
    · rw [elements k before, cut before]
    · rw [Array.getElem?_eq_none (by omega), Array.getElem?_eq_none (by omega)]

theorem slice_of_error {f : Fault}
    (h : lower.toElementIndex s (s.elements a).size = .error f) :
    s.slice a lower upper = .error f := by
  simp only [Store.slice, h]
  rfl

/-- Where the array has the lower bound, the upper one decides. -/
theorem slice_of_inside {i : Nat} (first : lower.Indexes i) (inside : i < (s.elements a).size) :
    s.slice a lower upper =
      match upper.toIndex s with
      | .error f => .error f
      | .ok j =>
        if ¬(0 ≤ j ∧ j ≤ (s.elements a).size) then .error (.upperBoundOutOfBounds j)
        else if j < i then .error (.invertedSlice i j)
        else .ok ((s.elements a).extract i j.toNat) := by
  unfold Store.slice
  simp only [Value.toElementIndex_of_indexes first]
  rw [if_pos (by omega)]
  cases upper.toIndex s with
  | error f => rfl
  | ok j =>
    simp only [Bind.bind, Except.bind, Int.toNat_natCast]
    by_cases within : 0 ≤ j ∧ j ≤ (s.elements a).size
    · rw [if_neg (not_not.2 within), if_neg]
      · by_cases crossed : j < i
        · rw [if_pos crossed, if_pos crossed]
          rfl
        · rw [if_neg crossed, if_neg crossed]
          rfl
      · simp only [Bool.or_eq_true, decide_eq_true_eq]
        omega
    · rw [if_pos within, if_pos]
      · rfl
      · simp only [Bool.or_eq_true, decide_eq_true_eq]
        omega

theorem Slices.slice_eq {r : Except Fault (Array Value)} (h : s.Slices a lower upper r) :
    s.slice a lower upper = r := by
  cases h with
  | part first last inside order within size elements =>
    rw [slice_of_inside first inside, Value.toIndex_eq_ok_iff.2 last,
      (eq_extract_iff within).2 ⟨size, elements⟩]
    dsimp only
    rw [if_neg (by omega), if_neg (by omega), Int.toNat_natCast]
  | invalidLower none => exact slice_of_error (Value.toElementIndex_of_not_indexes none _)
  | lowerOutOfBounds first outside =>
    exact slice_of_error ((Value.toElementIndex_of_indexes first _).trans (if_neg outside))
  | invalidUpper first inside none =>
    rw [slice_of_inside first inside, Value.toIndex_eq_error_iff.2 ⟨none, rfl⟩]
  | upperOutOfBounds first inside last outside =>
    rw [slice_of_inside first inside, Value.toIndex_eq_ok_iff.2 last]
    exact if_pos outside
  | inverted first inside last within crossed =>
    rw [slice_of_inside first inside, Value.toIndex_eq_ok_iff.2 last]
    dsimp only
    rw [if_neg (by omega), if_pos (by omega)]

/-- There is a rule for every pair of bounds. -/
theorem exists_slices (s : Store) (a : ArrayId) (lower upper : Value) :
    ∃ r, s.Slices a lower upper r := by
  by_cases hl : ∃ i, lower.Indexes i
  swap
  · exact ⟨_, .invalidLower (not_exists.1 hl)⟩
  obtain ⟨i, first⟩ := hl
  by_cases inside : 0 ≤ i ∧ i < (s.elements a).size
  swap
  · exact ⟨_, .lowerOutOfBounds first inside⟩
  obtain ⟨i, rfl⟩ := Int.eq_ofNat_of_zero_le inside.1
  have inside : i < (s.elements a).size := Int.ofNat_lt.1 inside.2
  by_cases hu : ∃ j, upper.Indexes j
  swap
  · exact ⟨_, .invalidUpper first inside (not_exists.1 hu)⟩
  obtain ⟨j, last⟩ := hu
  by_cases within : 0 ≤ j ∧ j ≤ (s.elements a).size
  swap
  · exact ⟨_, .upperOutOfBounds first inside last within⟩
  obtain ⟨j, rfl⟩ := Int.eq_ofNat_of_zero_le within.1
  have within : j ≤ (s.elements a).size := Int.ofNat_le.1 within.2
  by_cases crossed : j < i
  · exact ⟨_, .inverted first inside last within crossed⟩
  · obtain ⟨size, elements⟩ := (eq_extract_iff within).1 (rfl : (s.elements a).extract i j = _)
    exact ⟨_, .part first last inside (Nat.not_lt.1 crossed) within size elements⟩

/-- The rules say just what is read. -/
theorem slices_iff {r : Except Fault (Array Value)} :
    s.slice a lower upper = r ↔ s.Slices a lower upper r := by
  refine ⟨?_, Slices.slice_eq⟩
  rintro rfl
  obtain ⟨r, h⟩ := exists_slices s a lower upper
  exact h.slice_eq ▸ h

end Store

/-! ### Words of 64 bits -/

namespace Value

variable {v : Value}

/-- The index that a value stands for, as a word with a sign. -/
def toWord (s : Store) (v : Value) : Except Fault Int64 :=
  match v with
  | .number x =>
    if x.isFinite then .ok x.toModel.toInt64 else .error (.invalidIndex (v.render s))
  | _ => .error (.invalidIndex (v.render s))

/-- The index that a value stands for, as a word without a sign, if an array of this length has
it. -/
def toElementWord (s : Store) (length : UInt64) (v : Value) : Except Fault UInt64 := do
  let i ← v.toWord s
  if i < 0 || i.toUInt64 ≥ length then throw (.indexOutOfBounds i.toInt)
  return i.toUInt64

theorem toIndex_eq_toWord (s : Store) (v : Value) :
    v.toIndex s = (v.toWord s).map Int64.toInt := by
  cases v with
  | number x =>
    simp only [toIndex, toWord, Number.toIndex?_eq]
    split_ifs <;> rfl
  | _ => rfl

/-- A word that is not below zero does not wrap when it loses its sign. -/
theorem toNat_toUInt64 {i : Int64} (h : ¬i < 0) : i.toUInt64.toNat = i.toInt.toNat :=
  Int64.toNat_toUInt64_of_le (Int64.not_lt.1 h)

/-- The words that wrap when they lose their sign are those below zero. They are sorted out. -/
theorem word_outside (i : Int64) (length : UInt64) :
    (i < 0 ∨ i.toUInt64 ≥ length ↔ i.toInt < 0 ∨ i.toInt.toNat ≥ length.toNat) ∧
      (i < 0 ∨ i.toUInt64 > length ↔ i.toInt < 0 ∨ i.toInt.toNat > length.toNat) := by
  have sign : i < 0 ↔ i.toInt < 0 := by rw [Int64.lt_iff_toInt_lt, Int64.toInt_zero]
  by_cases below : i < 0
  · exact ⟨iff_of_true (.inl below) (.inl (sign.1 below)),
      iff_of_true (.inl below) (.inl (sign.1 below))⟩
  · rw [sign, ge_iff_le, gt_iff_lt, UInt64.le_iff_toNat_le, UInt64.lt_iff_toNat_lt,
      toNat_toUInt64 below]
    exact ⟨Iff.rfl, Iff.rfl⟩

/-- The place of an element comes out the same as a word. -/
theorem toElementIndex_eq_toElementWord (s : Store) (length : UInt64) (v : Value) :
    v.toElementIndex s length.toNat = (v.toElementWord s length).map UInt64.toNat := by
  unfold toElementIndex toElementWord
  rw [toIndex_eq_toWord]
  cases v.toWord s with
  | error f => rfl
  | ok i =>
    have outside := (word_outside i length).1
    simp only [Except.map, Bind.bind, Except.bind, Bool.or_eq_true, decide_eq_true_eq, outside]
    split
    · rfl
    · rename_i inside
      have sign : ¬i < 0 := fun below => inside (outside.1 (.inl below))
      exact congrArg Except.ok (toNat_toUInt64 sign).symm

/-- The place of an element is a word that does not wrap when it is given a sign. -/
theorem toInt_toElementWord {length start : UInt64} (h : v.toElementWord s length = .ok start) :
    start.toInt64.toInt = start.toNat ∧ start < length := by
  unfold toElementWord at h
  cases word : v.toWord s with
  | error f =>
    rw [word] at h
    cases h
  | ok i =>
    simp only [word, Bind.bind, Except.bind, Bool.or_eq_true, decide_eq_true_eq] at h
    split at h
    · cases h
    · rename_i inside
      cases h
      obtain ⟨sign, less⟩ := not_or.1 inside
      have positive : 0 ≤ i.toInt := by
        rw [Int64.lt_iff_toInt_lt, Int64.toInt_zero] at sign
        omega
      rw [Int64.toInt64_toUInt64, toNat_toUInt64 sign]
      exact ⟨(Int.toNat_of_nonneg positive).symm, UInt64.not_le.1 less⟩

end Value

namespace Store

/-- The bounds of a part of an array of this length, computed with words: where it begins, and where
it ends. -/
def boundWords (s : Store) (length : UInt64) (lower upper : Value) :
    Except Fault (UInt64 × UInt64) := do
  let start ← lower.toElementWord s length
  let stop ← upper.toWord s
  if stop < 0 || stop.toUInt64 > length then throw (.upperBoundOutOfBounds stop.toInt)
  if start.toInt64 > stop then throw (.invertedSlice start.toInt64.toInt stop.toInt)
  return (start, stop.toUInt64)

/-- The number of elements of an array, as a word without a sign. -/
def lengthWord (s : Store) (a : ArrayId) : UInt64 := .ofNat (s.elements a).size

theorem toNat_lengthWord (fits : (s.elements a).size < 2 ^ 64) :
    (s.lengthWord a).toNat = (s.elements a).size :=
  UInt64.toNat_ofNat_of_lt' fits

/-- The element that is read is the same when its place is computed with words. -/
theorem element_eq_toElementWord (fits : (s.elements a).size < 2 ^ 64) :
    s.element a index =
      (index.toElementWord s (s.lengthWord a)).map
        fun i => (s.elements a)[i.toNat]?.getD .null := by
  unfold Store.element
  rw [← toNat_lengthWord fits, Value.toElementIndex_eq_toElementWord]
  cases index.toElementWord s (s.lengthWord a) <;> rfl

/-- The part that is read is the same when its bounds are computed with words. -/
theorem slice_eq_boundWords (fits : (s.elements a).size < 2 ^ 64) :
    s.slice a lower upper =
      (s.boundWords (s.lengthWord a) lower upper).map
        fun bounds => (s.elements a).extract bounds.1.toNat bounds.2.toNat := by
  have place := Value.toElementIndex_eq_toElementWord s (s.lengthWord a) lower
  rw [toNat_lengthWord fits] at place
  unfold boundWords
  cases first : lower.toElementWord s (s.lengthWord a) with
  | error f =>
    rw [first] at place
    exact slice_of_error place
  | ok start =>
    obtain ⟨sign, inside⟩ := Value.toInt_toElementWord first
    rw [first] at place
    unfold Store.slice
    simp only [place, Except.map, Bind.bind, Except.bind, Value.toIndex_eq_toWord]
    cases upper.toWord s with
    | error f => rfl
    | ok stop =>
      have outside := (Value.word_outside stop (s.lengthWord a)).2
      rw [toNat_lengthWord fits] at outside
      have crossed : start.toInt64 > stop ↔ (start.toNat : Int) > stop.toInt := by
        rw [gt_iff_lt, Int64.lt_iff_toInt_lt, sign]
      simp only [Bool.or_eq_true, decide_eq_true_eq, outside, crossed, sign]
      by_cases far : stop.toInt < 0 ∨ stop.toInt.toNat > (s.elements a).size
      · rw [if_pos far, if_pos far]
        rfl
      · rw [if_neg far, if_neg far]
        by_cases before : (start.toNat : Int) > stop.toInt
        · rw [if_pos before, if_pos before]
          rfl
        · have positive : ¬stop < 0 := fun below => far (outside.1 (.inl below))
          rw [if_neg before, if_neg before, ← Value.toNat_toUInt64 positive]
          rfl

/-- Nothing wraps when the bounds are subtracted, and none of them is behind the end. -/
theorem le_of_boundWords {length start stop : UInt64}
    (h : s.boundWords length lower upper = .ok (start, stop)) :
    start ≤ stop ∧ stop ≤ length ∧ (stop - start).toNat = stop.toNat - start.toNat := by
  unfold boundWords at h
  cases first : lower.toElementWord s length with
  | error f =>
    rw [first] at h
    cases h
  | ok i =>
    obtain ⟨sign, -⟩ := Value.toInt_toElementWord first
    cases last : upper.toWord s with
    | error f =>
      rw [first, last] at h
      cases h
    | ok j =>
      simp only [first, last, Bind.bind, Except.bind, Bool.or_eq_true, decide_eq_true_eq] at h
      split at h
      · cases h
      · rename_i within
        split at h
        · cases h
        · rename_i order
          cases h
          obtain ⟨positive, within⟩ := not_or.1 within
          have order : start ≤ j.toUInt64 := by
            rw [gt_iff_lt, Int64.lt_iff_toInt_lt, sign] at order
            rw [UInt64.le_iff_toNat_le, Value.toNat_toUInt64 positive]
            omega
          exact ⟨order, UInt64.not_lt.1 within, UInt64.toNat_sub_of_le _ _ order⟩

end Store

/-! ### Brackets -/

namespace Eval

section

variable (eval : Expr → Eval Value) (target index lower upper : Expr) (close : Token) (s : Session)

/-- What stands before brackets is an array with elements. -/
def HasElements (a : ArrayId) (t : Session) : Prop :=
  eval target s = .ok (.array a) t ∧ t.store.elements a ≠ #[]

/-- What stands before brackets has no value, or none with elements. -/
inductive LacksElements : Exit → Session → Prop
  /-- It has no value. -/
  | exits {x : Exit} {t : Session} (h : eval target s = .error x t) : LacksElements x t
  /-- Only arrays have elements. -/
  | notAnArray {v : Value} {t : Session} (value : eval target s = .ok v t)
    (other : ∀ a, v ≠ .array a) :
    LacksElements (.failed (.runtime close.location (.notAnArray v.kind))) t
  /-- Some arrays have none. -/
  | emptyArray {a : ArrayId} {t : Session} (value : eval target s = .ok (.array a) t)
    (empty : t.store.elements a = #[]) :
    LacksElements (.failed (.runtime close.location .emptyArray)) t

/-- What an expression with one index in brackets comes to. The session is left as the index leaves
it. -/
inductive Indexed : EStateM.Result Exit Session Value → Prop
  /-- The index is not evaluated if there are no elements. -/
  | lacks {x : Exit} {t : Session} (h : LacksElements eval target close s x t) :
    Indexed (.error x t)
  /-- It has to have a value. -/
  | exits {a : ArrayId} {x : Exit} {t u : Session} (filled : HasElements eval target s a t)
    (h : eval index t = .error x u) : Indexed (.error x u)
  /-- Then the element is read. -/
  | element {a : ArrayId} {i v : Value} {t u : Session} (filled : HasElements eval target s a t)
    (value : eval index t = .ok i u) (picks : u.store.Picks a i (.ok v)) : Indexed (.ok v u)
  /-- Or the index is at fault. -/
  | fails {a : ArrayId} {i : Value} {f : Fault} {t u : Session}
    (filled : HasElements eval target s a t) (value : eval index t = .ok i u)
    (picks : u.store.Picks a i (.error f)) :
    Indexed (.error (.failed (.runtime close.location f)) u)

/-- What an expression with two bounds in brackets comes to. The session is left as the bounds leave
it, but for the new array. -/
inductive Sliced : EStateM.Result Exit Session Value → Prop
  /-- The bounds are not evaluated if there are no elements. -/
  | lacks {x : Exit} {t : Session} (h : LacksElements eval target close s x t) : Sliced (.error x t)
  /-- The lower bound has to have a value. -/
  | exitsLower {a : ArrayId} {x : Exit} {t u : Session} (filled : HasElements eval target s a t)
    (h : eval lower t = .error x u) : Sliced (.error x u)
  /-- So does the upper one. -/
  | exitsUpper {a : ArrayId} {i : Value} {x : Exit} {t u w : Session}
    (filled : HasElements eval target s a t) (first : eval lower t = .ok i u)
    (h : eval upper u = .error x w) : Sliced (.error x w)
  /-- Then the part is read, and a new array is made of it. -/
  | part {a : ArrayId} {i j : Value} {es : Array Value} {t u w : Session}
    (filled : HasElements eval target s a t) (first : eval lower t = .ok i u)
    (last : eval upper u = .ok j w) (slices : w.store.Slices a i j (.ok es)) :
    Sliced (.ok (.array (w.store.newArray es).1) { w with store := (w.store.newArray es).2 })
  /-- Or a bound is at fault. -/
  | fails {a : ArrayId} {i j : Value} {f : Fault} {t u w : Session}
    (filled : HasElements eval target s a t) (first : eval lower t = .ok i u)
    (last : eval upper u = .ok j w) (slices : w.store.Slices a i j (.error f)) :
    Sliced (.error (.failed (.runtime close.location f)) w)

end

variable {eval : Expr → Eval Value} {target index lower upper : Expr} {close : Token}
  {s t : Session} {r : EStateM.Result Exit Session Value}

theorem has_or_lacks_elements (eval : Expr → Eval Value) (target : Expr) (close : Token)
    (s : Session) :
    (∃ a t, HasElements eval target s a t) ∨ ∃ x t, LacksElements eval target close s x t := by
  cases value : eval target s with
  | error x t => exact .inr ⟨x, t, .exits value⟩
  | ok v t =>
    by_cases other : ∀ a, v ≠ .array a
    · exact .inr ⟨_, _, .notAnArray value other⟩
    · obtain ⟨a, rfl⟩ := not_forall_not.1 other
      by_cases empty : t.store.elements a = #[]
      · exact .inr ⟨_, _, .emptyArray value empty⟩
      · exact .inl ⟨a, t, value, empty⟩

theorem readStore_of_eq {α : Type} (f : Store → α) {x : α} (h : f s.store = x) :
    readStore f s = .ok x s := by
  rw [← h]
  rfl

theorem nonEmptyArray_of_elements {a : ArrayId} (nonempty : t.store.elements a ≠ #[]) :
    nonEmptyArray close (.array a) t = .ok a t := by
  have filled : (t.store.elements a).isEmpty = false := by simpa using nonempty
  exact bind_of_ok (readStore_of_eq (fun s => (s.elements a).isEmpty) filled)

theorem nonEmptyArray_of_empty {a : ArrayId} (empty : t.store.elements a = #[]) :
    nonEmptyArray close (.array a) t =
      .error (.failed (.runtime close.location .emptyArray)) t := by
  have hollow : (t.store.elements a).isEmpty = true := by simpa using empty
  exact bind_of_ok (readStore_of_eq (fun s => (s.elements a).isEmpty) hollow)

/-- What is done with the elements is done after the array was found. -/
theorem HasElements.bind {a : ArrayId} (h : HasElements eval target s a t)
    (next : ArrayId → Eval Value) :
    (eval target >>= fun v => nonEmptyArray close v >>= next) s = next a t :=
  (bind_of_ok h.1).trans (bind_of_ok (nonEmptyArray_of_elements h.2))

/-- Nothing is done if there are none. -/
theorem LacksElements.bind {x : Exit} (h : LacksElements eval target close s x t)
    (next : ArrayId → Eval Value) :
    (eval target >>= fun v => nonEmptyArray close v >>= next) s = .error x t := by
  cases h with
  | exits h => exact bind_of_error h
  | notAnArray value other =>
    refine (bind_of_ok value).trans (bind_of_error ?_)
    unfold nonEmptyArray
    split
    · rename_i a
      exact absurd rfl (other a)
    · rfl
  | emptyArray value empty =>
    exact (bind_of_ok value).trans (bind_of_error (nonEmptyArray_of_empty empty))

theorem Indexed.step_eq (h : Indexed eval target index close s r) (rounds : Nat) :
    step eval rounds (.index target index close) s = r := by
  unfold step
  cases h with
  | lacks h => exact h.bind _
  | exits filled h => exact (filled.bind _).trans (bind_of_error h)
  | @element a i v t u filled value picks | @fails a i v t u filled value picks =>
    have read := readStore_of_eq (fun s => s.element a i) picks.element_eq
    exact (filled.bind _).trans ((bind_of_ok value).trans (bind_of_ok read))

theorem exists_indexed (eval : Expr → Eval Value) (target index : Expr) (close : Token)
    (s : Session) : ∃ r, Indexed eval target index close s r := by
  obtain ⟨a, t, filled⟩ | ⟨x, t, h⟩ := has_or_lacks_elements eval target close s
  · cases value : eval index t with
    | error x u => exact ⟨_, .exits filled value⟩
    | ok i u =>
      obtain ⟨r, picks⟩ := u.store.exists_picks a i
      cases r with
      | ok v => exact ⟨_, .element filled value picks⟩
      | error f => exact ⟨_, .fails filled value picks⟩
  · exact ⟨_, .lacks h⟩

/-- The rules say just what an expression with an index comes to. -/
theorem indexed_iff (rounds : Nat) :
    step eval rounds (.index target index close) s = r ↔ Indexed eval target index close s r := by
  refine ⟨?_, fun h => h.step_eq rounds⟩
  rintro rfl
  obtain ⟨r, h⟩ := exists_indexed eval target index close s
  exact h.step_eq rounds ▸ h

theorem Sliced.step_eq (h : Sliced eval target lower upper close s r) (rounds : Nat) :
    step eval rounds (.slice target lower upper close) s = r := by
  unfold step
  cases h with
  | lacks h => exact h.bind _
  | exitsLower filled h => exact (filled.bind _).trans (bind_of_error h)
  | exitsUpper filled first h =>
    exact (filled.bind _).trans ((bind_of_ok first).trans (bind_of_error h))
  | @part a i j es t u w filled first last slices
  | @fails a i j es t u w filled first last slices =>
    have read := readStore_of_eq (fun s => s.slice a i j) slices.slice_eq
    exact (filled.bind _).trans
      ((bind_of_ok first).trans ((bind_of_ok last).trans (bind_of_ok read)))

theorem exists_sliced (eval : Expr → Eval Value) (target lower upper : Expr) (close : Token)
    (s : Session) : ∃ r, Sliced eval target lower upper close s r := by
  obtain ⟨a, t, filled⟩ | ⟨x, t, h⟩ := has_or_lacks_elements eval target close s
  · cases first : eval lower t with
    | error x u => exact ⟨_, .exitsLower filled first⟩
    | ok i u =>
      cases last : eval upper u with
      | error x w => exact ⟨_, .exitsUpper filled first last⟩
      | ok j w =>
        obtain ⟨r, slices⟩ := w.store.exists_slices a i j
        cases r with
        | ok es => exact ⟨_, .part filled first last slices⟩
        | error f => exact ⟨_, .fails filled first last slices⟩
  · exact ⟨_, .lacks h⟩

/-- The rules say just what an expression with two bounds comes to. -/
theorem sliced_iff (rounds : Nat) :
    step eval rounds (.slice target lower upper close) s = r ↔
      Sliced eval target lower upper close s r := by
  refine ⟨?_, fun h => h.step_eq rounds⟩
  rintro rfl
  obtain ⟨r, h⟩ := exists_sliced eval target lower upper close s
  exact h.step_eq rounds ▸ h

end Eval

/-! ### Brackets in programs -/

/-- A value stands for an index if it is a finite number: for the one that the conversion to a word
gives. -/
theorem Value.indexes_iff {v : Value} {i : Int} :
    v.Indexes i ↔ ∃ x, v = .number x ∧ x.isFinite = true ∧ x.toModel.toInt64.toInt = i := by
  constructor
  · rintro ⟨_, ⟨x, b, rfl, finite, rfl⟩, rfl⟩
    refine ⟨x, rfl, Number.isFinite_iff.2 ⟨b, finite⟩, ?_⟩
    rw [Number.toInt_toInt64 finite, b.truncate_eq]
  · rintro ⟨x, rfl, finite, rfl⟩
    obtain ⟨b, finite⟩ := Number.isFinite_iff.1 finite
    refine ⟨_, ⟨x, b, rfl, finite, rfl⟩, ?_⟩
    rw [Number.toInt_toInt64 finite, b.truncate_eq]

/-- An expression with an index or with two bounds in brackets comes to just what the rules say: to
the element or to a new array of the elements from the lower bound on up to but not including the
upper one, or to the first fault that there is. Nothing that was there before is changed. A bound is
a finite number, rounded toward zero and brought into the range of words with a sign. As long as a
word can say how many elements there are, the places come out the same when they are computed with
words, and no conversion or subtraction wraps. -/
theorem Session.brackets_exact :
    (∀ eval rounds target index close s r,
      Eval.step eval rounds (.index target index close) s = r ↔
        Eval.Indexed eval target index close s r) ∧
    (∀ eval rounds target lower upper close s r,
      Eval.step eval rounds (.slice target lower upper close) s = r ↔
        Eval.Sliced eval target lower upper close s r) ∧
    (∀ (s : Store) a index r, s.element a index = r ↔ s.Picks a index r) ∧
    (∀ (s : Store) a lower upper r, s.slice a lower upper = r ↔ s.Slices a lower upper r) ∧
    (∀ (s : Session) vs,
      s.Adds vs (s.store.newArray vs).1 { s with store := (s.store.newArray vs).2 }) ∧
    (∀ (v : Value) i, v.Indexes i ↔
      ∃ x, v = .number x ∧ x.isFinite = true ∧ x.toModel.toInt64.toInt = i) ∧
    (∀ x b, Number.decode x = .finite b → x.toModel.toInt64.toInt =
      Number.clamp (-9223372036854775808) 9223372036854775807 (Number.towardZero b.value)) ∧
    (∀ (s : Store) a, (s.elements a).size < 2 ^ 64 →
      (∀ index, s.element a index =
        (index.toElementWord s (s.lengthWord a)).map
          fun i => (s.elements a)[i.toNat]?.getD .null) ∧
      ∀ lower upper, s.slice a lower upper =
        (s.boundWords (s.lengthWord a) lower upper).map
          fun bounds => (s.elements a).extract bounds.1.toNat bounds.2.toNat) ∧
    ∀ (s : Store) length lower upper start stop,
      s.boundWords length lower upper = .ok (start, stop) →
      start ≤ stop ∧ stop ≤ length ∧ (stop - start).toNat = stop.toNat - start.toNat :=
  ⟨fun _ rounds _ _ _ _ _ => Eval.indexed_iff rounds,
    fun _ rounds _ _ _ _ _ _ => Eval.sliced_iff rounds, fun _ _ _ _ => Store.picks_iff,
    fun _ _ _ _ _ => Store.slices_iff, Session.adds_newArray, fun _ _ => Value.indexes_iff,
    fun _ _ h => Number.toInt_toInt64 h,
    fun _ _ fits => ⟨fun _ => Store.element_eq_toElementWord fits,
      fun _ _ => Store.slice_eq_boundWords fits⟩,
    fun _ _ _ _ _ _ h => Store.le_of_boundWords h⟩

end FoxScript
