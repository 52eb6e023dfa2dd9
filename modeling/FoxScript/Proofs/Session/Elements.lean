import FoxScript.Proofs.Session.Arrays
import FoxScript.Proofs.Value.Reach

/-!
# Elements that are replaced

The replacement of an element either changes that element and nothing else, or it changes nothing:
then the target or the index is at fault, or the target can be reached from the index, which would
have to be shown while the target is being changed.

## Main definitions

* `Value.Truncates`, `Value.Indexes`: the whole number that a value stands for as an index.
* `Store.Replaces`: one element is replaced.
* `Store.Assigns`: the rules of replacement.

## Main statements

* `Store.assigns_iff`: the rules say just what a replacement comes to.
* `Session.element_assignment_exact`: so it is for each way to replace an element.
-/
namespace FoxScript

namespace Value

variable {s : Store} {v : Value} {i : Int}

/-! ### Indexes -/

/-- The value is a finite number, which is `n` when it is rounded toward zero. -/
def Truncates (v : Value) (n : Int) : Prop :=
  ∃ x b, v = .number x ∧ Number.decode x = .finite b ∧ b.truncate = n

/-- The value is a finite number, which is `i` when it is rounded toward zero and brought into the
range of 64-bit signed integers. -/
def Indexes (v : Value) (i : Int) : Prop :=
  ∃ n, v.Truncates n ∧ Number.clamp (-9223372036854775808) 9223372036854775807 n = i

/-- In an array that is no longer than 64 bits can say, the index is the number itself. -/
theorem Truncates.indexes {n : Int} (h : v.Truncates n) (index : v.Indexes i) {size : Nat}
    (le : size ≤ 9223372036854775807) :
    (0 ≤ i ∧ i < size ↔ 0 ≤ n ∧ n < size) ∧ (0 ≤ n ∧ n < size → i = n) := by
  obtain ⟨x, b, rfl, finite, rfl⟩ := h
  obtain ⟨_, ⟨_, c, same, finite', rfl⟩, rfl⟩ := index
  cases same
  rw [finite] at finite'
  cases finite'
  simp only [Number.clamp]
  omega

theorem toIndex_eq_ok_iff : v.toIndex s = .ok i ↔ v.Indexes i := by
  constructor
  · intro h
    cases v with
    | number x =>
      simp only [toIndex, Number.toIndex?] at h
      cases finite : Number.decode x with
      | finite b =>
        simp only [finite, Except.ok.injEq] at h
        exact ⟨_, ⟨x, b, rfl, finite, rfl⟩, h⟩
      | _ => simp [finite] at h
    | _ => cases h
  · rintro ⟨_, ⟨x, b, rfl, finite, rfl⟩, rfl⟩
    simp [toIndex, Number.toIndex?, finite]

/-- What stands for no index is shown in the fault. -/
theorem toIndex_eq_error_iff {f : Fault} :
    v.toIndex s = .error f ↔ (∀ i, ¬v.Indexes i) ∧ f = .invalidIndex (v.render s) := by
  have fault {g : Fault} (h : v.toIndex s = .error g) : g = .invalidIndex (v.render s) := by
    cases v with
    | number x =>
      simp only [toIndex] at h
      split at h <;> cases h
      rfl
    | _ => cases h; rfl
  constructor
  · intro h
    refine ⟨fun i index => ?_, fault h⟩
    rw [toIndex_eq_ok_iff.2 index] at h
    cases h
  · rintro ⟨none, rfl⟩
    cases h : v.toIndex s with
    | ok i => exact absurd (toIndex_eq_ok_iff.1 h) (none i)
    | error g => rw [fault h]

/-- An index is looked for among the elements. -/
theorem toElementIndex_of_indexes (h : v.Indexes i) (size : Nat) :
    v.toElementIndex s size =
      if 0 ≤ i ∧ i < size then .ok i.toNat else .error (.indexOutOfBounds i) := by
  have found : v.toElementIndex s size =
      if i < 0 || i.toNat ≥ size then .error (.indexOutOfBounds i) else .ok i.toNat := by
    rw [toElementIndex, toIndex_eq_ok_iff.2 h]
    simp only [Bind.bind, Except.bind]
    split <;> rfl
  rw [found]
  by_cases inside : 0 ≤ i ∧ i < size
  · rw [if_pos inside, if_neg]
    simp only [Bool.or_eq_true, decide_eq_true_eq, not_or, not_lt, ge_iff_le, not_le]
    omega
  · rw [if_neg inside, if_pos]
    simp only [Bool.or_eq_true, decide_eq_true_eq, ge_iff_le]
    omega

theorem toElementIndex_of_not_indexes (h : ∀ i, ¬v.Indexes i) (size : Nat) :
    v.toElementIndex s size = .error (.invalidIndex (v.render s)) := by
  rw [toElementIndex, toIndex_eq_error_iff.2 ⟨h, rfl⟩]
  rfl

/-- A value that stands for an index is no array. -/
theorem Indexes.array? (h : v.Indexes i) : v.array? = none := by
  obtain ⟨_, ⟨x, b, rfl, _⟩, _⟩ := h
  rfl

end Value

namespace Store

variable {s t : Store} {a : ArrayId} {i : Nat} {target index v : Value}

/-! ### One element -/

/-- In `s` one element of one array is replaced, which leads to `t`. -/
structure Replaces (s : Store) (a : ArrayId) (i : Nat) (v : Value) (t : Store) : Prop where
  /-- All frames stay. -/
  frames : t.frames = s.frames
  /-- No function is made. -/
  functions : t.functions = s.functions
  /-- No array is made. -/
  size : t.arrays.size = s.arrays.size
  /-- All other elements of all arrays stay. -/
  elements : ∀ b j, (t.elements b)[j]? =
    if b = a ∧ j = i then some v else (s.elements b)[j]?

theorem replaces_setAt (inside : i < (s.elements a).size) (v : Value) :
    s.Replaces a i v (s.setAt a i v) where
  frames := rfl
  functions := rfl
  size := by simp [setAt]
  elements b j := by
    rw [elements_setAt]
    by_cases array : b = a
    · subst array
      by_cases place : j = i
      · subst place
        simp [inside]
      · simp [place, Ne.symm place]
    · simp [array]

/-- A store is given by its frames and functions and by the elements of its arrays. -/
theorem eq_of_elements {u : Store} (frames : t.frames = u.frames)
    (functions : t.functions = u.functions) (size : t.arrays.size = u.arrays.size)
    (elements : ∀ b, t.elements b = u.elements b) : t = u := by
  have arrays : t.arrays = u.arrays := by
    refine Array.ext size fun k hk hk' => ?_
    have same := elements ⟨k⟩
    simpa [Store.elements, hk, hk'] using same
  obtain ⟨_, _, _⟩ := t
  obtain ⟨_, _, _⟩ := u
  simp only at frames functions arrays
  subst frames functions arrays
  rfl

/-- The replacement of an element leads to one store only. -/
theorem Replaces.eq (h : s.Replaces a i v t) (inside : i < (s.elements a).size) :
    t = s.setAt a i v := by
  have done := replaces_setAt inside v
  refine eq_of_elements (h.frames.trans done.frames.symm) (h.functions.trans done.functions.symm)
    (h.size.trans done.size.symm) fun b => Array.ext_getElem? fun j => ?_
  exact (h.elements b j).trans (done.elements b j).symm

/-! ### The rules of replacement -/

/-- What the replacement of an element of `target` at `index` comes to. -/
inductive Assigns (s : Store) (target index v : Value) : Except ElementFailure Store → Prop
  /-- If the array has the index, the element there is replaced. -/
  | replaced {a : ArrayId} {i : Nat} {t : Store} (array : target = .array a)
    (indexes : index.Indexes i) (inside : i < (s.elements a).size) (h : s.Replaces a i v t) :
    Assigns s target index v (.ok t)
  /-- An index that is an array must not lead to the array that is changed. -/
  | aliased {a b : ArrayId} (array : target = .array a) (nonempty : s.elements a ≠ #[])
    (indexArray : index = .array b) (way : Relation.ReflTransGen s.Links b a) :
    Assigns s target index v (.error .aliased)
  /-- Only arrays have elements. -/
  | notAnArray (other : ∀ a, target ≠ .array a) :
    Assigns s target index v (.error (.fault (.notAnArray target.kind)))
  /-- Some arrays have none. -/
  | emptyArray {a : ArrayId} (array : target = .array a) (empty : s.elements a = #[]) :
    Assigns s target index v (.error (.fault .emptyArray))
  /-- The index has to be a finite number. -/
  | invalidIndex {a : ArrayId} (array : target = .array a) (nonempty : s.elements a ≠ #[])
    (none : ∀ i, ¬index.Indexes i)
    (apart : ∀ b, index = .array b → ¬Relation.ReflTransGen s.Links b a) :
    Assigns s target index v (.error (.fault (.invalidIndex (index.render s))))
  /-- The array has to have the index. -/
  | indexOutOfBounds {a : ArrayId} {i : Int} (array : target = .array a)
    (nonempty : s.elements a ≠ #[]) (indexes : index.Indexes i)
    (outside : ¬(0 ≤ i ∧ i < (s.elements a).size)) :
    Assigns s target index v (.error (.fault (.indexOutOfBounds i)))

/-- An index is in the way of a replacement if it is an array that leads to the target. -/
theorem aliased_iff : (index.array?.isSome && index.reaches s a) = true ↔
    ∃ b, index = .array b ∧ Relation.ReflTransGen s.Links b a := by
  rw [Bool.and_eq_true, Value.reaches_iff]
  constructor
  · exact fun h => h.2
  · rintro ⟨b, rfl, way⟩
    exact ⟨rfl, b, rfl, way⟩

theorem setElement_of_aliased {b : ArrayId} (nonempty : s.elements a ≠ #[])
    (way : Relation.ReflTransGen s.Links b a) (v : Value) :
    s.setElement (.array a) (.array b) v = .error .aliased := by
  have found : ((Value.array b).array?.isSome && (Value.array b).reaches s a) = true :=
    aliased_iff.2 ⟨b, rfl, way⟩
  have size : (s.elements a).size ≠ 0 := fun none => nonempty (Array.eq_empty_of_size_eq_zero none)
  simp only [setElement, elementPlace, if_neg size, if_pos found]
  rfl

/-- Where the index does not lead to the target, its place among the elements decides. -/
theorem setElement_of_apart (nonempty : s.elements a ≠ #[])
    (apart : ∀ b, index = .array b → ¬Relation.ReflTransGen s.Links b a) (v : Value) :
    s.setElement (.array a) index v =
      match index.toElementIndex s (s.elements a).size with
      | .ok i => .ok (s.setAt a i v)
      | .error f => .error (.fault f) := by
  have size : (s.elements a).size ≠ 0 := fun none => nonempty (Array.eq_empty_of_size_eq_zero none)
  have free : ¬(index.array?.isSome && index.reaches s a) = true := by
    rw [aliased_iff]
    rintro ⟨b, rfl, way⟩
    exact apart b rfl way
  simp only [setElement, elementPlace, if_neg size, if_neg free]
  cases index.toElementIndex s (s.elements a).size <;> rfl

theorem not_leads_of_indexes {i : Int} (h : index.Indexes i) (b : ArrayId)
    (same : index = .array b) : ¬Relation.ReflTransGen s.Links b a := by
  have none := h.array?
  rw [same] at none
  cases none

/-- A replacement comes to what a rule says. -/
theorem Assigns.setElement_eq {r : Except ElementFailure Store} (h : s.Assigns target index v r) :
    s.setElement target index v = r := by
  cases h with
  | @replaced a i t array indexes inside h =>
    subst array
    have nonempty : s.elements a ≠ #[] := by
      rintro empty
      simp [empty] at inside
    rw [setElement_of_apart nonempty (not_leads_of_indexes indexes),
      Value.toElementIndex_of_indexes indexes, if_pos ⟨by omega, by omega⟩, h.eq inside]
    rfl
  | aliased array nonempty indexArray way =>
    subst array indexArray
    exact setElement_of_aliased nonempty way v
  | notAnArray other =>
    cases target with
    | array a => exact absurd rfl (other a)
    | _ => rfl
  | emptyArray array empty =>
    subst array
    simp [setElement, elementPlace, empty, Except.map]
  | invalidIndex array nonempty none apart =>
    subst array
    rw [setElement_of_apart nonempty apart, Value.toElementIndex_of_not_indexes none]
  | indexOutOfBounds array nonempty indexes outside =>
    subst array
    rw [setElement_of_apart nonempty (not_leads_of_indexes indexes),
      Value.toElementIndex_of_indexes indexes, if_neg outside]

/-- There is a rule for every replacement. -/
theorem exists_assigns (s : Store) (target index v : Value) : ∃ r, s.Assigns target index v r := by
  by_cases other : ∀ a, target ≠ .array a
  · exact ⟨_, .notAnArray other⟩
  obtain ⟨a, array⟩ := not_forall_not.1 other
  by_cases empty : s.elements a = #[]
  · exact ⟨_, .emptyArray array empty⟩
  by_cases leads : ∃ b, index = .array b ∧ Relation.ReflTransGen s.Links b a
  · obtain ⟨b, indexArray, way⟩ := leads
    exact ⟨_, .aliased array empty indexArray way⟩
  by_cases indexed : ∃ i, index.Indexes i
  · obtain ⟨i, indexes⟩ := indexed
    by_cases inside : 0 ≤ i ∧ i < (s.elements a).size
    · obtain ⟨n, rfl⟩ := Int.eq_ofNat_of_zero_le inside.1
      have inside : n < (s.elements a).size := Int.ofNat_lt.1 inside.2
      exact ⟨_, .replaced array indexes inside (replaces_setAt inside v)⟩
    · exact ⟨_, .indexOutOfBounds array empty indexes inside⟩
  · exact ⟨_, .invalidIndex array empty (not_exists.1 indexed)
      fun b same way => leads ⟨b, same, way⟩⟩

/-- The rules say just what a replacement comes to. -/
theorem assigns_iff {r : Except ElementFailure Store} :
    s.Assigns target index v r ↔ s.setElement target index v = r := by
  refine ⟨Assigns.setElement_eq, ?_⟩
  rintro rfl
  obtain ⟨r, h⟩ := exists_assigns s target index v
  exact h.setElement_eq ▸ h

/-- Of two arrays that contain each other, neither is an index into the other. -/
example : (⟨#[], #[#[.array ⟨1⟩], #[.array ⟨0⟩]], 0⟩ : Store).setElement
    (.array ⟨0⟩) (.array ⟨1⟩) .null = .error .aliased := rfl

/-- What the replacement of an element of the array comes to that a name stands for, once the name
has been looked up. -/
inductive AssignsTo (s : Store) (index v : Value) :
    Except Fault Value → Except ElementFailure Store → Prop
  /-- The name has a value. -/
  | found {target : Value} {r : Except ElementFailure Store} (h : s.Assigns target index v r) :
    AssignsTo s index v (.ok target) r
  /-- It has none. -/
  | missing (f : Fault) : AssignsTo s index v (.error f) (.error (.fault f))

theorem assignsTo_iff {found : Except Fault Value} {r : Except ElementFailure Store} :
    s.AssignsTo index v found r ↔
      (match found with
        | .ok target => s.setElement target index v
        | .error f => .error (.fault f)) = r := by
  cases found with
  | ok target =>
    refine Iff.trans ⟨?_, .found⟩ assigns_iff
    rintro ⟨h⟩
    exact h
  | error f =>
    constructor
    · rintro ⟨⟩
      rfl
    · rintro rfl
      exact .missing f

end Store

/-! ### Replacements in programs -/

namespace Session

/-- What a replacement leaves of a session and of the evaluation that makes it. -/
def afterElement (s : Session) (t : Token) (v : Value) :
    Except ElementFailure Store → EStateM.Result Exit Session Value
  | .ok store => .ok v { s with store := store }
  | .error (.fault f) => .error (.failed (.runtime t.location f)) s
  | .error .aliased => .error .crashed s

/-- The value of a use of a name. -/
def valueOf (s : Session) (id : NodeId) (name : Token) : Except Fault Value :=
  match s.hops[id]? with
  | some hops => s.store.getAt s.frame hops name.lexeme
  | none => s.store.get Store.root name.lexeme

theorem setElement_eq (s : Session) (t : Token) (target index v w : Value) :
    (do
      Eval.setElement t target index v
      return w : Eval Value) s = s.afterElement t w (s.store.setElement target index v) := by
  have split : (do
      Eval.setElement t target index v
      return w : Eval Value) s =
      ((Eval.ofElement t (s.store.elementPlace target index) >>= fun place =>
        Eval.modifyStore fun s => s.setAt place.1 place.2 v) >>= fun _ => pure w) s := rfl
  rw [split, Store.setElement]
  cases s.store.elementPlace target index with
  | ok place => rfl
  | error f => cases f <;> rfl

theorem evalValueOf_eq (s : Session) (id : NodeId) (name : Token) :
    Eval.valueOf id name s = Eval.ofExcept name (s.valueOf id name) s := by
  have split : Eval.valueOf id name s =
      (Eval.ofExcept name (s.owner id name) >>= fun f =>
        Eval.readStore fun s => s.valueIn name.lexeme f) s := rfl
  rw [split, valueOf, owner]
  cases s.hops[id]? with
  | none =>
    simp only [Store.get]
    cases s.store.find Store.root name.lexeme <;> rfl
  | some hops =>
    simp only [Store.getAt]
    cases s.store.findAt s.frame hops name.lexeme <;> rfl

theorem assignElement_eq {eval : Expr → Eval Value} {s t u : Session} {index value : Expr}
    {i v : Value} (hi : eval index s = .ok i t) (hv : eval value t = .ok v u) (rounds : Nat)
    (id : NodeId) (name : Token) :
    Eval.step eval rounds (.assignElement id name index value) s =
      u.afterElement name v
        (match u.valueOf id name with
          | .ok target => u.store.setElement target i v
          | .error f => .error (.fault f)) := by
  have split : Eval.step eval rounds (.assignElement id name index value) s =
      (Eval.valueOf id name >>= fun target => do
        Eval.setElement name target i v
        return v : Eval Value) u :=
    (Eval.bind_of_ok hi).trans (Eval.bind_of_ok hv)
  rw [split]
  have found := u.evalValueOf_eq id name
  cases value : u.valueOf id name with
  | ok target =>
    rw [value] at found
    exact (Eval.bind_of_ok found).trans (u.setElement_eq name target i v v)
  | error f =>
    rw [value] at found
    exact Eval.bind_of_error found

/-- The replacement of an element comes to just what the rules say: one element of one array is
replaced, or nothing is changed and the fault is told or the target is reached from the index. So it
is for the array that a name stands for, for the builtin function, and for an expression that assigns
an element. An array that is no longer than 64 bits can say is looked at where the index rounded
toward zero says. -/
theorem element_assignment_exact (s : Session) :
    (∀ target index v r,
      s.store.setElement target index v = r ↔ s.store.Assigns target index v r) ∧
    (∀ f name index v r, s.store.assignElement f name index v = r ↔
      s.store.AssignsTo index v (s.store.get f name) r) ∧
    (∀ f hops name index v r, s.store.assignElementAt f hops name index v = r ↔
      s.store.AssignsTo index v (s.store.getAt f hops name) r) ∧
    (∀ eval t target index v r, Eval.builtin eval t .set [target, index, v] s = r ↔
      ∃ o, s.store.Assigns target index v o ∧ s.afterElement t target o = r) ∧
    (∀ eval rounds id name index value i v before between,
      eval index before = .ok i between → eval value between = .ok v s →
      ∀ r, Eval.step eval rounds (.assignElement id name index value) before = r ↔
        ∃ o, s.store.AssignsTo i v (s.valueOf id name) o ∧ s.afterElement name v o = r) ∧
    ∀ (index : Value) n i (size : Nat), size ≤ 9223372036854775807 →
      index.Truncates n → index.Indexes i →
      (0 ≤ i ∧ i < size ↔ 0 ≤ n ∧ n < size) ∧ (0 ≤ n ∧ n < size → i = n) := by
  refine ⟨fun _ _ _ _ => Store.assigns_iff.symm, fun f name index v r => ?_,
    fun f hops name index v r => ?_, fun eval t target index v r => ?_,
    fun eval rounds id name index value i v before between hi hv r => ?_,
    fun _ _ _ _ le truncates indexes => truncates.indexes indexes le⟩
  · rw [Store.assignsTo_iff]
    rfl
  · rw [Store.assignsTo_iff]
    rfl
  · have done : Eval.builtin eval t .set [target, index, v] s =
        s.afterElement t target (s.store.setElement target index v) :=
      s.setElement_eq t target index v target
    simp only [done, Store.assigns_iff, exists_eq_left']
  · simp only [assignElement_eq hi hv, Store.assignsTo_iff, exists_eq_left']

end Session

end FoxScript
