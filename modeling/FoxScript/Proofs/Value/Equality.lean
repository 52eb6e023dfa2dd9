import FoxScript.Proofs.Value.Reach
import FoxScript.Value.Equality
import Mathlib

/-!
# When values are equal

Values are equal unless something tells them apart: going down through elements, one comes to a pair
of values that differ at first sight. On the way no array stands beside itself. A comparison assumes
that the pairs it is in the middle of are equal, and forgets about it afterwards. This hides no
difference: of all ways to a difference a shortest one does not come by the pair from which it
starts.

## Main definitions

* `Value.agree`: values that are the same at first sight.
* `Value.Differ`: values with a difference at the end of a way through elements.
* `Value.Compares`: how a comparison goes, without a bound.

## Main statements

* `Value.compares_equalWithin`: the bound on a comparison is never met.
* `Value.equal_decides_difference`: equality is the absence of differences, and an equivalence but
  for what is not a number.
-/
namespace FoxScript

/-! ### Equality of numbers -/

namespace Number

open Float.Model

/-- What is not a number equals nothing, and else only the two zeros are equal without being the
same. -/
theorem unpacked_beq_iff (a b : UnpackedFloat) : a.beq b = true ↔
    a ≠ .notANumber ∧ (a = b ∨ ∃ x y, a = .zero x ∧ b = .zero y) := by
  have lex (e f : Int) (m n : Nat) : (compare e f).then (compare m n) = .eq ↔ e = f ∧ m = n := by
    rw [Ordering.then_eq_eq, Std.compare_eq_iff_eq, Std.compare_eq_iff_eq]
  rw [UnpackedFloat.beq, beq_iff_eq]
  cases a with
  | notANumber => cases b <;> simp [UnpackedFloat.compare]
  | infinity x =>
    cases b with
    | infinity y => cases x <;> cases y <;> simp [UnpackedFloat.compare] <;> decide
    | _ => cases x <;> simp [UnpackedFloat.compare]
  | zero x =>
    cases b with
    | infinity y => cases y <;> simp [UnpackedFloat.compare]
    | finite y => cases y <;> simp [UnpackedFloat.compare]
    | _ => simp [UnpackedFloat.compare]
  | finite x m e =>
    cases b with
    | infinity y => cases x <;> cases y <;> simp [UnpackedFloat.compare]
    | finite y n f => cases x <;> cases y <;> simp [UnpackedFloat.compare, lex, and_comm]
    | _ => cases x <;> simp [UnpackedFloat.compare]

theorem beq_iff (x y : Float) : (x == y) = true ↔ x.toModel.unpack ≠ .notANumber ∧
    (x.toModel.unpack = y.toModel.unpack ∨
      ∃ a b, x.toModel.unpack = .zero a ∧ y.toModel.unpack = .zero b) :=
  unpacked_beq_iff _ _

theorem beq_comm (x y : Float) : (x == y) = (y == x) := by
  rw [Bool.eq_iff_iff, beq_iff, beq_iff]
  grind

theorem beq_trans {x y z : Float} (h : (x == y) = true) (g : (y == z) = true) :
    (x == z) = true := by
  rw [beq_iff] at h g ⊢
  grind

end Number

namespace Value

variable (s : Store)

/-- Whether two values are the same at first sight: they are of one kind, arrays are of one length,
and what is no array is the same. -/
def agree : Value → Value → Bool
  | .null, .null => true
  | .bool a, .bool b => a == b
  | .number x, .number y => x == y
  | .text a, .text b => a == b
  | .function f, .function g => f.id == g.id
  | .array a, .array b => (s.elements a).size == (s.elements b).size
  | _, _ => false

/-- Going along the indices of a path through elements, one comes from two values to two that differ
at first sight. On the way no array stands beside itself. -/
def Differ : List Nat → Value → Value → Prop
  | [], v, w => v.agree s w = false
  | i :: path, .array a, .array b =>
    a ≠ b ∧ ∃ x y, (s.elements a)[i]? = some x ∧ (s.elements b)[i]? = some y ∧ Differ path x y
  | _ :: _, _, _ => False

mutual

/-- Two values are compared with a result while the pairs `active` are being compared. There are
finitely many steps, and no bound on them. -/
inductive Compares : List (ArrayId × ArrayId) → Value → Value → Bool → Prop
  /-- They are not both arrays. -/
  | plain {active : List (ArrayId × ArrayId)} {v w : Value} (h : v.array? = none ∨ w.array? = none) :
    Compares active v w (v.agree s w)
  /-- They are the same array, or are being compared. -/
  | met {active : List (ArrayId × ArrayId)} {a b : ArrayId} (h : a = b ∨ (a, b) ∈ active) :
    Compares active (.array a) (.array b) true
  /-- They are arrays of different lengths. -/
  | lengths {active : List (ArrayId × ArrayId)} {a b : ArrayId} (h : ¬(a = b ∨ (a, b) ∈ active))
    (differ : (s.elements a).size ≠ (s.elements b).size) :
    Compares active (.array a) (.array b) false
  /-- They are arrays, of which the elements are compared in turn. -/
  | elements {active : List (ArrayId × ArrayId)} {a b : ArrayId} {r : Bool}
    (h : ¬(a = b ∨ (a, b) ∈ active)) (same : (s.elements a).size = (s.elements b).size)
    (inside : ComparesAll ((a, b) :: active)
      ((s.elements a).toList.zip (s.elements b).toList) r) :
    Compares active (.array a) (.array b) r

/-- Pairs of values are compared in turn, up to the first that is not equal. -/
inductive ComparesAll : List (ArrayId × ArrayId) → List (Value × Value) → Bool → Prop
  /-- There is none left. -/
  | nil {active : List (ArrayId × ArrayId)} : ComparesAll active [] true
  /-- The first pair is not equal. -/
  | stop {active : List (ArrayId × ArrayId)} {x y : Value} {rest : List (Value × Value)}
    (h : Compares active x y false) : ComparesAll active ((x, y) :: rest) false
  /-- The first pair is equal. -/
  | next {active : List (ArrayId × ArrayId)} {x y : Value} {rest : List (Value × Value)} {r : Bool}
    (h : Compares active x y true) (hr : ComparesAll active rest r) :
    ComparesAll active ((x, y) :: rest) r

end

variable {s}

theorem arrays_of_not_plain {v w : Value} (h : ¬(v.array? = none ∨ w.array? = none)) :
    ∃ a b, v = .array a ∧ w = .array b := by
  cases v <;> cases w <;> simp_all [array?]

/-- There is something to go into only in two arrays. -/
theorem Differ.arrays {i : Nat} {path : List Nat} {v w : Value} (h : Differ s (i :: path) v w) :
    ∃ a b, v = .array a ∧ w = .array b := by
  cases v <;> cases w <;> simp_all [Differ]

/-! ### One step of a comparison -/

theorem equalWithin_of_plain {v w : Value} (h : v.array? = none ∨ w.array? = none) (n : Nat)
    (active : List (ArrayId × ArrayId)) : equalWithin s n active v w = v.agree s w := by
  cases v <;> cases w <;> simp_all [equalWithin, agree, array?]

theorem equalWithin_of_met {a b : ArrayId} {active : List (ArrayId × ArrayId)}
    (h : a = b ∨ (a, b) ∈ active) (n : Nat) :
    equalWithin s n active (.array a) (.array b) = true := by
  cases n <;> simp [equalWithin, h]

theorem equalWithin_succ {a b : ArrayId} {active : List (ArrayId × ArrayId)}
    (h : ¬(a = b ∨ (a, b) ∈ active)) (n : Nat) :
    equalWithin s (n + 1) active (.array a) (.array b) =
      (agree s (.array a) (.array b) && ((s.elements a).toList.zip (s.elements b).toList).all
        fun p => equalWithin s n ((a, b) :: active) p.1 p.2) := by
  rw [equalWithin, if_neg (by simpa using h)]
  simp [agree]

/-- Values are compared by the arrays that they lead to. -/
theorem equal_of_arrays_eq {t : Store} (same : t.arrays = s.arrays) (v w : Value) :
    v.equal t w = v.equal s w := by
  have elements (a : ArrayId) : t.elements a = s.elements a := by
    rw [Store.elements, Store.elements, same]
  have within (n : Nat) (active : List (ArrayId × ArrayId)) (v w : Value) :
      equalWithin t n active v w = equalWithin s n active v w := by
    fun_induction equalWithin s n active v w with
    | case6 n active a b met => exact equalWithin_of_met (by simpa using met) n
    | case8 active a b met n xs ys ih =>
      rw [equalWithin_succ (by simpa using met), elements, elements]
      simp only [agree, elements, ih, xs, ys, Array.length_toList]
    | _ => simp_all [equalWithin]
  rw [equal, equal, within, same]

/-! ### The bound on comparisons -/

/-- Where there are elements to compare there is room for the pair of arrays. -/
theorem room_cons {n : Nat} {active : List (ArrayId × ArrayId)} {a b : ArrayId} {x y : Value}
    (room : Room (s.arrayIds ×ˢ s.arrayIds) (n + 1) active) (unmet : (a, b) ∉ active)
    (mem : (x, y) ∈ (s.elements a).toList.zip (s.elements b).toList) :
    Room (s.arrayIds ×ˢ s.arrayIds) n ((a, b) :: active) := by
  obtain ⟨hx, hy⟩ := List.of_mem_zip mem
  exact room.cons unmet (Finset.mem_product.2 ⟨Store.mem_arrayIds_of_mem (Array.mem_toList_iff.1 hx),
    Store.mem_arrayIds_of_mem (Array.mem_toList_iff.1 hy)⟩)

theorem room_nil (s : Store) :
    Room (s.arrayIds ×ˢ s.arrayIds) (s.arrays.size * s.arrays.size + 1) [] := by
  have room := Room.nil (s.arrayIds ×ˢ s.arrayIds)
  rwa [Finset.card_product, Store.card_arrayIds] at room

theorem comparesAll_of_forall {active : List (ArrayId × ArrayId)} {ps : List (Value × Value)}
    {eq : Value × Value → Bool} (h : ∀ p ∈ ps, Compares s active p.1 p.2 (eq p)) :
    ComparesAll s active ps (ps.all eq) := by
  induction ps with
  | nil => exact .nil
  | cons p ps ih =>
    have first := h p List.mem_cons_self
    rw [List.all_cons]
    cases result : eq p with
    | false =>
      rw [result] at first
      exact .stop first
    | true =>
      rw [result] at first
      exact .next first (ih fun q hq => h q (List.mem_cons_of_mem _ hq))

/-- A comparison with enough room ends before the bound is met. -/
theorem compares_equalWithin {n : Nat} {active : List (ArrayId × ArrayId)}
    (room : Room (s.arrayIds ×ˢ s.arrayIds) n active) (v w : Value) :
    Compares s active v w (equalWithin s n active v w) := by
  induction n generalizing active v w with
  | zero => obtain ⟨m, hm⟩ := room.exists_succ; cases hm
  | succ n ih =>
    by_cases plain : v.array? = none ∨ w.array? = none
    · rw [equalWithin_of_plain plain]
      exact .plain plain
    obtain ⟨a, b, rfl, rfl⟩ := arrays_of_not_plain plain
    by_cases met : a = b ∨ (a, b) ∈ active
    · rw [equalWithin_of_met met]
      exact .met met
    rw [equalWithin_succ met]
    by_cases same : (s.elements a).size = (s.elements b).size
    · rw [agree, beq_iff_eq.2 same, Bool.true_and]
      refine .elements met same (comparesAll_of_forall fun p hp => ?_)
      exact ih (room_cons room (fun mem => met (.inr mem)) hp) p.1 p.2
    · rw [agree, beq_false_of_ne same, Bool.false_and]
      exact .lengths met same

mutual

theorem Compares.unique {active : List (ArrayId × ArrayId)} {v w : Value} {r r' : Bool} :
    Compares s active v w r → Compares s active v w r' → r = r'
  | .plain h, h' => by
    cases h' with
    | plain => rfl
    | _ => simp [array?] at h
  | .met h, h' => by
    cases h' with
    | plain h' => simp [array?] at h'
    | met => rfl
    | lengths h' | elements h' => exact absurd h h'
  | .lengths h differ, h' => by
    cases h' with
    | plain h' => simp [array?] at h'
    | met h' => exact absurd h' h
    | lengths => rfl
    | elements _ same => exact absurd same differ
  | .elements h same inside, h' => by
    cases h' with
    | plain h' => simp [array?] at h'
    | met h' => exact absurd h' h
    | lengths _ differ => exact absurd same differ
    | elements _ _ inside' => exact inside.unique inside'

theorem ComparesAll.unique {active : List (ArrayId × ArrayId)} {ps : List (Value × Value)}
    {r r' : Bool} : ComparesAll s active ps r → ComparesAll s active ps r' → r = r'
  | .nil, .nil => rfl
  | .stop _, .stop _ => rfl
  | .stop h, .next h' _ => nomatch h.unique h'
  | .next h _, .stop h' => nomatch h.unique h'
  | .next _ hr, .next _ hr' => hr.unique hr'

end

/-! ### Differences -/

/-- What is not equal has a difference. -/
theorem differ_of_equalWithin {n : Nat} {active : List (ArrayId × ArrayId)} {v w : Value}
    (h : equalWithin s n active v w = false) : ∃ path, Differ s path v w := by
  induction n generalizing active v w with
  | zero =>
    by_cases plain : v.array? = none ∨ w.array? = none
    · rw [equalWithin_of_plain plain] at h
      exact ⟨[], h⟩
    · obtain ⟨a, b, rfl, rfl⟩ := arrays_of_not_plain plain
      simp [equalWithin] at h
  | succ n ih =>
    by_cases plain : v.array? = none ∨ w.array? = none
    · rw [equalWithin_of_plain plain] at h
      exact ⟨[], h⟩
    obtain ⟨a, b, rfl, rfl⟩ := arrays_of_not_plain plain
    by_cases met : a = b ∨ (a, b) ∈ active
    · rw [equalWithin_of_met met] at h
      cases h
    rw [equalWithin_succ met, Bool.and_eq_false_iff] at h
    obtain lengths | element := h
    · exact ⟨[], lengths⟩
    · obtain ⟨⟨x, y⟩, mem, differ⟩ := List.all_eq_false.1 element
      obtain ⟨path, hp⟩ := ih (Bool.eq_false_iff.2 differ)
      obtain ⟨i, hi⟩ := List.getElem?_of_mem mem
      obtain ⟨hx, hy⟩ := List.getElem?_zip_eq_some.1 hi
      rw [Array.getElem?_toList] at hx hy
      exact ⟨i :: path, fun same => met (.inl same), x, y, hx, hy, hp⟩

/-- Two values with a difference at the end of a way of at most so many steps. -/
def DifferWithin (s : Store) (k : Nat) (v w : Value) : Prop :=
  ∃ path, path.length ≤ k ∧ Differ s path v w

theorem DifferWithin.mono {k l : Nat} {v w : Value} (h : DifferWithin s k v w) (le : k ≤ l) :
    DifferWithin s l v w := by
  obtain ⟨path, short, hp⟩ := h
  exact ⟨path, Nat.le_trans short le, hp⟩

/-- Values that differ at first sight are not equal, if arrays that differ so are not being
compared. -/
theorem equalWithin_of_not_agree {n k : Nat} {active : List (ArrayId × ArrayId)} {v w : Value}
    (h : v.agree s w = false)
    (alike : ∀ p ∈ active, ¬DifferWithin s k (.array p.1) (.array p.2)) :
    equalWithin s (n + 1) active v w = false := by
  by_cases plain : v.array? = none ∨ w.array? = none
  · rw [equalWithin_of_plain plain, h]
  obtain ⟨a, b, rfl, rfl⟩ := arrays_of_not_plain plain
  have unmet : ¬(a = b ∨ (a, b) ∈ active) := by
    rintro (rfl | mem)
    · simp [agree] at h
    · exact alike _ mem ⟨[], Nat.zero_le k, h⟩
  rw [equalWithin_succ unmet, h, Bool.false_and]

/-- A difference is found if the pairs that are being compared have none that is as near. -/
theorem equalWithin_of_differWithin {k n : Nat} {active : List (ArrayId × ArrayId)} {v w : Value}
    (room : Room (s.arrayIds ×ˢ s.arrayIds) n active)
    (alike : ∀ p ∈ active, ¬DifferWithin s k (.array p.1) (.array p.2))
    (h : DifferWithin s k v w) : equalWithin s n active v w = false := by
  obtain ⟨n, rfl⟩ := room.exists_succ
  induction k generalizing n active v w with
  | zero =>
    obtain ⟨path, short, differ⟩ := h
    obtain rfl := List.length_eq_zero_iff.1 (Nat.le_zero.1 short)
    exact equalWithin_of_not_agree differ alike
  | succ k ih =>
    -- a nearer difference is found without looking at the pairs from which it is farther
    by_cases nearer : DifferWithin s k v w
    · exact ih (fun p hp near => alike p hp (near.mono (Nat.le_succ k))) nearer n room
    obtain ⟨path, short, differ⟩ := h
    cases path with
    | nil => exact equalWithin_of_not_agree differ alike
    | cons i path =>
      obtain ⟨a, b, rfl, rfl⟩ := differ.arrays
      obtain ⟨apart, x, y, hx, hy, differ'⟩ := differ
      have unmet : ¬(a = b ∨ (a, b) ∈ active) := by
        rintro (same | mem)
        · exact apart same
        · exact alike _ mem ⟨i :: path, short, apart, x, y, hx, hy, differ'⟩
      have mem : (x, y) ∈ (s.elements a).toList.zip (s.elements b).toList := by
        refine List.mem_of_getElem? (i := i) (List.getElem?_zip_eq_some.2 ?_)
        rw [Array.getElem?_toList, Array.getElem?_toList]
        exact ⟨hx, hy⟩
      have inside := room_cons room (fun mem => unmet (.inr mem)) mem
      obtain ⟨m, rfl⟩ := inside.exists_succ
      have found : equalWithin s (m + 1) ((a, b) :: active) x y = false := by
        refine ih (fun p hp => ?_) ⟨path, Nat.le_of_succ_le_succ short, differ'⟩ m inside
        obtain rfl | hp := List.mem_cons.1 hp
        · exact nearer
        · exact fun near => alike p hp (near.mono (Nat.le_succ k))
      rw [equalWithin_succ unmet, Bool.and_eq_false_iff]
      exact .inr (List.all_eq_false.2 ⟨_, mem, by simp [found]⟩)

/-- Values are equal unless there is a difference. -/
theorem equal_eq_false_iff {v w : Value} : v.equal s w = false ↔ ∃ path, Differ s path v w :=
  ⟨differ_of_equalWithin, fun ⟨path, h⟩ =>
    equalWithin_of_differWithin (room_nil s) (by simp) ⟨path, Nat.le_refl _, h⟩⟩

/-! ### Laws of equality -/

theorem agree_comm (v w : Value) : v.agree s w = w.agree s v := by
  cases v with
  | number x =>
    cases w with
    | number y => exact Number.beq_comm x y
    | _ => rfl
  | _ => cases w <;> first | rfl | exact Bool.beq_comm

theorem agree_trans {u v w : Value} (h : u.agree s v = true) (g : v.agree s w = true) :
    u.agree s w = true := by
  cases u <;> cases v <;> cases w <;> simp_all [agree]
  exact Number.beq_trans h g

theorem Differ.symm {path : List Nat} {v w : Value} (h : Differ s path v w) :
    Differ s path w v := by
  induction path generalizing v w with
  | nil => exact (agree_comm w v).trans h
  | cons i path ih =>
    obtain ⟨a, b, rfl, rfl⟩ := h.arrays
    obtain ⟨apart, x, y, hx, hy, h⟩ := h
    exact ⟨apart.symm, y, x, hy, hx, ih h⟩

/-- What tells two values apart tells one of them apart from any third. -/
theorem Differ.or_of {path : List Nat} {u w : Value} (h : Differ s path u w) (v : Value) :
    (∃ path, Differ s path u v) ∨ ∃ path, Differ s path v w := by
  induction path generalizing u v w with
  | nil =>
    by_contra none
    obtain ⟨left, right⟩ := not_or.1 none
    have hu : u.agree s v = true := Bool.of_not_eq_false fun h => left ⟨[], h⟩
    have hw : v.agree s w = true := Bool.of_not_eq_false fun h => right ⟨[], h⟩
    have differ : u.agree s w = false := h
    rw [agree_trans hu hw] at differ
    cases differ
  | cons i path ih =>
    obtain ⟨a, c, rfl, rfl⟩ := h.arrays
    have differ := h
    obtain ⟨apart, x, z, hx, hz, h⟩ := h
    by_cases first : agree s (.array a) v = true
    swap
    · exact .inl ⟨[], Bool.eq_false_iff.2 first⟩
    obtain ⟨b, rfl⟩ : ∃ b, v = .array b := by
      cases v <;> simp_all [agree]
    -- an array in the middle that is one of the two is told apart from the other as they are
    by_cases left : a = b
    · subst left
      exact .inr ⟨_, differ⟩
    by_cases right : b = c
    · subst right
      exact .inl ⟨_, differ⟩
    have length : (s.elements a).size = (s.elements b).size := by simpa [agree] using first
    have inside : i < (s.elements b).size := length ▸ (Array.getElem?_eq_some_iff.1 hx).1
    obtain ⟨path, h⟩ | ⟨path, h⟩ := ih h (s.elements b)[i]
    · exact .inl ⟨i :: path, left, x, _, hx, Array.getElem?_eq_getElem inside, h⟩
    · exact .inr ⟨i :: path, right, _, z, Array.getElem?_eq_getElem inside, hz, h⟩

theorem equal_comm (v w : Value) : v.equal s w = w.equal s v := by
  rw [Bool.eq_iff_iff, ← Bool.not_eq_false, ← Bool.not_eq_false, equal_eq_false_iff,
    equal_eq_false_iff]
  exact not_congr ⟨fun ⟨path, h⟩ => ⟨path, h.symm⟩, fun ⟨path, h⟩ => ⟨path, h.symm⟩⟩

theorem equal_trans {u v w : Value} (h : u.equal s v = true) (g : v.equal s w = true) :
    u.equal s w = true := by
  by_contra differ
  obtain ⟨path, differ⟩ := equal_eq_false_iff.1 (Bool.eq_false_iff.2 differ)
  obtain left | right := differ.or_of v
  · exact absurd h (by simp [equal_eq_false_iff.2 left])
  · exact absurd g (by simp [equal_eq_false_iff.2 right])

/-- Every value equals itself, but for what is not a number. -/
theorem equal_self_iff (v : Value) :
    v.equal s v = true ↔ ∀ x, v = .number x → x.isNaN = false := by
  cases v <;> simp [equal, equalWithin]

/-- A comparison of two values ends, and its result is their equality. They are not equal just if a
way through elements, on which no array stands beside itself, leads to a difference. So equality is
an equivalence of all values that are numbers if anything. -/
theorem equal_decides_difference (s : Store) :
    (∀ (v w : Value) (r : Bool), Compares s [] v w r ↔ v.equal s w = r) ∧
    (∀ v w : Value, v.equal s w = false ↔ ∃ path, Differ s path v w) ∧
    (∀ v w : Value, v.equal s w = w.equal s v) ∧
    (∀ u v w : Value, u.equal s v = true → v.equal s w = true → u.equal s w = true) ∧
    (∀ a : ArrayId, equal s (.array a) (.array a) = true) ∧
    (∀ v : Value, v.equal s v = true ↔ ∀ x : Float, v = .number x → x.isNaN = false) := by
  have compared (v w : Value) : Compares s [] v w (v.equal s w) := compares_equalWithin (room_nil s) v w
  refine ⟨fun v w r => ⟨fun h => (compared v w).unique h, ?_⟩, fun v w => equal_eq_false_iff,
    equal_comm, fun u v w => equal_trans, fun a => equalWithin_of_met (.inl rfl) _,
    equal_self_iff⟩
  rintro rfl
  exact compared v w

end Value

end FoxScript
