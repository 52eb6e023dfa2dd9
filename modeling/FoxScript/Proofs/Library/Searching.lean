import FoxScript.Proofs.Library.Workshop
import FoxScript.Proofs.Value.Equality

/-!
# `contains`

`contains` compares the elements of an array with a value, one after the other, until one of them is
equal. The invariant of its loop says whether one has been found among those before the index.

## Main definitions

* `Session.Searches`: what a call of `contains` comes to.
* `Library.Searching`: a call of `contains` in its place.

## Main statements

* `Library.Searching.round`: a round compares the next element.
* `Library.Searching.runs`: what the loop comes to.
* `Session.searches`: what a call comes to.
-/
namespace FoxScript

open Library

/-- A call of `contains` tells whether one of the elements equals the value. Nothing that was there
before has changed, and nothing is printed. -/
def Session.Searches (s : Session) (a : ArrayId) (x : Value)
    (r : EStateM.Result Exit Session Value) : Prop :=
  ∃ b t, r = .ok (.bool b) t ∧ s.Tends .none t ∧ t.frame = s.frame ∧
    (b = true ↔ ∃ y ∈ s.store.elements a, y.equal s.store x = true)

namespace Library

/-! ### The parts of the body -/

/-- The parts of the body of `contains` are in their places. -/
structure Layout.Searches (l : Layout) (s : Session) : Prop where
  /-- What is found has a name. -/
  result : l.result.lexeme = "found"
  /-- At first nothing is found. -/
  first : l.first = .literal (.bool false)
  /-- The index has a name. -/
  counter : l.counter.lexeme = "i"
  /-- It begins with zero. -/
  zero : l.zero = .literal (.number (Float.ofNat 0))
  /-- The loop goes on as long as nothing is found and there are elements. -/
  condition : (Code.logical (.unary .bang (.name "found")) .and
    (.binary (.name "i") .less (.call (.name "len") [.name "xs"]))).At s
      (loopScopes "found" containsCode.scope) l.condition
  /-- A round compares an element. -/
  work : (Code.assign "found" (.binary element .equalEqual (.name "x"))).At s
    ([] :: loopScopes "found" containsCode.scope) l.work
  /-- Then it counts. -/
  count : (Code.assign "i" (.binary (.name "i") .plus (.number 1))).At s
    ([] :: loopScopes "found" containsCode.scope) l.count
  /-- The value is whether something was found. -/
  answer : (Code.name "found").At s (loopScopes "found" containsCode.scope) l.answer

/-- The body of `contains` has these parts. -/
theorem exists_contains_layout {s : Session} {e : Expr}
    (h : containsCode.body.At s [containsCode.scope] e) :
    ∃ l : Layout, e = .block l.members ∧ l.Searches s := by
  obtain ⟨es, rfl, members⟩ := h.block
  obtain ⟨e₁, es, rfl, h₁, members⟩ := members.cons
  obtain ⟨e₂, es, rfl, h₂, members⟩ := members.cons
  obtain ⟨e₃, es, rfl, h₃, members⟩ := members.cons
  obtain ⟨e₄, es, rfl, h₄, members⟩ := members.cons
  obtain rfl := members.nil
  obtain ⟨result, first, rfl, hr, h₁⟩ := h₁.declareAs
  obtain ⟨counter, zero, rfl, hi, h₂⟩ := h₂.declareAs
  obtain ⟨keyword, condition, work, count, rfl, compares, hw, hc⟩ := h₃.rounds
  exact ⟨⟨result, first, counter, zero, keyword, condition, work, count, e₄⟩, rfl,
    ⟨hr, h₁.bool, hi, h₂.number, compares, hw, hc, h₄⟩⟩

/-- What the block of `contains` holds: an index, and whether something was found. -/
def searchVars (i : Nat) (b : Bool) : List (String × Value) :=
  [("i", .number (Float.ofNat i)), ("found", .bool b)]

/-- A call of `contains` in its place, for an array `a` and a value `x`. -/
structure Searching (W : Workshop) (a : ArrayId) (x : Value) (m : Nat) (l : Layout) : Prop where
  /-- One parameter is the array. -/
  array : ("xs", .array a) ∈ W.bound
  /-- The other is the value. -/
  given : ("x", x) ∈ W.bound
  /-- The array was there before. -/
  old : W.start.store.HasArray a
  /-- The number of elements is a number without loss. -/
  small : (W.start.store.elements a).size < 2 ^ 53
  /-- The budget is enough. -/
  enough : (W.start.store.elements a).size + 4 ≤ m
  /-- The builtin function that is called has its name. -/
  natives : W.start.HasBuiltins [.len]
  /-- The session is in the block. -/
  frame : W.base.frame = W.block
  /-- No array has been made. -/
  arrays : W.base.store.arrays = W.start.store.arrays
  /-- The parts are in their places. -/
  layout : l.Searches W.start

namespace Searching

variable {W : Workshop} {a : ArrayId} {x : Value} {m : Nat} {l : Layout}

/-- The invariant: all but `d` elements have been compared with the value. -/
def Left (W : Workshop) (a : ArrayId) (x : Value) (d : Nat) (s : Session) : Prop :=
  ∃ i b, i + d = (W.start.store.elements a).size ∧ s.frame = W.block ∧
    W.Holds (fun _ => False) (searchVars i b) s ∧ s.store.arrays = W.start.store.arrays ∧
    (b = true ↔ ∃ y ∈ (W.start.store.elements a).extract 0 i, y.equal W.start.store x = true)

/-- It is known whether one of the elements equals the value. -/
def Known (W : Workshop) (a : ArrayId) (x : Value) (s : Session) : Prop :=
  ∃ i b, s.frame = W.block ∧ W.Holds (fun _ => False) (searchVars i b) s ∧
    (b = true ↔ ∃ y ∈ W.start.store.elements a, y.equal W.start.store x = true)

variable (L : Searching W a x m l)

include L

/-- The loop goes on as long as nothing is found and there are elements. -/
theorem tests {s : Session} {i : Nat} {b : Bool} (le : i ≤ (W.start.store.elements a).size)
    (frame : s.frame = W.block) (h : W.Holds (fun _ => False) (searchVars i b) s) :
    Eval.evaluate (m + 3) l.condition s =
      .ok (.bool (!b && decide (i < (W.start.store.elements a).size))) s := by
  have small := L.small
  obtain ⟨id, native⟩ := L.natives .len (by decide)
  have found : (Code.name "found").Has (loopScopes "found" containsCode.scope) 1 s (.bool b) :=
    ((h.knows (by simp [searchVars]) rfl).here frame).has
  have index : (Code.name "i").Has (loopScopes "found" containsCode.scope) 1 s
      (.number (Float.ofNat i)) := ((h.knows (by simp [searchVars]) rfl).here frame).has
  have array : (Code.name "xs").Has (loopScopes "found" containsCode.scope) 1 s (.array a) :=
    ((h.knows_parameter L.array rfl).here frame).has
  have length := array.length rfl rfl ((h.lookup?_root "len").trans native) (Nat.le_refl 1)
  rw [h.elements L.old not_false] at length
  have compared := (index.mono (Nat.le_succ 1)).less length (by omega) small
  have tested : (Code.logical (.unary .bang (.name "found")) .and
      (.binary (.name "i") .less (.call (.name "len") [.name "xs"]))).Has
      (loopScopes "found" containsCode.scope) 4 s
      (.bool (!b && decide (i < (W.start.store.elements a).size))) := by
    cases b with
    | true => exact (found.bang.mono (by decide)).and_refused rfl
    | false => exact (found.bang.mono (by decide)).and_goesOn rfl compared
  exact tested l.condition (m + 3) (L.layout.condition.mono h.recalls)
    (show 4 ≤ m + 3 by have := L.enough; omega)

/-- A round compares the next element, and nothing has been found before. -/
theorem round {s : Session} {i d : Nat} (left : i + (d + 1) = (W.start.store.elements a).size)
    (frame : s.frame = W.block) (h : W.Holds (fun _ => False) (searchVars i false) s)
    (arrays : s.store.arrays = W.start.store.arrays)
    (before : ¬∃ y ∈ (W.start.store.elements a).extract 0 i, y.equal W.start.store x = true) :
    ∃ v t, Eval.evaluate (m + 3) (.block [l.work, l.count]) s = .ok v t ∧ Left W a x d t := by
  have small := L.small
  have deep := L.enough
  obtain ⟨entered, inside⟩ := h.enter (.block [l.work, l.count])
  let c := s.enter (.block [l.work, l.count]) W.block
  have lt : i < (W.start.store.elements a).size := by omega
  -- the element is compared
  let y := (W.start.store.elements a)[i]
  let b := y.equal W.start.store x
  have array : (Code.name "xs").Has ([] :: loopScopes "found" containsCode.scope) 1 c (.array a) :=
    ((entered.knows_parameter L.array rfl).inside inside).has
  have given : (Code.name "x").Has ([] :: loopScopes "found" containsCode.scope) 1 c x :=
    ((entered.knows_parameter L.given rfl).inside inside).has
  have index : (Code.name "i").Has ([] :: loopScopes "found" containsCode.scope) 1 c
      (.number (Float.ofNat i)) := ((entered.knows (by simp [searchVars]) rfl).inside inside).has
  have found : (c.store.elements a)[i]? = some y := by
    rw [entered.elements L.old not_false, Array.getElem?_eq_getElem lt]
  have compared : (Code.binary element .equalEqual (.name "x")).Has
      ([] :: loopScopes "found" containsCode.scope) 3 c (.bool b) := by
    have values := (array.index index (by omega) found).equal (given.mono (Nat.le_succ 1))
    have same : c.store.arrays = W.start.store.arrays := arrays
    rwa [Value.equal_of_arrays_eq same] at values
  obtain ⟨e, place, assigns⟩ := Workshop.Holds.assign (n := m + 1) L.layout.work rfl rfl
  have value := compared e (m + 1) (place.mono entered.recalls) (by omega)
  let t := c.replace W.block "found" (.bool b)
  obtain ⟨works, h₁⟩ : Eval.evaluate (m + 2) l.work c = .ok _ t ∧
      W.Holds (fun _ => False) (searchVars i b) t :=
    assigns entered value inside (List.mem_cons_of_mem _ List.mem_cons_self) (by simp [searchVars])
  have inside : t.store.parent? t.frame = some W.block :=
    ((c.store.sameTree_replace _ _ _).parent _).trans inside
  let u := t.replace W.block "i" (.number (Float.ofNat (i + 1)))
  obtain ⟨counts, h₂⟩ : Eval.evaluate (m + 2) l.count t = .ok _ u ∧
      W.Holds (fun _ => False) (searchVars (i + 1) b) u :=
    h₁.counts L.layout.count rfl inside List.mem_cons_self (by omega) (show 2 ≤ m + 1 by omega)
      (by simp [searchVars])
  refine ⟨_, _, Workshop.Holds.round frame works counts, i + 1, b, by omega, rfl,
    h₂.inFrame W.block, arrays, ?_⟩
  rw [Array.extract_succ_right (Nat.succ_pos i) lt]
  constructor
  · exact fun equal => ⟨y, Array.mem_push_self, equal⟩
  · rintro ⟨z, mem, equal⟩
    obtain old | rfl := Array.mem_push.1 mem
    · exact absurd ⟨z, old, equal⟩ before
    · exact equal

/-- The loop ends once an element is found, or all have been compared. -/
theorem turn (d : Nat) (s : Session) (left : Left W a x d s) :
    (Eval.evaluate (m + 3) l.condition s = .ok (.bool false) s ∧ Known W a x s) ∨
      ∃ d' v t, d = d' + 1 ∧ Eval.evaluate (m + 3) l.condition s = .ok (.bool true) s ∧
        Eval.evaluate (m + 3) (.block [l.work, l.count]) s = .ok v t ∧ Left W a x d' t := by
  obtain ⟨i, b, all, frame, h, arrays, found⟩ := left
  rw [L.tests (by omega) frame h]
  cases b with
  | true =>
    obtain ⟨y, mem, equal⟩ := found.1 rfl
    have among : y ∈ W.start.store.elements a := by
      obtain ⟨k, _, rfl⟩ := Array.mem_extract_iff_getElem.1 mem
      exact Array.getElem_mem _
    exact .inl ⟨rfl, i, true, frame, h, iff_of_true rfl ⟨y, among, equal⟩⟩
  | false =>
    cases d with
    | zero =>
      obtain rfl : i = (W.start.store.elements a).size := all
      rw [Array.extract_size] at found
      exact .inl ⟨by simp, _, false, frame, h, found⟩
    | succ d =>
      have none := mt found.2 Bool.false_ne_true
      obtain ⟨v, t, ends, next⟩ := L.round all frame h arrays none
      exact .inr ⟨d, v, t, rfl, by simp [← all], ends, next⟩

/-- The loop finds out whether one of the elements equals the value. -/
theorem runs {s : Session} (left : Left W a x (W.start.store.elements a).size s) :
    ∃ v t, Eval.evaluate (m + 4) (.loopWhile l.keyword l.condition (.block [l.work, l.count])) s =
        .ok v t ∧ Known W a x t := by
  have enough : (W.start.store.elements a).size < m + 3 := by
    have := L.enough
    omega
  exact Eval.exists_loopWhile L.turn enough left

/-! ### The body -/

/-- Before the loop, nothing has been found. -/
theorem begins :
    ∃ t u, Eval.evaluate (m + 4) (.declareAs l.result l.first) W.base = .ok (.bool false) t ∧
      Eval.evaluate (m + 4) (.declareAs l.counter l.zero) t = .ok (.number (Float.ofNat 0)) u ∧
      Left W a x (W.start.store.elements a).size u := by
  let t := W.base.define l.result.lexeme (.bool false)
  obtain ⟨first, h₁⟩ : Eval.evaluate (m + 4) (.declareAs l.result l.first) W.base = .ok _ t ∧
      W.Holds (fun _ => False) [("found", .bool false)] t := by
    rw [L.layout.first]
    exact (W.begins _).declare rfl L.frame (by simp [L.layout.result])
  let u := t.define l.counter.lexeme (.number (Float.ofNat 0))
  obtain ⟨second, h₂⟩ : Eval.evaluate (m + 4) (.declareAs l.counter l.zero) t = .ok _ u ∧
      W.Holds (fun _ => False) (searchVars 0 false) u := by
    rw [L.layout.zero]
    exact h₁.declare rfl L.frame (by simp [L.layout.counter, searchVars])
  exact ⟨t, u, first, second, 0, false, Nat.zero_add _, L.frame, h₂, L.arrays, by simp⟩

/-- The members of the body tell whether one of the elements equals the value. -/
theorem answers :
    ∃ b w, Eval.last (Eval.evaluate (m + 4)) .null l.members W.base = .ok (.bool b) w ∧
      (b = true ↔ ∃ y ∈ W.start.store.elements a, y.equal W.start.store x = true) ∧
      W.start.Tends .none { w with frame := W.start.frame } := by
  obtain ⟨t, u, first, second, left⟩ := L.begins
  obtain ⟨v, w, third, i, b, back, h, found⟩ := L.runs left
  have known : (Code.name "found").Has (loopScopes "found" containsCode.scope) 1 w (.bool b) :=
    ((h.knows (by simp [searchVars]) rfl).here back).has
  have answer := known l.answer (m + 4) (L.layout.answer.mono h.recalls)
    (Nat.le_add_left 1 (m + 3))
  refine ⟨b, w, ?_, found, h.leaves (fun _ => nofun) W.start.frame⟩
  exact (Eval.bind_of_ok first).trans ((Eval.bind_of_ok second).trans
    ((Eval.bind_of_ok third).trans (Eval.bind_of_ok answer)))

end Searching

end Library

namespace Session

variable {s : Session} {c x : Value} {a : ArrayId} {m : Nat}

/-- What a call of `contains` comes to. -/
theorem searches (sound : s.Sound) (root : s.store.HasFrame Store.root)
    (h : s.Bundles containsCode c) (natives : s.HasBuiltins [.len]) (ha : s.store.HasArray a)
    (small : (s.store.elements a).size < 2 ^ 53) (enough : (s.store.elements a).size + 4 ≤ m)
    (close : Token) :
    s.Searches a x (Eval.invoke (Eval.evaluate (m + 5)) close c [.array a, x] s) := by
  obtain ⟨W, e, rfl, bound, frame, arrays, place, leaves⟩ :=
    h.opens sound root (by simp) rfl close (show _ = [Value.array a, x].length from rfl) (by decide)
  obtain ⟨l, same, layout⟩ := exists_contains_layout place
  obtain rfl := Expr.block.inj same
  have L : Searching W a x m l :=
    ⟨bound ▸ List.mem_cons_self, bound ▸ List.mem_cons_of_mem _ List.mem_cons_self, ha, small,
      enough, natives, frame, arrays, layout⟩
  obtain ⟨b, w, members, found, tends⟩ := L.answers
  exact ⟨b, _, leaves (m + 4) _ members fun _ _ => nofun, tends, rfl, found⟩

end Session

end FoxScript
