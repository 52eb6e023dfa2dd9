import FoxScript.Proofs.Library.Gathering
import FoxScript.Proofs.Library.Workshop

/-!
# `reverse`

`reverse` finds out how many elements an array has, makes a new array of as many, and puts the
elements into it from the last to the first. The invariant of its loop says how many of them are
there already.

## Main definitions

* `Session.Makes`: a call that gives a new array.
* `Session.Reverses`: what a call of `reverse` comes to.
* `Library.Reversing`: a call of `reverse` in its place.

## Main statements

* `Library.Reversing.sets`: a round puts one more element into the new array.
* `Library.Reversing.runs`: what the loop comes to.
* `Session.reverses`: what a call comes to.
-/
namespace FoxScript

open Library

namespace Session

/-- What is done in the session gives a new array with these elements. Nothing that was there before
has changed, and nothing is printed. -/
def Makes (s : Session) (vs : Array Value) (r : EStateM.Result Exit Session Value) : Prop :=
  ∃ b t, r = .ok (.array b) t ∧ s.Tends .none t ∧ t.frame = s.frame ∧ ¬s.store.HasArray b ∧
    t.store.HasArray b ∧ t.store.elements b = vs

/-- A call of `reverse` gives a new array with the elements from the last to the first, if there is
memory for it. Otherwise it fails, and nothing has changed. -/
def Reverses (s : Session) (a : ArrayId) (r : EStateM.Result Exit Session Value) : Prop :=
  if (s.store.elements a).size ≤ s.memory then s.Makes (s.store.elements a).reverse r
  else
    ∃ (close : Token) (t : Session), s.Tends .none t ∧ t.frame = s.frame ∧
      r = .error (.failed (.runtime close.location
        (.builtin (.outOfMemory (Float.ofNat (s.store.elements a).size))))) t

end Session

/-! ### The parts of the body -/

namespace Library

/-- The scopes in the loop of `reverse`. -/
def reverseScopes : List Scope :=
  [[("i", true), ("i", false), ("result", true), ("result", false), ("n", true), ("n", false)],
    reverseCode.scope]

/-- What the block of `reverse` holds: an index, the array that is being made, and the number of
elements. -/
def reverseVars (i : Nat) (r : ArrayId) (n : Nat) : List (String × Value) :=
  [("i", .number (Float.ofNat i)), ("result", .array r), ("n", .number (Float.ofNat n))]

/-- The parts of the body of `reverse`. -/
structure ReverseLayout where
  /-- The number of elements. -/
  n : Token
  /-- What it is. -/
  length : Expr
  /-- The new array. -/
  result : Token
  /-- What it is at first. -/
  made : Expr
  /-- The index. -/
  counter : Token
  /-- What it is at first. -/
  zero : Expr
  /-- The keyword of the loop. -/
  keyword : Token
  /-- The condition of the loop. -/
  condition : Expr
  /-- The work of a round. -/
  work : Expr
  /-- The end of a round. -/
  count : Expr
  /-- The value of the body. -/
  answer : Expr

/-- The members of the body. -/
def ReverseLayout.members (l : ReverseLayout) : List Expr :=
  [.declareAs l.n l.length, .declareAs l.result l.made, .declareAs l.counter l.zero,
    .loopWhile l.keyword l.condition (.block [l.work, l.count]), l.answer]

/-- The parts are in their places. -/
structure ReverseLayout.At (l : ReverseLayout) (s : Session) : Prop where
  /-- The number of elements has a name. -/
  n : l.n.lexeme = "n"
  /-- It is the length of the array. -/
  length : (Code.call (.name "len") [.name "xs"]).At s [[("n", false)], reverseCode.scope] l.length
  /-- The new array has a name. -/
  result : l.result.lexeme = "result"
  /-- It is as long as the other one. -/
  made : (Code.call (.name "Array") [.name "n"]).At s
    [[("result", false), ("n", true), ("n", false)], reverseCode.scope] l.made
  /-- The index has a name. -/
  counter : l.counter.lexeme = "i"
  /-- It begins with zero. -/
  zero : l.zero = .literal (.number (Float.ofNat 0))
  /-- The condition compares the index with the number of elements. -/
  condition : (Code.binary (.name "i") .less (.name "n")).At s reverseScopes l.condition
  /-- A round sets an element. -/
  work : (Code.call (.name "set") [.name "result", .name "i",
    .index (.name "xs")
      (.binary (.binary (.name "n") .minus (.name "i")) .minus (.number 1))]).At s
    ([] :: reverseScopes) l.work
  /-- Then it counts. -/
  count : (Code.assign "i" (.binary (.name "i") .plus (.number 1))).At s ([] :: reverseScopes)
    l.count
  /-- The value is the new array. -/
  answer : (Code.name "result").At s reverseScopes l.answer

/-- The body of `reverse` has these parts. -/
theorem exists_reverse_layout {s : Session} {e : Expr}
    (h : reverseCode.body.At s [reverseCode.scope] e) :
    ∃ l : ReverseLayout, e = .block l.members ∧ l.At s := by
  obtain ⟨es, rfl, members⟩ := h.block
  obtain ⟨e₁, es, rfl, h₁, members⟩ := members.cons
  obtain ⟨e₂, es, rfl, h₂, members⟩ := members.cons
  obtain ⟨e₃, es, rfl, h₃, members⟩ := members.cons
  obtain ⟨e₄, es, rfl, h₄, members⟩ := members.cons
  obtain ⟨e₅, es, rfl, h₅, members⟩ := members.cons
  obtain rfl := members.nil
  obtain ⟨n, length, rfl, hn, h₁⟩ := h₁.declareAs
  obtain ⟨result, made, rfl, hr, h₂⟩ := h₂.declareAs
  obtain ⟨counter, zero, rfl, hi, h₃⟩ := h₃.declareAs
  obtain ⟨keyword, condition, work, count, rfl, compares, hw, hc⟩ := h₄.rounds
  exact ⟨⟨n, length, result, made, counter, zero, keyword, condition, work, count, e₅⟩, rfl,
    ⟨hn, h₁, hr, h₂, hi, h₃.number, compares, hw, hc, h₅⟩⟩

/-- A call of `reverse` in its place, for an array `a`. -/
structure Reversing (W : Workshop) (a : ArrayId) (m : Nat) (l : ReverseLayout) : Prop where
  /-- The parameter is the array. -/
  array : ("xs", .array a) ∈ W.bound
  /-- The array was there before. -/
  old : W.start.store.HasArray a
  /-- The number of elements is a number without loss. -/
  small : (W.start.store.elements a).size < 2 ^ 53
  /-- The budget is enough. -/
  enough : (W.start.store.elements a).size + 4 ≤ m
  /-- The builtin functions that are called have their names. -/
  natives : W.start.HasBuiltins [.len, .newArray, .set]
  /-- The session is in the block. -/
  frame : W.base.frame = W.block
  /-- The parts are in their places. -/
  layout : l.At W.start

namespace Reversing

variable {W : Workshop} {a r : ArrayId} {m : Nat} {l : ReverseLayout}

/-- The invariant of the loop: all but `d` elements have been put into the new array `r`. -/
def Left (W : Workshop) (a r : ArrayId) (d : Nat) (s : Session) : Prop :=
  ∃ i, i + d = (W.start.store.elements a).size ∧ s.frame = W.block ∧
    W.Holds (· = r) (reverseVars i r (W.start.store.elements a).size) s ∧
    s.store.elements r =
      (W.start.store.elements a).reverse.extract 0 i ++ Array.replicate d .null

variable (L : Reversing W a m l)

include L

/-! ### Before the loop -/

/-- First the number of elements is found out. -/
theorem finds_length :
    ∃ t, Eval.evaluate (m + 4) (.declareAs l.n l.length) W.base =
        .ok (.number (Float.ofNat (W.start.store.elements a).size)) t ∧ t.frame = W.block ∧
      W.Holds (fun _ => False)
        [("n", .number (Float.ofNat (W.start.store.elements a).size))] t := by
  have base := W.begins fun _ => False
  obtain ⟨id, native⟩ := L.natives .len (by decide)
  have array : (Code.name "xs").Has [[("n", false)], reverseCode.scope] 1 W.base (.array a) :=
    ((base.knows_parameter L.array rfl).here L.frame).has
  have length := array.length rfl rfl ((base.lookup?_root "len").trans native) (Nat.le_refl 1)
    l.length (m + 3) (L.layout.length.mono base.recalls) (Nat.le_add_left 2 (m + 1))
  rw [base.elements L.old not_false] at length
  let t := W.base.define l.n.lexeme (.number (Float.ofNat (W.start.store.elements a).size))
  obtain ⟨declares, h⟩ : Eval.evaluate (m + 4) (.declareAs l.n l.length) W.base = .ok _ t ∧
      W.Holds (fun _ => False)
        [("n", .number (Float.ofNat (W.start.store.elements a).size))] t :=
    base.declare length L.frame (by simp [L.layout.n])
  exact ⟨t, declares, L.frame, h⟩

/-- Then an array is made, if there is memory for it. -/
theorem makes {t : Session} (frame : t.frame = W.block)
    (h : W.Holds (fun _ => False)
      [("n", .number (Float.ofNat (W.start.store.elements a).size))] t) :
    ∃ x : Token, Eval.evaluate (m + 3) l.made t =
      if (W.start.store.elements a).size ≤ W.start.memory then
        .ok (.array (t.store.newArray
            (Array.replicate (W.start.store.elements a).size .null)).1)
          { t with store := (t.store.newArray
            (Array.replicate (W.start.store.elements a).size .null)).2 }
      else .error (.failed (.runtime x.location
        (.builtin (.outOfMemory (Float.ofNat (W.start.store.elements a).size))))) t := by
  obtain ⟨id, native⟩ := L.natives .newArray (by decide)
  have number : (Code.name "n").Has
      [[("result", false), ("n", true), ("n", false)], reverseCode.scope] 1 t
      (.number (Float.ofNat (W.start.store.elements a).size)) :=
    ((h.knows List.mem_cons_self rfl).here frame).has
  rw [← W.entered.tends.memory, ← h.tends.memory]
  exact Code.evaluate_array (L.layout.made.mono h.recalls) number rfl rfl
    ((h.lookup?_root "Array").trans native) L.small (Nat.le_refl 1) (Nat.le_add_left 1 (m + 1))

/-- The new array and the index get their names, and the loop can begin. -/
theorem begins {t u : Session} (made : Eval.evaluate (m + 3) l.made t = .ok (.array r) u)
    (frame : u.frame = W.block)
    (h : W.Holds (· = r) [("n", .number (Float.ofNat (W.start.store.elements a).size))] u)
    (empty : u.store.elements r = Array.replicate (W.start.store.elements a).size .null) :
    ∃ v w, Eval.evaluate (m + 4) (.declareAs l.result l.made) t = .ok (.array r) v ∧
      Eval.evaluate (m + 4) (.declareAs l.counter l.zero) v = .ok (.number (Float.ofNat 0)) w ∧
      w.store.arrays = u.store.arrays ∧ Left W a r (W.start.store.elements a).size w := by
  let v := u.define l.result.lexeme (.array r)
  obtain ⟨first, h₁⟩ : Eval.evaluate (m + 4) (.declareAs l.result l.made) t = .ok _ v ∧
      W.Holds (· = r) [("result", .array r),
        ("n", .number (Float.ofNat (W.start.store.elements a).size))] v :=
    h.declare made frame (by simp [L.layout.result])
  let w := v.define l.counter.lexeme (.number (Float.ofNat 0))
  obtain ⟨second, h₂⟩ : Eval.evaluate (m + 4) (.declareAs l.counter l.zero) v = .ok _ w ∧
      W.Holds (· = r) (reverseVars 0 r (W.start.store.elements a).size) w := by
    rw [L.layout.zero]
    exact h₁.declare rfl frame (by simp [L.layout.counter, reverseVars])
  refine ⟨v, w, first, second, rfl, 0, Nat.zero_add _, frame, h₂, ?_⟩
  rw [Array.extract_zero, Array.empty_append]
  exact empty

/-! ### The loop -/

/-- In a round, the next element is the one that is as far from the end as the index from the
start. -/
theorem element {s : Session} {i d : Nat} (new : ¬W.start.store.HasArray r)
    (left : i + (d + 1) = (W.start.store.elements a).size)
    (h : W.Holds (· = r) (reverseVars i r (W.start.store.elements a).size) s)
    (inside : s.store.parent? s.frame = some W.block) :
    ∃ y, (W.start.store.elements a).reverse[i]? = some y ∧
      (Code.index (.name "xs") (.binary (.binary (.name "n") .minus (.name "i")) .minus
        (.number 1))).Has ([] :: reverseScopes) 4 s y := by
  have small := L.small
  have index : (Code.name "i").Has ([] :: reverseScopes) 1 s (.number (Float.ofNat i)) :=
    ((h.knows (by simp [reverseVars]) rfl).inside inside).has
  have number : (Code.name "n").Has ([] :: reverseScopes) 1 s
      (.number (Float.ofNat (W.start.store.elements a).size)) :=
    ((h.knows (by simp [reverseVars]) rfl).inside inside).has
  have array : (Code.name "xs").Has ([] :: reverseScopes) 1 s (.array a) :=
    ((h.knows_parameter L.array rfl).inside inside).has
  have difference := (number.minus index (by omega) small).minus
    ((Code.Has.number 1).mono (Nat.le_succ 1)) (by omega) (by omega)
  have last : (W.start.store.elements a).size - i - 1 < (W.start.store.elements a).size := by
    omega
  have other : ¬a = r := by
    rintro rfl
    exact new L.old
  have found : (s.store.elements a)[(W.start.store.elements a).size - i - 1]? =
      some (W.start.store.elements a)[(W.start.store.elements a).size - i - 1] := by
    rw [h.elements L.old other, Array.getElem?_eq_getElem last]
  refine ⟨_, ?_, (array.mono (by decide : 1 ≤ 3)).index difference (by omega) found⟩
  rw [Array.getElem?_reverse (by omega), Nat.sub_right_comm, Array.getElem?_eq_getElem last]

/-- One more element is put into the new array. -/
theorem sets {s : Session} {i d : Nat} (new : ¬W.start.store.HasArray r)
    (left : i + (d + 1) = (W.start.store.elements a).size)
    (h : W.Holds (· = r) (reverseVars i r (W.start.store.elements a).size) s)
    (inside : s.store.parent? s.frame = some W.block)
    (elements : s.store.elements r =
      (W.start.store.elements a).reverse.extract 0 i ++ Array.replicate (d + 1) .null) :
    ∃ t, Eval.evaluate (m + 2) l.work s = .ok (.array r) t ∧
      t.store.parent? t.frame = some W.block ∧
      W.Holds (· = r) (reverseVars i r (W.start.store.elements a).size) t ∧
      t.store.elements r =
        (W.start.store.elements a).reverse.extract 0 (i + 1) ++ Array.replicate d .null := by
  have small := L.small
  have enough := L.enough
  obtain ⟨callee, es, close, call, first, rest⟩ := (L.layout.work.mono h.recalls).call
  obtain ⟨id, native⟩ := L.natives .set (by decide)
  have set : (Code.name "set").Has ([] :: reverseScopes) 1 s (.function (.builtin id .set)) :=
    ((h.knows_global native rfl).inside inside).has
  have result : (Code.name "result").Has ([] :: reverseScopes) 1 s (.array r) :=
    ((h.knows (by simp [reverseVars]) rfl).inside inside).has
  have index : (Code.name "i").Has ([] :: reverseScopes) 1 s (.number (Float.ofNat i)) :=
    ((h.knows (by simp [reverseVars]) rfl).inside inside).has
  obtain ⟨y, next, element⟩ := L.element new left h inside
  have args := Code.EachHas.all_eq (.cons ⟨rfl, result.mono (by decide)⟩
    (.cons ⟨rfl, index.mono (by decide)⟩ (.cons ⟨rfl, element⟩ .nil))) rest
    (show 4 ≤ m + 1 by omega) #[]
  have room : i < (s.store.elements r).size := by
    rw [elements]
    simp
    omega
  have works : Eval.evaluate (m + 2) l.work s =
      .ok (.array r) { s with store := s.store.setAt r i y } := by
    rw [call, Code.evaluate_call first set (Nat.le_add_left 1 m) args]
    exact Eval.bind_of_ok (Eval.setElement_of_inside (by omega) room close y)
  refine ⟨_, works, inside, h.arrays (s.store.tends_setAt rfl i y) rfl, ?_⟩
  -- the rounds before have filled the array up to the index
  have within : i < (W.start.store.elements a).reverse.size := by
    rw [Array.size_reverse]
    omega
  have taken : ((W.start.store.elements a).reverse.extract 0 i).size = i := by
    simp
    omega
  have filled := Setting.set!_append_replicate ((W.start.store.elements a).reverse.extract 0 i) d
    Value.null y
  rw [taken] at filled
  rw [Store.elements_setAt, if_pos rfl, elements, filled,
    Array.extract_succ_right (Nat.succ_pos i) within,
    Option.some.inj ((Array.getElem?_eq_getElem within).symm.trans next)]

/-- The loop ends once all elements have been put into the new array. -/
theorem turn (new : ¬W.start.store.HasArray r) (d : Nat) (s : Session) (left : Left W a r d s) :
    (Eval.evaluate (m + 3) l.condition s = .ok (.bool false) s ∧ Left W a r 0 s) ∨
      ∃ d' v t, d = d' + 1 ∧ Eval.evaluate (m + 3) l.condition s = .ok (.bool true) s ∧
        Eval.evaluate (m + 3) (.block [l.work, l.count]) s = .ok v t ∧ Left W a r d' t := by
  obtain ⟨i, all, frame, h, elements⟩ := left
  have small := L.small
  have index : (Code.name "i").Has reverseScopes 1 s (.number (Float.ofNat i)) :=
    ((h.knows (by simp [reverseVars]) rfl).here frame).has
  have number : (Code.name "n").Has reverseScopes 1 s
      (.number (Float.ofNat (W.start.store.elements a).size)) :=
    ((h.knows (by simp [reverseVars]) rfl).here frame).has
  have compared := index.less number (by omega) small l.condition (m + 3)
    (L.layout.condition.mono h.recalls) (Nat.le_add_left 2 (m + 1))
  rw [compared]
  cases d with
  | zero => exact .inl ⟨by simp [← all], i, all, frame, h, elements⟩
  | succ d =>
    obtain ⟨entered, inside⟩ := h.enter (.block [l.work, l.count])
    obtain ⟨t, works, inside, after, elements⟩ := L.sets new all entered inside elements
    let u := t.replace W.block "i" (.number (Float.ofNat (i + 1)))
    obtain ⟨counts, next⟩ : Eval.evaluate (m + 2) l.count t = .ok _ u ∧
        W.Holds (· = r) (reverseVars (i + 1) r (W.start.store.elements a).size) u :=
      after.counts L.layout.count rfl inside List.mem_cons_self (by omega)
        (show 2 ≤ m + 1 by have := L.enough; omega) (by simp [reverseVars])
    exact .inr ⟨d, _, _, rfl, by simp [← all], Workshop.Holds.round frame works counts, i + 1,
      by omega, rfl, next.inFrame W.block, elements⟩

/-- The loop puts all elements into the new array. -/
theorem runs (new : ¬W.start.store.HasArray r) {s : Session}
    (left : Left W a r (W.start.store.elements a).size s) :
    ∃ v t, Eval.evaluate (m + 4) (.loopWhile l.keyword l.condition (.block [l.work, l.count])) s =
        .ok v t ∧ t.frame = W.block ∧
      W.Holds (· = r) (reverseVars (W.start.store.elements a).size r
        (W.start.store.elements a).size) t ∧
      t.store.elements r = (W.start.store.elements a).reverse := by
  have enough : (W.start.store.elements a).size < m + 3 := by
    have := L.enough
    omega
  obtain ⟨v, t, ends, i, all, frame, h, filled⟩ :=
    Eval.exists_loopWhile (L.turn new) enough left
  obtain rfl : i = (W.start.store.elements a).size := all
  refine ⟨v, t, ends, frame, h, ?_⟩
  rw [filled]
  simp

/-! ### The body -/

/-- The members of the body come to a new array, if there is memory for it. -/
theorem answers (room : (W.start.store.elements a).size ≤ W.start.memory) :
    ∃ r w, Eval.last (Eval.evaluate (m + 4)) .null l.members W.base = .ok (.array r) w ∧
      ¬W.start.store.HasArray r ∧ w.store.HasArray r ∧
      w.store.elements r = (W.start.store.elements a).reverse ∧
      W.start.Tends .none { w with frame := W.start.frame } := by
  obtain ⟨t, first, frame, h⟩ := L.finds_length
  obtain ⟨x, made⟩ := L.makes frame h
  rw [if_pos room] at made
  let vs := Array.replicate (W.start.store.elements a).size Value.null
  let r := (t.store.newArray vs).1
  let u : Session := { t with store := (t.store.newArray vs).2 }
  obtain ⟨fresh, there⟩ := t.store.newArray_isNew vs
  have new : ¬W.start.store.HasArray r := fun old =>
    fresh (Nat.lt_of_lt_of_le old (h.leaves (fun _ => nofun) W.block).store.arrays)
  have empty : u.store.elements r = vs := (t.store.elements_newArray _ _).trans (if_pos rfl)
  obtain ⟨v, w, second, third, arrays, left⟩ :=
    L.begins made frame ((h.arrays (t.store.tends_newArray _ vs) rfl).keep r) empty
  obtain ⟨_, z, fourth, back, h, elements⟩ := L.runs new left
  have retains := Eval.retains_evaluate (m + 4)
    (.loopWhile l.keyword l.condition (.block [l.work, l.count])) w
  rw [fourth] at retains
  have result : (Code.name "result").Has reverseScopes 1 z (.array r) :=
    ((h.knows (by simp [reverseVars]) rfl).here back).has
  have answer := result l.answer (m + 4) (L.layout.answer.mono h.recalls)
    (Nat.le_add_left 1 (m + 3))
  have kept : ∀ b, b = r → ¬W.start.store.HasArray b := by
    rintro _ rfl
    exact new
  refine ⟨r, z, ?_, new, retains.hasArray ?_, elements, h.leaves kept W.start.frame⟩
  · exact (Eval.bind_of_ok first).trans ((Eval.bind_of_ok second).trans
      ((Eval.bind_of_ok third).trans ((Eval.bind_of_ok fourth).trans (Eval.bind_of_ok answer))))
  · unfold Store.HasArray
    rw [arrays]
    exact there

/-- If there is none, they fail. -/
theorem fails (full : ¬(W.start.store.elements a).size ≤ W.start.memory) :
    ∃ (x : Token) (t : Session), Eval.last (Eval.evaluate (m + 4)) .null l.members W.base =
        .error (.failed (.runtime x.location
          (.builtin (.outOfMemory (Float.ofNat (W.start.store.elements a).size))))) t ∧
      W.start.Tends .none { t with frame := W.start.frame } := by
  obtain ⟨t, first, frame, h⟩ := L.finds_length
  obtain ⟨x, made⟩ := L.makes frame h
  rw [if_neg full] at made
  refine ⟨x, t, ?_, h.leaves (fun _ => nofun) W.start.frame⟩
  exact (Eval.bind_of_ok first).trans (Eval.bind_of_error (Eval.bind_of_error made))

end Reversing

end Library

namespace Session

variable {s : Session} {c : Value} {a : ArrayId} {m : Nat}

/-- What a call of `reverse` comes to. -/
theorem reverses (sound : s.Sound) (root : s.store.HasFrame Store.root)
    (h : s.Bundles reverseCode c) (natives : s.HasBuiltins [.len, .newArray, .set])
    (ha : s.store.HasArray a) (small : (s.store.elements a).size < 2 ^ 53)
    (enough : (s.store.elements a).size + 4 ≤ m) (close : Token) :
    s.Reverses a (Eval.invoke (Eval.evaluate (m + 5)) close c [.array a] s) := by
  obtain ⟨W, e, rfl, bound, frame, -, place, leaves⟩ :=
    h.opens sound root (by simp) rfl close (show _ = [Value.array a].length from rfl) (by decide)
  obtain ⟨l, same, layout⟩ := exists_reverse_layout place
  obtain rfl := Expr.block.inj same
  have L : Reversing W a m l :=
    ⟨bound ▸ List.mem_cons_self, ha, small, enough, natives, frame, layout⟩
  unfold Reverses
  split
  case isTrue room =>
    obtain ⟨r, t, members, new, there, elements, tends⟩ := L.answers room
    exact ⟨r, _, leaves (m + 4) _ members fun _ _ => nofun, tends, rfl, new, there, elements⟩
  case isFalse full =>
    obtain ⟨x, t, members, tends⟩ := L.fails full
    exact ⟨x, _, tends, rfl, leaves (m + 4) _ members fun _ _ => nofun⟩

end Session

end FoxScript
