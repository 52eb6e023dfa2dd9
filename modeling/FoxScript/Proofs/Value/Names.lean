import FoxScript.Proofs.Value.Store
import FoxScript.Value.Element
import Mathlib.Data.Nat.Find
import Mathlib.Tactic.ByContra

/-!
# Names in a tree of frames

A name can be searched for, from a frame outward, or it can be looked for in the frame that lies a
known number of parents away. The two agree for the least number of parents after which the name is
bound: a search ends there because parents are older than their children, in every tree that is built
frame by frame.

## Main definitions

* `Store.Change`, `Store.perform`: what is done to a tree of frames, and what becomes of the store.
* `Store.Built`: the trees that changes lead to.
* `Store.Nearest`: the first frame that binds a name.
* `Store.Rebinds`: one binding of one frame has a new value.

## Main statements

* `Store.Built.aging`: parents are older than their children.
* `Store.Aging.find_eq_ok_iff`: a search finds the first frame that binds the name.
* `Store.Nearest.findAt`: so does the number of parents that lead to it.
* `Store.Built.search_agrees_with_address`: searches, look-ups by a number of parents, and what
  both of them change.
-/
namespace FoxScript

namespace Store

/-! ### Trees of frames -/

/-- Something that is done to frames and arrays. -/
inductive Change
  /-- A frame is made inside another. -/
  | branch (origin : Origin) (f : FrameId)
  /-- An array is made. -/
  | newArray (vs : Array Value)
  /-- A function is made. -/
  | newFunction
  /-- A name is bound in a frame. -/
  | define (f : FrameId) (name : String) (v : Value)
  /-- A name that is searched for gets a new value. -/
  | assign (f : FrameId) (name : String) (v : Value)
  /-- A name of the frame so many parents away gets a new value. -/
  | assignAt (f : FrameId) (hops : Nat) (name : String) (v : Value)
  /-- An element is replaced in the array of a name that is searched for. -/
  | assignElement (f : FrameId) (name : String) (index v : Value)
  /-- An element is replaced in the array of a name of the frame so many parents away. -/
  | assignElementAt (f : FrameId) (hops : Nat) (name : String) (index v : Value)

/-- New frames are made inside frames that are there. -/
def Change.Fits (s : Store) : Change → Prop
  | .branch _ f => s.HasFrame f
  | _ => True

/-- The store that an operation gives. If it fails, there is no other than the one before. -/
def settled (s : Store) : Except ElementFailure Store → EStateM.Result ElementFailure Store Unit
  | .ok t => .ok () t
  | .error e => .error e s

/-- What a change comes to. -/
def perform (s : Store) : Change → EStateM.Result ElementFailure Store Unit
  | .branch origin f => .ok () (s.branch origin f).2
  | .newArray vs => .ok () (s.newArray vs).2
  | .newFunction => .ok () s.newFunction.2
  | .define f name v => .ok () (s.define f name v)
  | .assign f name v => s.settled ((s.assign f name v).mapError .fault)
  | .assignAt f hops name v => s.settled ((s.assignAt f hops name v).mapError .fault)
  | .assignElement f name index v => s.settled (s.assignElement f name index v)
  | .assignElementAt f hops name index v => s.settled (s.assignElementAt f hops name index v)

/-- The store after a change, whether it has failed or not. -/
def after (s : Store) (c : Change) : Store :=
  match s.perform c with
  | .ok _ t | .error _ t => t

/-- Changes lead to the store, from one frame without names on. -/
inductive Built : Store → Prop
  /-- Nothing has been done. -/
  | empty : Built .empty
  /-- One more change is made. -/
  | change {s : Store} (h : Built s) {c : Change} (fits : c.Fits s) : Built (s.after c)

variable {s t : Store} {f g : FrameId} {name : String} {v : Value} {c : Change} {h : Nat}

/-! ### What a change leaves -/

/-- A change that fails leaves the store as it is. -/
theorem eq_of_perform_error {e : ElementFailure} (fails : s.perform c = .error e t) : t = s := by
  have settled {r : Except ElementFailure Store} (fails : s.settled r = .error e t) : t = s := by
    cases r with
    | ok => cases fails
    | error => cases fails; rfl
  cases c with
  | branch | newArray | newFunction | define => cases fails
  | assign | assignAt | assignElement | assignElementAt => exact settled fails

/-- The replacement of an element changes no frame. -/
theorem frames_of_setElement {target index : Value} (ok : s.setElement target index v = .ok t) :
    t.frames = s.frames := by
  rw [setElement] at ok
  cases place : s.elementPlace target index with
  | error => rw [place] at ok; cases ok
  | ok => rw [place] at ok; cases ok; rfl

theorem frames_of_assignElement {index : Value}
    (ok : s.assignElement f name index v = .ok t) : t.frames = s.frames := by
  rw [assignElement] at ok
  split at ok
  · exact frames_of_setElement ok
  · cases ok

theorem frames_of_assignElementAt {index : Value}
    (ok : s.assignElementAt f h name index v = .ok t) : t.frames = s.frames := by
  rw [assignElementAt] at ok
  split at ok
  · exact frames_of_setElement ok
  · cases ok

/-- After a change there is one frame more, or there are the same frames with other names. -/
theorem after_frames (s : Store) (c : Change) :
    (∃ origin f, c = .branch origin f ∧ s.after c = (s.branch origin f).2) ∨
      s.SameTree (s.after c) := by
  have settled {r : Except ElementFailure Store} (same : ∀ t, r = .ok t → s.SameTree t) :
      s.SameTree (match s.settled r with | .ok _ t | .error _ t => t) := by
    cases r with
    | ok t => exact same t rfl
    | error => exact .refl s
  have replaced {r : Except Fault FrameId} {name : String} {v : Value} : ∀ t,
      ((r.map fun g => s.replace g name v).mapError .fault : Except ElementFailure Store) = .ok t →
        s.SameTree t := by
    intro t ok
    cases r with
    | ok g => cases ok; exact s.sameTree_replace g name v
    | error => cases ok
  cases c with
  | branch origin f => exact .inl ⟨origin, f, rfl, rfl⟩
  | newArray | newFunction => exact .inr (sameTree_of_frames_eq rfl)
  | define f name v => exact .inr (s.sameTree_define f name v)
  | assign | assignAt => exact .inr (settled replaced)
  | assignElement =>
    exact .inr (settled fun _ ok => sameTree_of_frames_eq (frames_of_assignElement ok))
  | assignElementAt =>
    exact .inr (settled fun _ ok => sameTree_of_frames_eq (frames_of_assignElementAt ok))

/-- Parents are older than their children. -/
def Aging (s : Store) : Prop := ∀ f g, s.parent? f = some g → g.index < f.index

/-- So they are in each tree that changes lead to. -/
theorem Built.aging (built : s.Built) : s.Aging := by
  induction built with
  | empty =>
    intro f g around
    rw [parent?_empty] at around
    cases around
  | @change s _ c fits ih =>
    intro f g around
    rcases s.after_frames c with ⟨origin, p, rfl, made⟩ | same
    · rw [made, parent?_branch_eq] at around
      split at around
      · rename_i new
        cases around
        rw [new]
        exact fits
      · exact ih f g around
    · rw [same.parent] at around
      exact ih f g around

/-! ### The first frame that binds a name -/

/-- The frame that lies `h` parents away binds the name, and no frame on the way there does. -/
structure Nearest (s : Store) (f : FrameId) (name : String) (h : Nat) (g : FrameId) : Prop where
  /-- It lies there. -/
  ancestor : s.ancestor? f h = some g
  /-- It binds the name. -/
  bound : (s.lookup? g name).isSome
  /-- The frames before do not. -/
  least : ∀ k < h, ∀ g', s.ancestor? f k = some g' → s.lookup? g' name = none

/-- No frame binds the name, from a frame outward. -/
def Unbound (s : Store) (f : FrameId) (name : String) : Prop :=
  ∀ h g, s.ancestor? f h = some g → s.lookup? g name = none

theorem ancestor?_succ {p : FrameId} (around : s.parent? f = some p) (n : Nat) :
    s.ancestor? f (n + 1) = s.ancestor? p n := by
  simp [ancestor?, around]

theorem Nearest.outward {p : FrameId} (near : s.Nearest f name (h + 1) g)
    (around : s.parent? f = some p) : s.Nearest p name h g where
  ancestor := (ancestor?_succ around h).symm.trans near.ancestor
  bound := near.bound
  least k lt g' found :=
    near.least (k + 1) (Nat.succ_lt_succ lt) g' ((ancestor?_succ around k).trans found)

theorem nearest_or_unbound (s : Store) (f : FrameId) (name : String) :
    (∃ h g, s.Nearest f name h g) ∨ s.Unbound f name := by
  classical
  by_cases bound : ∃ h g, s.ancestor? f h = some g ∧ (s.lookup? g name).isSome
  · obtain ⟨g, ancestor, binds⟩ := Nat.find_spec bound
    refine .inl ⟨Nat.find bound, g, ancestor, binds, fun k lt g' found => ?_⟩
    by_contra other
    exact Nat.find_min bound lt ⟨g', found, Option.isSome_iff_ne_none.2 other⟩
  · refine .inr fun h g found => ?_
    by_contra other
    exact bound ⟨h, g, found, Option.isSome_iff_ne_none.2 other⟩

/-- There is one such frame, at one distance. -/
theorem Nearest.unique {k : Nat} {g' : FrameId} (near : s.Nearest f name h g)
    (near' : s.Nearest f name k g') : h = k ∧ g = g' := by
  have not_before {h k : Nat} {g g' : FrameId} (near : s.Nearest f name h g)
      (near' : s.Nearest f name k g') : ¬h < k := by
    intro lt
    have none := near'.least h lt g near.ancestor
    have bound := near.bound
    simp [none] at bound
  have le := Nat.le_of_not_lt (not_before near' near)
  obtain rfl : h = k := Nat.le_antisymm le (Nat.le_of_not_lt (not_before near near'))
  exact ⟨rfl, Option.some.inj (near.ancestor.symm.trans near'.ancestor)⟩

theorem Unbound.not_nearest (free : s.Unbound f name) (near : s.Nearest f name h g) : False := by
  have bound := near.bound
  simp [free h g near.ancestor] at bound

/-! ### Searches -/

/-- A search with a bound finds the first frame with the name, if it is not older than the bound
says. -/
theorem Aging.ownerFrom?_of_nearest (aging : s.Aging) (near : s.Nearest f name h g) {n : Nat}
    (lt : f.index < n) : s.ownerFrom? name n f = some g := by
  induction n generalizing f h with
  | zero => cases lt
  | succ n ih =>
    rw [ownerFrom?]
    cases h with
    | zero =>
      cases near.ancestor
      exact if_pos near.bound
    | succ h =>
      have here : s.lookup? f name = none := near.least 0 (Nat.succ_pos h) f rfl
      rw [if_neg (by simp [here])]
      have found := near.ancestor
      cases around : s.parent? f with
      | none => simp [ancestor?, around] at found
      | some p =>
        have older := aging f p around
        exact ih (near.outward around) (Nat.lt_of_lt_of_le older (Nat.le_of_lt_succ lt))

theorem Unbound.ownerFrom? (free : s.Unbound f name) (n : Nat) : s.ownerFrom? name n f = none := by
  induction n generalizing f with
  | zero => rfl
  | succ n ih =>
    have here : s.lookup? f name = none := free 0 f rfl
    rw [Store.ownerFrom?, if_neg (by simp [here])]
    cases around : s.parent? f with
    | none => rfl
    | some p => exact ih fun h g found => free (h + 1) g ((ancestor?_succ around h).trans found)

theorem Aging.find_of_nearest (aging : s.Aging) (near : s.Nearest f name h g) :
    s.find f name = .ok g := by
  rw [find, owner?, aging.ownerFrom?_of_nearest near (Nat.lt_succ_self _)]

theorem Unbound.find (free : s.Unbound f name) :
    s.find f name = .error (.undefinedVariable name) := by
  rw [Store.find, owner?, free.ownerFrom?]

/-- A search finds the first frame that binds the name. -/
theorem Aging.find_eq_ok_iff (aging : s.Aging) :
    s.find f name = .ok g ↔ ∃ h, s.Nearest f name h g := by
  constructor
  · intro found
    rcases s.nearest_or_unbound f name with ⟨h, g', near⟩ | free
    · rw [aging.find_of_nearest near] at found
      cases found
      exact ⟨h, near⟩
    · rw [free.find] at found
      cases found
  · rintro ⟨h, near⟩
    exact aging.find_of_nearest near

/-- The number of parents leads there too. -/
theorem Nearest.findAt (near : s.Nearest f name h g) : s.findAt f h name = .ok g := by
  simp [Store.findAt, near.ancestor, near.bound]

theorem findAt_eq_ok_iff :
    s.findAt f h name = .ok g ↔ s.ancestor? f h = some g ∧ (s.lookup? g name).isSome := by
  rw [findAt]
  cases s.ancestor? f h with
  | none => simp
  | some g' =>
    by_cases bound : (s.lookup? g' name).isSome
    · simp only [if_pos bound, Except.ok.injEq, Option.some.injEq]
      constructor
      · rintro rfl
        exact ⟨rfl, bound⟩
      · rintro ⟨same, -⟩
        exact same
    · simp only [if_neg bound, Option.some.injEq]
      constructor
      · intro same
        cases same
      · rintro ⟨rfl, bound'⟩
        exact absurd bound' bound

theorem findAt_eq_error_iff {e : Fault} : s.findAt f h name = .error e ↔
    e = .undefinedVariable name ∧ ∀ g, s.ancestor? f h = some g → s.lookup? g name = none := by
  constructor
  · intro fails
    refine ⟨findAt_eq_error fails, fun g found => ?_⟩
    by_contra other
    have ok := findAt_eq_ok_iff.2 ⟨found, Option.isSome_iff_ne_none.2 other⟩
    rw [fails] at ok
    cases ok
  · rintro ⟨rfl, free⟩
    cases result : s.findAt f h name with
    | ok g =>
      obtain ⟨found, bound⟩ := findAt_eq_ok_iff.1 result
      simp [free g found] at bound
    | error e => rw [findAt_eq_error result]

/-! ### New values -/

/-- Between the two stores one binding has got a new value: that of the name in the frame `g`. -/
structure Rebinds (s : Store) (g : FrameId) (name : String) (v : Value) (t : Store) : Prop where
  /-- The frame binds the name. -/
  bound : (s.lookup? g name).isSome
  /-- The frames are the same, in the same places. -/
  tree : s.SameTree t
  /-- So are the arrays. -/
  arrays : t.arrays = s.arrays
  /-- No function is made. -/
  functions : t.functions = s.functions
  /-- All other bindings of all frames stay. -/
  lookup : ∀ g' x, t.lookup? g' x = if g' = g ∧ x = name then some v else s.lookup? g' x

theorem rebinds_replace (bound : (s.lookup? g name).isSome) (v : Value) :
    s.Rebinds g name v (s.replace g name v) where
  bound := bound
  tree := s.sameTree_replace g name v
  arrays := rfl
  functions := rfl
  lookup g' x := by
    rw [lookup?_replace]
    simp [bound]

namespace Rebinds

variable (rebinds : s.Rebinds g name v t)

include rebinds

theorem aging (aging : s.Aging) : t.Aging := by
  intro f p around
  rw [rebinds.tree.parent] at around
  exact aging f p around

/-- The same names are bound. -/
theorem isSome_lookup (g' : FrameId) (x : String) :
    (t.lookup? g' x).isSome = (s.lookup? g' x).isSome := by
  rw [rebinds.lookup]
  split
  · rename_i here
    obtain ⟨rfl, rfl⟩ := here
    rw [rebinds.bound]
    rfl
  · rfl

theorem nearest_iff {x : String} {g' : FrameId} : t.Nearest f x h g' ↔ s.Nearest f x h g' := by
  have ancestor (k : Nat) : t.ancestor? f k = s.ancestor? f k :=
    ancestor?_congr rebinds.tree.parent f k
  have none (g' : FrameId) : t.lookup? g' x = none ↔ s.lookup? g' x = none := by
    rw [← Option.isNone_iff_eq_none, ← Option.isNone_iff_eq_none, ← Option.not_isSome,
      ← Option.not_isSome, rebinds.isSome_lookup]
  constructor
  · rintro ⟨found, bound, least⟩
    refine ⟨(ancestor h).symm.trans found, (rebinds.isSome_lookup g' x).symm.trans bound, ?_⟩
    exact fun k lt g'' found => (none g'').1 (least k lt g'' ((ancestor k).trans found))
  · rintro ⟨found, bound, least⟩
    refine ⟨(ancestor h).trans found, (rebinds.isSome_lookup g' x).trans bound, ?_⟩
    exact fun k lt g'' found => (none g'').2 (least k lt g'' ((ancestor k).symm.trans found))

end Rebinds

theorem assign_eq_ok_iff : s.assign f name v = .ok t ↔
    ∃ g, s.find f name = .ok g ∧ t = s.replace g name v := by
  rw [assign]
  cases s.find f name with
  | ok g => simp [Except.map, eq_comm]
  | error => simp [Except.map]

theorem assignAt_eq_ok_iff : s.assignAt f h name v = .ok t ↔
    ∃ g, s.findAt f h name = .ok g ∧ t = s.replace g name v := by
  rw [assignAt]
  cases s.findAt f h name with
  | ok g => simp [Except.map, eq_comm]
  | error => simp [Except.map]

theorem get_of_find (found : s.find f name = .ok g) : s.get f name = .ok (s.valueIn name g) := by
  rw [get, found]
  rfl

theorem valueIn_of_lookup? (found : s.lookup? g name = some v) : s.valueIn name g = v := by
  rw [valueIn, found]
  rfl

/-- A search gives the value that the first frame with the name has for it. -/
theorem Aging.get_of_nearest (aging : s.Aging) (near : s.Nearest f name h g)
    (found : s.lookup? g name = some v) : s.get f name = .ok v := by
  rw [get_of_find (aging.find_of_nearest near), valueIn_of_lookup? found]

namespace Rebinds

variable (rebinds : s.Rebinds g name v t) (aging : s.Aging)

include rebinds aging

/-- The new value is seen from each frame whose search ends in the frame. -/
theorem get_of_nearest {k : Nat} {f : FrameId} (near : s.Nearest f name k g) :
    t.get f name = .ok v := by
  refine (rebinds.aging aging).get_of_nearest (rebinds.nearest_iff.2 near) ?_
  rw [rebinds.lookup, if_pos ⟨rfl, rfl⟩]

/-- It is seen in no other search. -/
theorem get_of_hidden {x : String} {f : FrameId} (hidden : x = name → ∀ k, ¬s.Nearest f name k g) :
    t.get f x = s.get f x := by
  rcases s.nearest_or_unbound f x with ⟨k, g', near⟩ | free
  · have apart : ¬(g' = g ∧ x = name) := by
      rintro ⟨rfl, rfl⟩
      exact hidden rfl k near
    have found : t.find f x = .ok g' :=
      (rebinds.aging aging).find_of_nearest (rebinds.nearest_iff.2 near)
    rw [get_of_find found, get_of_find (aging.find_of_nearest near), valueIn, valueIn, rebinds.lookup,
      if_neg apart]
  · have free' : t.Unbound f x := by
      rcases t.nearest_or_unbound f x with ⟨k, g', near⟩ | free'
      · exact (free.not_nearest (rebinds.nearest_iff.1 near)).elim
      · exact free'
    rw [get, get, free.find, free'.find]
    rfl

omit aging in
/-- A look-up by a number of parents sees it just if it looks into the frame. -/
theorem getAt_eq {x : String} {f : FrameId} {k : Nat} :
    t.getAt f k x = if s.ancestor? f k = some g ∧ x = name then .ok v else s.getAt f k x := by
  have found : t.findAt f k x = s.findAt f k x := by
    rw [findAt, findAt, ancestor?_congr rebinds.tree.parent]
    split
    · rename_i g' _
      rw [rebinds.isSome_lookup]
    · rfl
  rw [getAt, found, getAt]
  cases result : s.findAt f k x with
  | ok g' =>
    obtain ⟨ancestor, -⟩ := findAt_eq_ok_iff.1 result
    have same : (s.ancestor? f k = some g ∧ x = name) ↔ (g' = g ∧ x = name) := by
      rw [ancestor, Option.some.injEq]
    simp only [same, Except.map, valueIn, rebinds.lookup]
    split <;> rfl
  | error e =>
    rw [if_neg]
    · rfl
    · rintro ⟨ancestor, rfl⟩
      have none := (findAt_eq_error_iff.1 result).2 g ancestor
      have bound := rebinds.bound
      simp [none] at bound

end Rebinds

/-! ### What both ways come to -/

/-- What holds of a name where the frame that lies `h` parents away is the first to bind it: all that
searches for it is the same as what goes so many parents away. -/
structure Agrees (s : Store) (f : FrameId) (name : String) (h : Nat) : Prop where
  /-- The value is the same. -/
  get : s.get f name = s.getAt f h name
  /-- So is what becomes of it. -/
  assign : ∀ v, s.assign f name v = s.assignAt f h name v
  /-- So is what becomes of the elements of its array. -/
  assignElement : ∀ index v, s.assignElement f name index v = s.assignElementAt f h name index v

theorem Aging.agrees (aging : s.Aging) (near : s.Nearest f name h g) : s.Agrees f name h := by
  have found : s.find f name = s.findAt f h name :=
    (aging.find_of_nearest near).trans near.findAt.symm
  have value : s.get f name = s.getAt f h name := by rw [get, getAt, found]
  refine ⟨value, fun v => ?_, fun index v => ?_⟩
  · rw [assign, assignAt, found]
  · rw [assignElement, assignElementAt, value]

/-- Nothing that searches for a name succeeds where no frame binds it. -/
structure Misses (s : Store) (f : FrameId) (name : String) : Prop where
  /-- There is no value. -/
  get : s.get f name = .error (.undefinedVariable name)
  /-- None can be given. -/
  assign : ∀ v, s.assign f name v = .error (.undefinedVariable name)
  /-- There is no array. -/
  assignElement : ∀ index v,
    s.assignElement f name index v = .error (.fault (.undefinedVariable name))

theorem Unbound.misses (free : s.Unbound f name) : s.Misses f name := by
  have value : s.get f name = .error (.undefinedVariable name) := by
    rw [get, free.find]
    rfl
  refine ⟨value, fun v => ?_, fun index v => ?_⟩
  · rw [assign, free.find]
    rfl
  · rw [assignElement, value]

theorem getAt_eq_error_iff {e : Fault} : s.getAt f h name = .error e ↔
    e = .undefinedVariable name ∧ ∀ g, s.ancestor? f h = some g → s.lookup? g name = none := by
  rw [← findAt_eq_error_iff, getAt]
  cases s.findAt f h name <;> simp [Except.map]

theorem assignAt_eq_error_iff {e : Fault} : s.assignAt f h name v = .error e ↔
    e = .undefinedVariable name ∧ ∀ g, s.ancestor? f h = some g → s.lookup? g name = none := by
  rw [← findAt_eq_error_iff, assignAt]
  cases s.findAt f h name <;> simp [Except.map]

/-- In each tree that is built by changes, what searches for a name agrees with what goes just as
many parents away as there are to the first frame that binds it, and fails if there is none. A new
value is given to one binding of one frame: it is seen from all frames whose search ends there, and
from no others. The replacement of an element gives none. What goes some number of parents away fails
just if there is no frame or if it does not bind the name itself, and whatever fails leaves all as it
was. -/
theorem Built.search_agrees_with_address (built : s.Built) :
    (∀ f name h g, s.Nearest f name h g → s.Agrees f name h) ∧
    (∀ f name, s.Unbound f name → s.Misses f name) ∧
    (∀ f name v t, s.assign f name v = .ok t →
      ∃ h g, s.Nearest f name h g ∧ s.Rebinds g name v t) ∧
    (∀ f h name v t, s.assignAt f h name v = .ok t →
      ∃ g, s.ancestor? f h = some g ∧ s.Rebinds g name v t) ∧
    (∀ g name v t, s.Rebinds g name v t →
      (∀ f k, s.Nearest f name k g → t.get f name = .ok v) ∧
      (∀ f x, (x = name → ∀ k, ¬s.Nearest f name k g) → t.get f x = s.get f x) ∧
      ∀ f k x, t.getAt f k x =
        if s.ancestor? f k = some g ∧ x = name then .ok v else s.getAt f k x) ∧
    (∀ f name index v t, s.assignElement f name index v = .ok t → t.frames = s.frames) ∧
    (∀ f h name index v t, s.assignElementAt f h name index v = .ok t → t.frames = s.frames) ∧
    (∀ f h name e, s.getAt f h name = .error e ↔ e = .undefinedVariable name ∧
      ∀ g, s.ancestor? f h = some g → s.lookup? g name = none) ∧
    (∀ f h name v e, s.assignAt f h name v = .error e ↔ e = .undefinedVariable name ∧
      ∀ g, s.ancestor? f h = some g → s.lookup? g name = none) ∧
    ∀ c e t, s.perform c = .error e t → t = s := by
  have aging := built.aging
  refine ⟨fun f name h g near => aging.agrees near, fun f name free => free.misses, ?_, ?_,
    fun g name v t rebinds => ⟨fun f k near => rebinds.get_of_nearest aging near,
      fun f x hidden => rebinds.get_of_hidden aging hidden, fun f k x => rebinds.getAt_eq⟩,
    fun f name index v t ok => frames_of_assignElement ok,
    fun f h name index v t ok => frames_of_assignElementAt ok, fun f h name e => getAt_eq_error_iff,
    fun f h name v e => assignAt_eq_error_iff, fun c e t fails => eq_of_perform_error fails⟩
  · intro f name v t ok
    obtain ⟨g, found, rfl⟩ := assign_eq_ok_iff.1 ok
    obtain ⟨h, near⟩ := aging.find_eq_ok_iff.1 found
    exact ⟨h, g, near, rebinds_replace near.bound v⟩
  · intro f h name v t ok
    obtain ⟨g, found, rfl⟩ := assignAt_eq_ok_iff.1 ok
    obtain ⟨ancestor, bound⟩ := findAt_eq_ok_iff.1 found
    exact ⟨g, ancestor, rebinds_replace bound v⟩

/-- A frame inside another one, in which `x` is bound and `y` is not. -/
theorem search_agrees_from_an_inner_frame :
    ∃ s t : Store, s.Built ∧ s.Nearest ⟨1⟩ "x" 1 root ∧ s.Agrees ⟨1⟩ "x" 1 ∧
      s.getAt ⟨1⟩ 1 "x" = .ok (.bool true) ∧ s.assign ⟨1⟩ "x" .null = .ok t ∧
      t.get root "x" = .ok .null ∧ s.Unbound ⟨1⟩ "y" ∧ s.Misses ⟨1⟩ "y" := by
  let s : Store := ((Store.empty.define root "x" (.bool true)).branch (.block []) root).2
  have built : s.Built :=
    .change (.change .empty (c := .define root "x" (.bool true)) trivial)
      (c := .branch (.block []) root) Nat.zero_lt_one
  have near : s.Nearest ⟨1⟩ "x" 1 root := by
    refine ⟨rfl, rfl, fun k lt g found => ?_⟩
    obtain rfl := Nat.lt_one_iff.1 lt
    cases found
    rfl
  have free : s.Unbound ⟨1⟩ "y" := fun h g _ => by
    have bound : (Store.empty.define root "x" (.bool true)).lookup? g "y" = none := by
      rw [lookup?_define_of_ne _ fun same => absurd same.2 (by decide), lookup?_empty]
    exact (lookup?_branch _ _ _ g "y").trans bound
  obtain ⟨agrees, misses, assigns, -, sees, -⟩ := built.search_agrees_with_address
  have done : s.assign ⟨1⟩ "x" .null = .ok (s.replace root "x" .null) := rfl
  obtain ⟨h, g, near', rebinds⟩ := assigns _ _ _ _ done
  obtain ⟨rfl, rfl⟩ := near.unique near'
  have outer : s.Nearest root "x" 0 root := ⟨rfl, rfl, fun k lt => absurd lt (Nat.not_lt_zero k)⟩
  exact ⟨s, _, built, near, agrees _ _ _ _ near, rfl, done,
    (sees _ _ _ _ rebinds).1 root 0 outer, free, misses _ _ free⟩

end Store

end FoxScript
