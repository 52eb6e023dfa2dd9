import FoxScript.Proofs.Session.Arrays
import FoxScript.Proofs.Session.Discipline.Steps

/-!
# Frames and arrays that cannot be reached

An evaluation can only get at frames and arrays to which it is led: by its own frame and those around
it, by the frame of global names, by the values that are bound there, by the elements of arrays that
it gets at. Frames and arrays to which nothing leads are left as they are, whatever is evaluated, and
nothing leads to them afterwards.

## Main definitions

* `Secret`: frames and arrays that are to be kept apart.
* `Value.Open`: a value that does not lead to a secret.
* `Store.Secludes`: nothing that is open leads to a secret.
* `Store.Spares`: what is secret stays as it is.
* `Store.Tends`: what is no secret stays as it is.
* `Secret.since`: all that is new is a secret, too.

## Main statements

* `Store.Secludes.modifyFrame`, `Store.Secludes.newArray`, `Store.Secludes.setAt`: changes of what is
  open spare the secrets.
* `Store.Secludes.tends`: changes of the secrets keep them apart, with all that they add.
-/
namespace FoxScript

/-! ### Secrets -/

/-- Frames and arrays that are kept apart. -/
structure Secret where
  /-- The frames. -/
  frames : FrameId → Prop
  /-- The arrays. -/
  arrays : ArrayId → Prop

namespace Secret

/-- Nothing is kept apart. -/
def none : Secret := ⟨fun _ => False, fun _ => False⟩

end Secret

namespace Store

/-- The frame is there, and no secret. -/
def OpenFrame (σ : Secret) (s : Store) (f : FrameId) : Prop := s.HasFrame f ∧ ¬σ.frames f

/-- The array is there, and no secret. -/
def OpenArray (σ : Secret) (s : Store) (a : ArrayId) : Prop := s.HasArray a ∧ ¬σ.arrays a

end Store

/-- What the value leads to is there, and no secret. -/
def Value.Open (σ : Secret) (s : Store) : Value → Prop
  | .array a => s.OpenArray σ a
  | .function (.closure _ _ _ _ f) => s.OpenFrame σ f
  | _ => True

namespace Store

/-- What is no secret leads to no secret. -/
structure Secludes (σ : Secret) (s : Store) : Prop where
  /-- The frame of global names is there, and no secret. -/
  root : s.OpenFrame σ root
  /-- The frames around open frames are open. -/
  parents : ∀ f g, ¬σ.frames f → s.parent? f = some g → s.OpenFrame σ g
  /-- What open frames hold is open. -/
  values : ∀ f x v, ¬σ.frames f → s.lookup? f x = some v → v.Open σ s
  /-- The elements of open arrays are open. -/
  elements : ∀ a, ∀ v ∈ s.elements a, ¬σ.arrays a → v.Open σ s
  /-- The frames that are kept apart are there. -/
  frames : ∀ f, σ.frames f → s.HasFrame f
  /-- The arrays that are kept apart are there. -/
  arrays : ∀ a, σ.arrays a → s.HasArray a

/-- What was secret in `s` is in `t` as it was, and nothing is lost. -/
structure Spares (σ : Secret) (s t : Store) : Prop where
  /-- No frame is lost. -/
  frames : s.frames.size ≤ t.frames.size
  /-- No array is lost. -/
  arrays : s.arrays.size ≤ t.arrays.size
  /-- Secret frames are as they were. -/
  frame : ∀ f, σ.frames f → t.frames[f.index]? = s.frames[f.index]?
  /-- Secret arrays are as they were. -/
  elements : ∀ a, σ.arrays a → t.elements a = s.elements a

variable {σ : Secret} {s t u : Store}

namespace Spares

theorem refl (σ : Secret) (s : Store) : s.Spares σ s :=
  ⟨Nat.le_refl _, Nat.le_refl _, fun _ _ => rfl, fun _ _ => rfl⟩

theorem trans (h : s.Spares σ t) (g : t.Spares σ u) : s.Spares σ u where
  frames := Nat.le_trans h.frames g.frames
  arrays := Nat.le_trans h.arrays g.arrays
  frame f secret := (g.frame f secret).trans (h.frame f secret)
  elements a secret := (g.elements a secret).trans (h.elements a secret)

theorem openFrame (h : s.Spares σ t) {f : FrameId} (hf : s.OpenFrame σ f) : t.OpenFrame σ f :=
  ⟨Nat.lt_of_lt_of_le hf.1 h.frames, hf.2⟩

theorem openArray (h : s.Spares σ t) {a : ArrayId} (ha : s.OpenArray σ a) : t.OpenArray σ a :=
  ⟨Nat.lt_of_lt_of_le ha.1 h.arrays, ha.2⟩

theorem lookup? (h : s.Spares σ t) {f : FrameId} (secret : σ.frames f) (x : String) :
    t.lookup? f x = s.lookup? f x := by
  rw [Store.lookup?, Store.lookup?, h.frame f secret]

theorem parent? (h : s.Spares σ t) {f : FrameId} (secret : σ.frames f) :
    t.parent? f = s.parent? f := by
  rw [Store.parent?, Store.parent?, h.frame f secret]

theorem «open» (h : s.Spares σ t) {v : Value} (hv : v.Open σ s) : v.Open σ t := by
  match v with
  | .array a => exact h.openArray hv
  | .function (.closure _ _ _ _ f) => exact h.openFrame hv
  | .function (.builtin _ _) | .null | .bool _ | .number _ | .text _ => trivial

end Spares

/-- Nothing changes that matters. -/
theorem Secludes.of_eq (h : s.Secludes σ) (frames : t.frames = s.frames)
    (arrays : t.arrays = s.arrays) : t.Secludes σ ∧ s.Spares σ t := by
  obtain ⟨tf, ta, tn⟩ := t
  obtain rfl : tf = s.frames := frames
  obtain rfl : ta = s.arrays := arrays
  exact ⟨⟨h.root, h.parents, h.values, h.elements, h.frames, h.arrays⟩,
    Nat.le_refl _, Nat.le_refl _, fun _ _ => rfl, fun _ _ => rfl⟩

/-- Frames around open frames, however far, are open. -/
theorem Secludes.openFrame_ancestor (h : s.Secludes σ) {n : Nat} {f g : FrameId}
    (hf : s.OpenFrame σ f) (found : s.ancestor? f n = some g) : s.OpenFrame σ g := by
  induction n generalizing f with
  | zero =>
    cases found
    exact hf
  | succ n ih =>
    obtain ⟨p, around, found⟩ := Option.bind_eq_some_iff.1 found
    exact ih (h.parents f p hf.2 around) found

/-! ### Changes of a store -/

/-- The bindings of an open frame change. -/
theorem Secludes.modifyFrame (h : s.Secludes σ) {f : FrameId} (hf : ¬σ.frames f)
    {change : Bindings → Bindings}
    (values : ∀ g x v, ¬σ.frames g → (s.modifyFrame f change).lookup? g x = some v →
      s.lookup? g x = some v ∨ v.Open σ s) :
    (s.modifyFrame f change).Secludes σ ∧ s.Spares σ (s.modifyFrame f change) := by
  have tree := s.sameTree_modifyFrame f change
  have spares : s.Spares σ (s.modifyFrame f change) := by
    refine ⟨Nat.le_of_eq tree.size.symm, Nat.le_refl _, fun g secret => ?_, fun _ _ => rfl⟩
    have other : f.index ≠ g.index := by
      intro same
      obtain ⟨i⟩ := f
      obtain ⟨j⟩ := g
      subst same
      exact hf secret
    simp [Store.modifyFrame, Array.getElem?_modify, other]
  refine ⟨⟨spares.openFrame h.root, fun g p open' around => ?_, fun g x v open' found => ?_,
    fun a v mem open' => spares.open (h.elements a v mem open'), fun g secret => ?_, h.arrays⟩,
    spares⟩
  · exact spares.openFrame (h.parents g p open' (tree.parent g ▸ around))
  · obtain old | new := values g x v open' found
    · exact spares.open (h.values g x v open' old)
    · exact spares.open new
  · exact Nat.lt_of_lt_of_le (h.frames g secret) spares.frames

theorem Secludes.define (h : s.Secludes σ) {f : FrameId} (hf : ¬σ.frames f) (x : String) {v : Value}
    (hv : v.Open σ s) : (s.define f x v).Secludes σ ∧ s.Spares σ (s.define f x v) := by
  refine h.modifyFrame hf fun g y w _ found => ?_
  obtain old | ⟨-, -, rfl⟩ := lookup?_define_eq_some found
  · exact .inl old
  · exact .inr hv

theorem Secludes.replace (h : s.Secludes σ) {f : FrameId} (hf : ¬σ.frames f) (x : String)
    {v : Value} (hv : v.Open σ s) :
    (s.replace f x v).Secludes σ ∧ s.Spares σ (s.replace f x v) := by
  refine h.modifyFrame hf fun g y w _ found => ?_
  obtain old | rfl := lookup?_replace_eq_some found
  · exact .inl old
  · exact .inr hv

/-- A frame is added inside an open one. -/
theorem Secludes.branch (h : s.Secludes σ) (origin : Origin) {f : FrameId}
    (hf : s.OpenFrame σ f) : (s.branch origin f).2.Secludes σ ∧ s.Spares σ (s.branch origin f).2 := by
  have spares : s.Spares σ (s.branch origin f).2 := by
    refine ⟨(s.extends_branch origin f).size, Nat.le_refl _, fun g secret => ?_, fun _ _ => rfl⟩
    have old : g.index ≠ s.frames.size := Nat.ne_of_lt (h.frames g secret)
    simp [Store.branch, Array.getElem?_push, old]
  refine ⟨⟨spares.openFrame h.root, fun g p open' around => ?_, fun g x v open' found => ?_,
    fun a v mem open' => spares.open (h.elements a v mem open'), fun g secret => ?_, h.arrays⟩,
    spares⟩
  · rw [parent?_branch_eq] at around
    split at around
    · obtain rfl := Option.some.inj around
      exact spares.openFrame hf
    · exact spares.openFrame (h.parents g p open' around)
  · rw [lookup?_branch] at found
    exact spares.open (h.values g x v open' found)
  · exact Nat.lt_of_lt_of_le (h.frames g secret) spares.frames

/-- The frame that was added is open. -/
theorem Secludes.openFrame_branch (h : s.Secludes σ) (origin : Origin) (f : FrameId) :
    (s.branch origin f).2.OpenFrame σ (s.branch origin f).1 :=
  ⟨s.hasFrame_branch origin f, fun secret => Nat.lt_irrefl _ (h.frames _ secret)⟩

/-- An array with open elements is added. -/
theorem Secludes.newArray (h : s.Secludes σ) {vs : Array Value} (hvs : ∀ v ∈ vs, v.Open σ s) :
    (s.newArray vs).2.Secludes σ ∧ s.Spares σ (s.newArray vs).2 ∧
      (s.newArray vs).2.OpenArray σ (s.newArray vs).1 := by
  have spares : s.Spares σ (s.newArray vs).2 :=
    ⟨Nat.le_refl _, (s.retains_newArray vs).size, fun _ _ => rfl,
      fun a secret => elements_newArray_of_hasArray (h.arrays a secret) vs⟩
  refine ⟨⟨spares.openFrame h.root, fun g p open' around => ?_, fun g x v open' found => ?_,
    fun a v mem open' => ?_, h.frames, fun a secret => ?_⟩, spares, ?_, fun secret => ?_⟩
  · exact spares.openFrame (h.parents g p open' around)
  · exact spares.open (h.values g x v open' found)
  · rw [elements_newArray] at mem
    split at mem
    · exact spares.open (hvs v mem)
    · exact spares.open (h.elements a v mem open')
  · exact Nat.lt_of_lt_of_le (h.arrays a secret) spares.arrays
  · simp [HasArray, Store.newArray]
  · exact Nat.lt_irrefl _ (h.arrays _ secret)

/-- An element of an open array is replaced. -/
theorem Secludes.setAt (h : s.Secludes σ) {a : ArrayId} (ha : ¬σ.arrays a) (i : Nat) {v : Value}
    (hv : v.Open σ s) : (s.setAt a i v).Secludes σ ∧ s.Spares σ (s.setAt a i v) := by
  have spares : s.Spares σ (s.setAt a i v) := by
    refine ⟨Nat.le_refl _, (s.retains_setAt a i v).size, fun _ _ => rfl, fun b secret => ?_⟩
    rw [elements_setAt, if_neg]
    rintro rfl
    exact ha secret
  refine ⟨⟨spares.openFrame h.root, fun g p open' around => ?_, fun g x w open' found => ?_,
    fun b w mem open' => ?_, h.frames, fun b secret => ?_⟩, spares⟩
  · exact spares.openFrame (h.parents g p open' around)
  · exact spares.open (h.values g x w open' found)
  · rw [elements_setAt] at mem
    split at mem
    · rw [Array.set!_eq_setIfInBounds] at mem
      obtain old | rfl := Array.mem_or_eq_of_mem_setIfInBounds mem
      · exact spares.open (h.elements _ w old ha)
      · exact spares.open hv
    · exact spares.open (h.elements b w mem open')
  · exact Nat.lt_of_lt_of_le (h.arrays b secret) spares.arrays

/-! ### What is done with secrets -/

/-- What is no secret stays as it is. Frames and arrays may be added. -/
structure Tends (σ : Secret) (s t : Store) : Prop where
  /-- No function is made. -/
  functions : t.functions = s.functions
  /-- No frame is lost. -/
  frames : s.frames.size ≤ t.frames.size
  /-- No array is lost. -/
  arrays : s.arrays.size ≤ t.arrays.size
  /-- Frames that were there stay as they are, but for secret ones. -/
  frame : ∀ f, s.HasFrame f → ¬σ.frames f → t.frames[f.index]? = s.frames[f.index]?
  /-- So do arrays. -/
  array : ∀ a, s.HasArray a → ¬σ.arrays a → t.arrays[a.index]? = s.arrays[a.index]?

namespace Tends

theorem refl (σ : Secret) (s : Store) : s.Tends σ s :=
  ⟨rfl, Nat.le_refl _, Nat.le_refl _, fun _ _ _ => rfl, fun _ _ _ => rfl⟩

theorem trans (h : s.Tends σ t) (g : t.Tends σ u) : s.Tends σ u where
  functions := g.functions.trans h.functions
  frames := Nat.le_trans h.frames g.frames
  arrays := Nat.le_trans h.arrays g.arrays
  frame f held free :=
    (g.frame f (Nat.lt_of_lt_of_le held h.frames) free).trans (h.frame f held free)
  array a held free :=
    (g.array a (Nat.lt_of_lt_of_le held h.arrays) free).trans (h.array a held free)

/-- What is not there yet may as well be open. -/
theorem mono (h : s.Tends σ t) {τ : Secret} (frames : ∀ f, s.HasFrame f → σ.frames f → τ.frames f)
    (arrays : ∀ a, s.HasArray a → σ.arrays a → τ.arrays a) : s.Tends τ t where
  functions := h.functions
  frames := h.frames
  arrays := h.arrays
  frame f held free := h.frame f held fun secret => free (frames f held secret)
  array a held free := h.array a held fun secret => free (arrays a held secret)

theorem lookup? (h : s.Tends σ t) {f : FrameId} (held : s.HasFrame f) (free : ¬σ.frames f)
    (x : String) : t.lookup? f x = s.lookup? f x := by
  rw [Store.lookup?, Store.lookup?, h.frame f held free]

theorem parent? (h : s.Tends σ t) {f : FrameId} (held : s.HasFrame f) (free : ¬σ.frames f) :
    t.parent? f = s.parent? f := by
  rw [Store.parent?, Store.parent?, h.frame f held free]

theorem elements (h : s.Tends σ t) {a : ArrayId} (held : s.HasArray a) (free : ¬σ.arrays a) :
    t.elements a = s.elements a := by
  rw [Store.elements, Store.elements, h.array a held free]

end Tends

end Store

/-- The secrets, and all that the later of two stores has and the earlier has not. -/
def Secret.since (σ : Secret) (s t : Store) : Secret where
  frames f := σ.frames f ∨ ¬s.HasFrame f ∧ t.HasFrame f
  arrays a := σ.arrays a ∨ ¬s.HasArray a ∧ t.HasArray a

namespace Store

variable {σ : Secret} {s t : Store}

namespace Tends

theorem openFrame (h : s.Tends σ t) {f : FrameId} (hf : s.OpenFrame σ f) :
    t.OpenFrame (σ.since s t) f := by
  refine ⟨Nat.lt_of_lt_of_le hf.1 h.frames, ?_⟩
  rintro (secret | ⟨absent, -⟩)
  · exact hf.2 secret
  · exact absent hf.1

theorem openArray (h : s.Tends σ t) {a : ArrayId} (ha : s.OpenArray σ a) :
    t.OpenArray (σ.since s t) a := by
  refine ⟨Nat.lt_of_lt_of_le ha.1 h.arrays, ?_⟩
  rintro (secret | ⟨absent, -⟩)
  · exact ha.2 secret
  · exact absent ha.1

theorem «open» (h : s.Tends σ t) {v : Value} (hv : v.Open σ s) : v.Open (σ.since s t) t := by
  match v with
  | .array a => exact h.openArray hv
  | .function (.closure _ _ _ _ f) => exact h.openFrame hv
  | .function (.builtin _ _) | .null | .bool _ | .number _ | .text _ => trivial

end Tends

theorem hasFrame_of_parent? {f p : FrameId} (h : s.parent? f = some p) : s.HasFrame f := by
  by_contra absent
  rw [parent?, Array.getElem?_eq_none (Nat.le_of_not_lt absent)] at h
  cases h

theorem hasArray_of_mem {a : ArrayId} {v : Value} (h : v ∈ s.elements a) : s.HasArray a := by
  by_contra absent
  rw [elements, Array.getElem?_eq_none (Nat.le_of_not_lt absent)] at h
  exact Array.not_mem_empty v h

/-- What is done with secrets only keeps them apart, and with them all that is new. -/
theorem Secludes.tends (h : s.Secludes σ) (g : s.Tends σ t) : t.Secludes (σ.since s t) := by
  -- an open frame of `t` is an open frame of `s`, or there is none
  have frame (f : FrameId) (free : ¬(σ.since s t).frames f) (held : t.HasFrame f) :
      ¬σ.frames f ∧ s.HasFrame f :=
    ⟨fun secret => free (.inl secret), not_not.1 fun absent => free (.inr ⟨absent, held⟩)⟩
  have array (a : ArrayId) (free : ¬(σ.since s t).arrays a) (held : t.HasArray a) :
      ¬σ.arrays a ∧ s.HasArray a :=
    ⟨fun secret => free (.inl secret), not_not.1 fun absent => free (.inr ⟨absent, held⟩)⟩
  refine ⟨g.openFrame h.root, fun f p free around => ?_, fun f x v free found => ?_,
    fun a v mem free => ?_, ?_, ?_⟩
  · obtain ⟨free, held⟩ := frame f free (hasFrame_of_parent? around)
    exact g.openFrame (h.parents f p free (g.parent? held free ▸ around))
  · obtain ⟨free, held⟩ := frame f free (hasFrame_of_lookup? (Option.isSome_of_eq_some found))
    exact g.open (h.values f x v free (g.lookup? held free x ▸ found))
  · obtain ⟨free, held⟩ := array a free (hasArray_of_mem mem)
    exact g.open (h.elements a v (g.elements held free ▸ mem) free)
  · rintro f (secret | ⟨-, held⟩)
    · exact Nat.lt_of_lt_of_le (h.frames f secret) g.frames
    · exact held
  · rintro a (secret | ⟨-, held⟩)
    · exact Nat.lt_of_lt_of_le (h.arrays a secret) g.arrays
    · exact held

/-! ### Single changes -/

theorem tends_branch (σ : Secret) (s : Store) (origin : Origin) (f : FrameId) :
    s.Tends σ (s.branch origin f).2 := by
  refine ⟨rfl, (s.extends_branch origin f).size, Nat.le_refl _, fun g held _ => ?_,
    fun _ _ _ => rfl⟩
  have old : g.index ≠ s.frames.size := Nat.ne_of_lt held
  simp [Store.branch, Array.getElem?_push, old]

theorem tends_modifyFrame (s : Store) {f : FrameId} (secret : σ.frames f)
    (change : Bindings → Bindings) : s.Tends σ (s.modifyFrame f change) := by
  refine ⟨rfl, Nat.le_of_eq (s.sameTree_modifyFrame f change).size.symm, Nat.le_refl _,
    fun g _ free => ?_, fun _ _ _ => rfl⟩
  have other : f.index ≠ g.index := by
    intro same
    obtain ⟨i⟩ := f
    obtain ⟨j⟩ := g
    subst same
    exact free secret
  simp [Store.modifyFrame, Array.getElem?_modify, other]

theorem tends_define (s : Store) {f : FrameId} (secret : σ.frames f) (x : String) (v : Value) :
    s.Tends σ (s.define f x v) := s.tends_modifyFrame secret _

theorem tends_replace (s : Store) {f : FrameId} (secret : σ.frames f) (x : String) (v : Value) :
    s.Tends σ (s.replace f x v) := s.tends_modifyFrame secret _

/-- An array that is added is there, and was not there before. -/
theorem newArray_isNew (s : Store) (vs : Array Value) :
    ¬s.HasArray (s.newArray vs).1 ∧ (s.newArray vs).2.HasArray (s.newArray vs).1 :=
  ⟨Nat.lt_irrefl _, by simp [HasArray, newArray]⟩

theorem tends_newArray (σ : Secret) (s : Store) (vs : Array Value) :
    s.Tends σ (s.newArray vs).2 := by
  refine ⟨rfl, Nat.le_refl _, (s.retains_newArray vs).size, fun _ _ _ => rfl, fun a held _ => ?_⟩
  have old : a.index ≠ s.arrays.size := Nat.ne_of_lt held
  simp [Store.newArray, Array.getElem?_push, old]

theorem tends_setAt (s : Store) {a : ArrayId} (secret : σ.arrays a) (i : Nat) (v : Value) :
    s.Tends σ (s.setAt a i v) := by
  refine ⟨rfl, Nat.le_refl _, (s.retains_setAt a i v).size, fun _ _ _ => rfl, fun b _ free => ?_⟩
  have other : a.index ≠ b.index := by
    intro same
    obtain ⟨i⟩ := a
    obtain ⟨j⟩ := b
    subst same
    exact free secret
  simp [Store.setAt, Array.getElem?_modify, other]

end Store

end FoxScript
