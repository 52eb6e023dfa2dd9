import FoxScript.Value.Store
import Mathlib.Logic.Basic

/-!
# Frames of a store

What the operations of a store do to the names of its frames, and what all of them keep: frames stay
where they are, with what opened them and with the frame around them.

## Main definitions

* `Store.Extends`: the frames of one store are frames of another.
* `Store.Chain`: the frames that are met on the way from a frame to the frame of global names.

## Main statements

* `Store.lookup?_define`, `Store.lookup?_replace`: the names of a frame after a change.
* `Store.Chain.mono`: a chain of frames stays.
* `Store.Chain.findAt`: the frame that is met after so many steps along a chain.
-/
namespace FoxScript

namespace Bindings

theorem lookup_replace (bs : Bindings) (name other : String) (v : Value) :
    (bs.replace name v).lookup other =
      if other = name ∧ (bs.lookup name).isSome then some v else bs.lookup other := by
  induction bs with
  | nil => simp [replace]
  | cons b bs ih =>
    obtain ⟨n, w⟩ := b
    rw [replace]
    by_cases ho : other = n
    · subst ho
      by_cases hn : other = name <;> simp [hn]
    · have ho' : (other == n) = false := beq_false_of_ne ho
      by_cases hn : n = name
      · subst hn
        simp [List.lookup_cons, ho, ho']
      · have hn' : (name == n) = false := beq_false_of_ne fun h => hn h.symm
        rw [if_neg hn, List.lookup_cons, ho', ih, List.lookup_cons, List.lookup_cons, ho', hn']

end Bindings

namespace Store

/-- What opened a frame. -/
def origin? (s : Store) (f : FrameId) : Option Origin := (s.frames[f.index]?).map Frame.origin

/-- The store has the frame. -/
def HasFrame (s : Store) (f : FrameId) : Prop := f.index < s.frames.size

/-! ### Frames that stay -/

/-- The frames of `s` are frames of `t`, with what opened them and with the frames around them. -/
structure Extends (s t : Store) : Prop where
  /-- No frame is lost. -/
  size : s.frames.size ≤ t.frames.size
  /-- Frames keep what opened them. -/
  origin : ∀ f, s.HasFrame f → t.origin? f = s.origin? f
  /-- Frames keep the frame around them. -/
  parent : ∀ f, s.HasFrame f → t.parent? f = s.parent? f

theorem Extends.refl (s : Store) : s.Extends s := ⟨Nat.le_refl _, fun _ _ => rfl, fun _ _ => rfl⟩

theorem Extends.hasFrame {s t : Store} (h : s.Extends t) {f : FrameId} (hf : s.HasFrame f) :
    t.HasFrame f :=
  Nat.lt_of_lt_of_le hf h.size

theorem Extends.trans {s t u : Store} (h : s.Extends t) (g : t.Extends u) : s.Extends u where
  size := Nat.le_trans h.size g.size
  origin f hf := (g.origin f (h.hasFrame hf)).trans (h.origin f hf)
  parent f hf := (g.parent f (h.hasFrame hf)).trans (h.parent f hf)

/-- The frames of `s` and `t` are the same but for the names that they hold. -/
structure SameTree (s t : Store) : Prop where
  /-- There are as many frames. -/
  size : t.frames.size = s.frames.size
  /-- The same constructs opened them. -/
  origin : ∀ f, t.origin? f = s.origin? f
  /-- The same frames lie around them. -/
  parent : ∀ f, t.parent? f = s.parent? f

theorem SameTree.refl (s : Store) : s.SameTree s := ⟨rfl, fun _ => rfl, fun _ => rfl⟩

theorem SameTree.trans {s t u : Store} (h : s.SameTree t) (g : t.SameTree u) : s.SameTree u where
  size := g.size.trans h.size
  origin f := (g.origin f).trans (h.origin f)
  parent f := (g.parent f).trans (h.parent f)

theorem SameTree.extends {s t : Store} (h : s.SameTree t) : s.Extends t :=
  ⟨Nat.le_of_eq h.size.symm, fun f _ => h.origin f, fun f _ => h.parent f⟩

theorem sameTree_of_frames_eq {s t : Store} (h : t.frames = s.frames) : s.SameTree t where
  size := by rw [h]
  origin f := by simp [origin?, h]
  parent f := by simp [parent?, h]

theorem extends_of_frames_eq {s t : Store} (h : t.frames = s.frames) : s.Extends t :=
  (sameTree_of_frames_eq h).extends

theorem sameTree_modifyFrame (s : Store) (f : FrameId) (change : Bindings → Bindings) :
    s.SameTree (s.modifyFrame f change) where
  size := by simp [modifyFrame]
  origin g := by
    simp only [origin?, modifyFrame, Array.getElem?_modify]
    split <;> simp [Function.comp_def]
  parent g := by
    simp only [parent?, modifyFrame, Array.getElem?_modify]
    split <;> cases s.frames[g.index]? <;> rfl

theorem sameTree_define (s : Store) (f : FrameId) (name : String) (v : Value) :
    s.SameTree (s.define f name v) := s.sameTree_modifyFrame f _

theorem sameTree_replace (s : Store) (f : FrameId) (name : String) (v : Value) :
    s.SameTree (s.replace f name v) := s.sameTree_modifyFrame f _

theorem extends_define (s : Store) (f : FrameId) (name : String) (v : Value) :
    s.Extends (s.define f name v) := (s.sameTree_define f name v).extends

theorem extends_replace (s : Store) (f : FrameId) (name : String) (v : Value) :
    s.Extends (s.replace f name v) := (s.sameTree_replace f name v).extends

/-! ### Names of frames -/

theorem lookup?_modifyFrame (s : Store) (f g : FrameId) (change : Bindings → Bindings)
    (name : String) :
    (s.modifyFrame f change).lookup? g name =
      if g = f then (s.frames[g.index]?).bind fun frame => (change frame.bindings).lookup name
      else s.lookup? g name := by
  have index : g = f ↔ f.index = g.index := by
    cases f; cases g; simp [eq_comm]
  simp only [lookup?, modifyFrame, Array.getElem?_modify, index]
  split <;> cases s.frames[g.index]? <;> rfl

theorem hasFrame_of_lookup? {s : Store} {f : FrameId} {name : String}
    (h : (s.lookup? f name).isSome) : s.HasFrame f := by
  refine Nat.lt_of_not_le fun hf => ?_
  have none : s.frames[f.index]? = none := Array.getElem?_eq_none hf
  simp [lookup?, none] at h

theorem hasFrame_of_origin? {s : Store} {f : FrameId} {o : Origin} (h : s.origin? f = some o) :
    s.HasFrame f := by
  refine Nat.lt_of_not_le fun hf => ?_
  have none : s.frames[f.index]? = none := Array.getElem?_eq_none hf
  simp [origin?, none] at h

theorem lookup?_define (s : Store) {f : FrameId} (hf : s.HasFrame f) (g : FrameId)
    (name other : String) (v : Value) :
    (s.define f name v).lookup? g other =
      if g = f ∧ other = name then some v else s.lookup? g other := by
  rw [define, lookup?_modifyFrame]
  by_cases hg : g = f
  · subst hg
    obtain ⟨frame, found⟩ : ∃ frame, s.frames[g.index]? = some frame :=
      ⟨_, Array.getElem?_eq_getElem hf⟩
    by_cases bound : (frame.bindings.lookup name).isSome
    · by_cases ho : other = name <;> simp [lookup?, found, bound, Bindings.lookup_replace, ho]
    · by_cases ho : other = name
      · simp [found, bound, ho]
      · have ho' : (other == name) = false := by simpa using ho
        simp [lookup?, found, bound, ho, List.lookup_cons, ho']
  · simp [hg]

theorem lookup?_replace (s : Store) (f g : FrameId) (name other : String) (v : Value) :
    (s.replace f name v).lookup? g other =
      if g = f ∧ other = name ∧ (s.lookup? f name).isSome then some v else s.lookup? g other := by
  rw [replace, lookup?_modifyFrame]
  by_cases hg : g = f
  · subst hg
    simp only [lookup?, if_true, true_and]
    cases s.frames[g.index]? with
    | none => simp
    | some frame => simpa using Bindings.lookup_replace frame.bindings name other v
  · simp [hg]

theorem lookup?_define_of_ne {s : Store} {f g : FrameId} {name other : String} (v : Value)
    (h : ¬(g = f ∧ other = name)) :
    (s.define f name v).lookup? g other = s.lookup? g other := by
  by_cases hf : s.HasFrame f
  · rw [lookup?_define s hf, if_neg h]
  · have none : s.frames[f.index]? = none := Array.getElem?_eq_none (Nat.le_of_not_lt hf)
    rw [define, lookup?_modifyFrame]
    split
    · rename_i hg
      simp [lookup?, hg, none]
    · rfl

/-- After a name is bound, frames hold the new value and those before only. -/
theorem lookup?_define_eq_some {s : Store} {f g : FrameId} {name other : String} {v w : Value}
    (h : (s.define f name v).lookup? g other = some w) :
    s.lookup? g other = some w ∨ g = f ∧ other = name ∧ w = v := by
  by_cases same : g = f ∧ other = name
  · obtain ⟨rfl, rfl⟩ := same
    have hf : (s.define g other v).HasFrame g := hasFrame_of_lookup? (Option.isSome_of_eq_some h)
    rw [HasFrame, (s.sameTree_define g other v).size] at hf
    rw [lookup?_define s hf, if_pos ⟨rfl, rfl⟩] at h
    exact .inr ⟨rfl, rfl, (Option.some.inj h).symm⟩
  · exact .inl (lookup?_define_of_ne v same ▸ h)

/-- After a name gets a new value, frames hold the new value and those before only. -/
theorem lookup?_replace_eq_some {s : Store} {f g : FrameId} {name other : String} {v w : Value}
    (h : (s.replace f name v).lookup? g other = some w) : s.lookup? g other = some w ∨ w = v := by
  rw [lookup?_replace] at h
  split at h
  · exact .inr (Option.some.inj h).symm
  · exact .inl h

theorem lookup?_of_frames_eq {s t : Store} (h : t.frames = s.frames) (f : FrameId) (name : String) :
    t.lookup? f name = s.lookup? f name := by
  simp [lookup?, h]

/-! ### Look-ups -/

theorem ancestor?_congr {s t : Store} (h : ∀ f, t.parent? f = s.parent? f) (f : FrameId)
    (n : Nat) : t.ancestor? f n = s.ancestor? f n := by
  induction n generalizing f with
  | zero => rfl
  | succ n ih => simp [ancestor?, h, ih]

section

variable {s t : Store} (h : t.frames = s.frames)

include h

theorem parent?_of_frames_eq (f : FrameId) : t.parent? f = s.parent? f := by
  simp [parent?, h]

theorem ancestor?_of_frames_eq (f : FrameId) (n : Nat) : t.ancestor? f n = s.ancestor? f n :=
  ancestor?_congr (parent?_of_frames_eq h) f n

/-- A look-up by a number of steps reads frames only. -/
theorem findAt_of_frames_eq (f : FrameId) (n : Nat) (name : String) :
    t.findAt f n name = s.findAt f n name := by
  simp [findAt, ancestor?_of_frames_eq h, lookup?_of_frames_eq h]

end

theorem findAt_eq_error {s : Store} {f : FrameId} {n : Nat} {name : String} {e : Fault}
    (h : s.findAt f n name = .error e) : e = .undefinedVariable name := by
  rw [findAt] at h
  split at h
  · split at h <;> cases h
    rfl
  · cases h
    rfl

/-! ### New frames -/

section

variable (s : Store) (origin : Origin) (parent : FrameId)

theorem branch_fst : (s.branch origin parent).1 = ⟨s.frames.size⟩ := rfl

theorem extends_branch : s.Extends (s.branch origin parent).2 where
  size := by simp [branch]
  origin f hf := by
    have : f.index ≠ s.frames.size := Nat.ne_of_lt hf
    simp [origin?, branch, Array.getElem?_push, this]
  parent f hf := by
    have : f.index ≠ s.frames.size := Nat.ne_of_lt hf
    simp [parent?, branch, Array.getElem?_push, this]

theorem hasFrame_branch : (s.branch origin parent).2.HasFrame (s.branch origin parent).1 := by
  simp [HasFrame, branch]

theorem origin?_branch :
    (s.branch origin parent).2.origin? (s.branch origin parent).1 = some origin := by
  simp [origin?, branch]

theorem parent?_branch :
    (s.branch origin parent).2.parent? (s.branch origin parent).1 = some parent := by
  simp [parent?, branch]

theorem size_branch : (s.branch origin parent).2.frames.size = s.frames.size + 1 := by
  simp [branch]

theorem parent?_branch_eq (f : FrameId) :
    (s.branch origin parent).2.parent? f =
      if f.index = s.frames.size then some parent else s.parent? f := by
  simp only [parent?, branch, Array.getElem?_push]
  split <;> rfl

theorem lookup?_branch (f : FrameId) (name : String) :
    (s.branch origin parent).2.lookup? f name = s.lookup? f name := by
  simp only [lookup?, branch, Array.getElem?_push]
  split
  · rename_i h
    simp [h]
  · rfl

end

/-- A frame that was opened is the new one, or it was there before. -/
theorem origin?_branch_eq_some {s : Store} {origin o : Origin} {parent f : FrameId}
    (h : (s.branch origin parent).2.origin? f = some o) : s.origin? f = some o ∨ o = origin := by
  simp only [origin?, branch, Array.getElem?_push] at h ⊢
  split at h
  · exact .inr (Option.some.inj h).symm
  · exact .inl h

/-! ### Builtin functions -/

theorem lookup?_empty (f : FrameId) (name : String) : empty.lookup? f name = none := by
  rw [lookup?, empty]
  rcases f with ⟨_ | n⟩ <;> rfl

/-- In the empty store nothing opened a frame. -/
theorem origin?_empty {f : FrameId} {o : Origin} (h : empty.origin? f = some o) : o = .root := by
  obtain ⟨_ | i⟩ := f
  · exact (Option.some.inj h).symm
  · cases h

theorem parent?_empty (f : FrameId) : empty.parent? f = none := by
  rw [parent?, empty]
  rcases f with ⟨_ | n⟩ <;> rfl

theorem arrays_addBuiltins (s : Store) : s.addBuiltins.arrays = s.arrays := by
  rw [addBuiltins]
  generalize Builtin.standard = bs
  induction bs generalizing s with
  | nil => rfl
  | cons b bs ih => exact ih _

theorem sameTree_addBuiltins (s : Store) : s.SameTree s.addBuiltins := by
  rw [addBuiltins]
  generalize Builtin.standard = bs
  induction bs generalizing s with
  | nil => exact .refl s
  | cons b bs ih =>
    have first : s.SameTree s.newFunction.2 := sameTree_of_frames_eq rfl
    exact first.trans ((sameTree_define _ root b.name _).trans (ih _))

/-- The standard builtin functions are bound in the frame of global names, and nothing else is. -/
theorem lookup?_addBuiltins {s : Store} {f : FrameId} {name : String} {v : Value}
    (h : s.addBuiltins.lookup? f name = some v) :
    s.lookup? f name = some v ∨
      ∃ id, ∃ b ∈ Builtin.standard, f = root ∧ name = b.name ∧ v = .function (.builtin id b) := by
  rw [addBuiltins] at h
  revert h
  generalize Builtin.standard = bs
  intro h
  induction bs generalizing s with
  | nil => exact .inl h
  | cons b bs ih =>
    obtain old | ⟨id, b', mem, hf⟩ := ih h
    · obtain old | ⟨rfl, rfl, rfl⟩ := lookup?_define_eq_some old
      · exact .inl old
      · exact .inr ⟨_, b, List.mem_cons_self, rfl, rfl, rfl⟩
    · exact .inr ⟨id, b', List.mem_cons_of_mem _ mem, hf⟩

/-! ### Stores side by side -/

/-- Which name of a frame of one store corresponds to which name of a frame of another. -/
abbrev Pairing := FrameId → String → FrameId → String → Prop

/-- Names correspond one to one. -/
def Pairing.OneToOne (pairs : Pairing) : Prop :=
  ∀ f x f' x' g y g' y', pairs f x f' x' → pairs g y g' y' → (f = g ∧ x = y ↔ f' = g' ∧ x' = y')

/-- What the frames of two stores hold under names that correspond is related. -/
def Holds (related : Value → Value → Prop) (pairs : Pairing) (s s' : Store) : Prop :=
  ∀ f x f' x', pairs f x f' x' → Option.Rel related (s.lookup? f x) (s'.lookup? f' x')

section

variable {related related' : Value → Value → Prop} {pairs : Pairing} {s s' : Store}
  {f f' : FrameId} {x x' : String} {v v' : Value}

theorem isSome_iff_of_rel {a b : Option Value} (h : Option.Rel related a b) :
    a.isSome ↔ b.isSome := by
  cases h <;> simp

theorem Holds.imp (h : Holds related pairs s s') (imp : ∀ v v', related v v' → related' v v') :
    Holds related' pairs s s' := by
  intro f x f' x' hp
  have rel := h f x f' x' hp
  revert rel
  generalize s.lookup? f x = a, s'.lookup? f' x' = b
  intro rel
  cases rel with
  | none => exact .none
  | some rel => exact .some (imp _ _ rel)

/-- Names that correspond get values that are related. -/
theorem Holds.define (h : Holds related pairs s s') (one : pairs.OneToOne) (here : pairs f x f' x')
    (hf : s.HasFrame f) (hf' : s'.HasFrame f') (hv : related v v') :
    Holds related pairs (s.define f x v) (s'.define f' x' v') := by
  intro g y g' y' hp
  rw [lookup?_define s hf, lookup?_define s' hf']
  have same := one g y g' y' f x f' x' hp here
  by_cases hit : g = f ∧ y = x
  · rw [if_pos hit, if_pos (same.1 hit)]
    exact .some hv
  · rw [if_neg hit, if_neg fun hit' => hit (same.2 hit')]
    exact h g y g' y' hp

theorem Holds.replace (h : Holds related pairs s s') (one : pairs.OneToOne)
    (here : pairs f x f' x') (hv : related v v') :
    Holds related pairs (s.replace f x v) (s'.replace f' x' v') := by
  intro g y g' y' hp
  rw [lookup?_replace, lookup?_replace]
  have bound := isSome_iff_of_rel (h f x f' x' here)
  have same := one g y g' y' f x f' x' hp here
  by_cases hit : g = f ∧ y = x ∧ (s.lookup? f x).isSome
  · rw [if_pos hit, if_pos ⟨(same.1 ⟨hit.1, hit.2.1⟩).1, (same.1 ⟨hit.1, hit.2.1⟩).2,
      bound.1 hit.2.2⟩]
    exact .some hv
  · rw [if_neg hit, if_neg fun hit' => hit ⟨(same.2 ⟨hit'.1, hit'.2.1⟩).1,
      (same.2 ⟨hit'.1, hit'.2.1⟩).2, bound.2 hit'.2.2⟩]
    exact h g y g' y' hp

end

/-! ### Chains of frames -/

/-- From a frame on, frames are met that the given constructs opened, one for each, and then the
frame of global names, around which there is none. -/
def Chain (s : Store) : FrameId → List Origin → Prop
  | f, [] => f = root ∧ s.HasFrame root ∧ s.parent? root = none
  | f, origin :: origins =>
    s.HasFrame f ∧ s.origin? f = some origin ∧ ∃ g, s.parent? f = some g ∧ s.Chain g origins

theorem Chain.hasFrame {s : Store} {f : FrameId} {origins : List Origin}
    (h : s.Chain f origins) : s.HasFrame f := by
  cases origins with
  | nil =>
    obtain ⟨rfl, h, -⟩ := h
    exact h
  | cons => exact h.1

theorem Chain.mono {s t : Store} (ext : s.Extends t) {f : FrameId} {origins : List Origin}
    (h : s.Chain f origins) : t.Chain f origins := by
  induction origins generalizing f with
  | nil =>
    obtain ⟨rfl, hf, hp⟩ := h
    exact ⟨rfl, ext.hasFrame hf, (ext.parent _ hf).trans hp⟩
  | cons origin origins ih =>
    obtain ⟨hf, ho, g, hp, hg⟩ := h
    exact ⟨ext.hasFrame hf, (ext.origin _ hf).trans ho, g, (ext.parent _ hf).trans hp, ih hg⟩

theorem Chain.branch {s : Store} {f : FrameId} {origins : List Origin} (h : s.Chain f origins)
    (origin : Origin) :
    (s.branch origin f).2.Chain (s.branch origin f).1 (origin :: origins) :=
  ⟨s.hasFrame_branch origin f, s.origin?_branch origin f, f, s.parent?_branch origin f,
    h.mono (s.extends_branch origin f)⟩

/-- After so many steps along a chain its rest begins. -/
theorem Chain.ancestor {s : Store} {f : FrameId} {origins : List Origin} (h : s.Chain f origins)
    {n : Nat} (hn : n ≤ origins.length) :
    ∃ g, s.ancestor? f n = some g ∧ s.Chain g (origins.drop n) := by
  induction n generalizing f origins with
  | zero => exact ⟨f, rfl, h⟩
  | succ n ih =>
    cases origins with
    | nil => simp at hn
    | cons origin origins =>
      obtain ⟨-, -, g, hp, hg⟩ := h
      obtain ⟨a, ha, chain⟩ := ih hg (Nat.le_of_succ_le_succ hn)
      exact ⟨a, by simp [ancestor?, hp, ha], chain⟩

/-- A look-up by a number of steps reads the frame that lies so far along the chain, and no
other. -/
theorem Chain.findAt {s : Store} {f : FrameId} {origins : List Origin} (h : s.Chain f origins)
    {n : Nat} {origin : Origin} (hn : origins[n]? = some origin) (name : String) :
    ∃ g, s.ancestor? f n = some g ∧ s.origin? g = some origin ∧
      s.findAt f n name =
        if (s.lookup? g name).isSome then .ok g else .error (.undefinedVariable name) := by
  obtain ⟨lt, ho⟩ := List.getElem?_eq_some_iff.1 hn
  obtain ⟨g, hg, chain⟩ := h.ancestor (Nat.le_of_lt lt)
  refine ⟨g, hg, ?_, by simp [Store.findAt, hg]⟩
  rw [List.drop_eq_getElem_cons lt, ho] at chain
  exact chain.2.1

/-- A look-up from the frame of global names on reads that frame, and no other. -/
theorem find_root (s : Store) (name : String) :
    s.find root name =
      if (s.lookup? root name).isSome then .ok root else .error (.undefinedVariable name) := by
  simp only [find, owner?, ownerFrom?, root]
  by_cases h : (s.lookup? ⟨0⟩ name).isSome
  · simp [h]
  · cases s.parent? ⟨0⟩ <;> simp [h]

end Store

end FoxScript
