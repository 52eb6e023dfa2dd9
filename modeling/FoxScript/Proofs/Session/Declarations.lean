import FoxScript.Proofs.Session.Discipline.Evaluation

/-!
# Where declarations go

A declaration binds a name in the frame in which it is evaluated. Blocks and calls open frames of
their own, so that no frame that was there before becomes the frame of an evaluation again, except
the frame of global names, in which nested programs run. So the names of all other frames stay as
they are, and their values change by assignments only.

## Main definitions

* `Session.Targets`: an assignment that gives a certain name of a certain frame its value.
* `Discipline.frozen`: a frame that is not that of the session keeps a name as it is.

## Main statements

* `Discipline.frozen_lawful`: it does so in every step.
* `Session.declarations_stay`: which frames gain names, and which values change.
-/
namespace FoxScript

/-! ### Frames that stay as they are -/

/-- The expression is an assignment, and evaluated in the session it gives the name `x` of the frame
`f` a new value. -/
inductive Session.Targets (s : Session) (f : FrameId) (x : String) : Expr → Prop
  /-- An assignment of a value to a name that means the frame. -/
  | assign {n : Nat} {e : Expr} {v : Value} {t : Session} {id : NodeId} {name : Token}
    (value : Eval.evaluate n e s = .ok v t) (owner : t.owner id name = .ok f)
    (same : name.lexeme = x) : Targets s f x (.assign id name e)

/-- The second session has a name in a frame that the first has not. -/
def Session.Gains (s t : Session) (f : FrameId) (x : String) : Prop :=
  s.store.lookup? f x = none ∧ (t.store.lookup? f x).isSome

/-- A new frame is not one that was there before. -/
theorem Session.frame_enter_ne {s : Session} {f : FrameId} (h : s.store.HasFrame f)
    (origin : Origin) (parent : FrameId) : (s.enter origin parent).frame ≠ f := by
  rintro rfl
  exact Nat.lt_irrefl _ h

namespace Discipline

/-- The frame `f`, which is not that of the session, has the name `x` if it was held there; under
`values` it also has the value. Nested programs are not allowed where `f` is the frame of global
names, and assignments to the name are not allowed where its value is to stay. -/
def frozen (f : FrameId) (x : String) (held : Option Value) (values : Prop) : Discipline where
  sound s := s.store.HasFrame f ∧ s.frame ≠ f ∧ (s.store.lookup? f x).isSome = held.isSome ∧
    (values → s.store.lookup? f x = held)
  closure _ _ := True
  ready _ _ := True
  watch s e := ¬(values ∧ s.Targets f x e ∨ f = Store.root ∧ s.Nests e)
  raises _ _ := True

variable {f : FrameId} {x : String} {held : Option Value} {values : Prop} {s t : Session}

/-- Soundness is kept by what keeps the frame and the name in it. -/
theorem frozen_congr (h : (frozen f x held values).sound s) (ext : s.store.Extends t.store)
    (frame : t.frame ≠ f) (same : t.store.lookup? f x = s.store.lookup? f x) :
    (frozen f x held values).sound t := by
  obtain ⟨hf, -, names, value⟩ := h
  exact ⟨ext.hasFrame hf, frame, by rw [same, names], fun hv => same.trans (value hv)⟩

theorem frozen_define (h : (frozen f x held values).sound s) (y : String) (v : Value) :
    (frozen f x held values).sound (s.define y v) := by
  refine frozen_congr h (s.store.extends_define _ _ _) h.2.1 ?_
  exact Store.lookup?_define_of_ne v fun same => h.2.1 same.1.symm

theorem frozen_enter (h : (frozen f x held values).sound s) (origin : Origin) (parent : FrameId) :
    (frozen f x held values).sound (s.enter origin parent) :=
  frozen_congr h (s.store.extends_branch origin parent) (Session.frame_enter_ne h.1 _ _)
    (s.store.lookup?_branch origin parent f x)

/-- An assignment changes the value of a name only, and not that of `x` in `f` where this is to
stay. -/
theorem frozen_assign {id : NodeId} {y : Token} {e : Expr} {n : Nat} {v : Value} {g : FrameId}
    (watch : (frozen f x held values).watch s (.assign id y e))
    (found : Eval.evaluate n e s = .ok v t) (owner : t.owner id y = .ok g)
    (h : (frozen f x held values).sound t) :
    (frozen f x held values).sound (t.replace g y.lexeme v) := by
  by_cases hit : f = g ∧ x = y.lexeme ∧ (t.store.lookup? g y.lexeme).isSome
  · obtain ⟨rfl, rfl, bound⟩ := hit
    have free : ¬values := fun hv => watch (.inl ⟨hv, .assign found owner rfl⟩)
    obtain ⟨hf, frame, names, -⟩ := h
    refine ⟨(t.store.extends_replace _ _ _).hasFrame hf, frame, ?_, fun hv => absurd hv free⟩
    rw [← names, bound, Session.replace, Store.lookup?_replace, if_pos ⟨rfl, rfl, bound⟩]
    rfl
  · refine frozen_congr h (t.store.extends_replace _ _ _) h.2.1 ?_
    rw [Session.replace, Store.lookup?_replace, if_neg hit]

theorem frozen_lawful : (frozen f x held values).Lawful where
  closure_mono _ _ := trivial
  ready_mono _ _ _ := trivial
  raises_mono _ _ := trivial
  sound_back hs _ ht same frame := by
    refine frozen_congr ht same.extends.store ?_ (Store.lookup?_of_frames_eq same.frames f x)
    rw [frame]
    exact hs.2.1
  define v _ _ _ _ _ h := frozen_define h _ v
  params v _ _ _ _ _ h := frozen_define h _ v
  assign := frozen_assign
  enter h _ := frozen_enter h _ _
  nests watch nests _ h u same root := by
    refine frozen_congr h same.extends.store ?_ (Store.lookup?_of_frames_eq same.frames f x)
    rw [root]
    exact fun hf => watch (.inr ⟨hf.symm, nests⟩)
  compile {s t source program} h compiled := by
    have store := s.store_compile source
    have frame := (s.grows_compile source).frame
    rw [compiled] at store frame
    have store : t.store = s.store := store
    refine frozen_congr h (store ▸ .refl _) (frame ▸ h.2.1) ?_
    rw [store]
  programs _ _ _ _ := trivial
  parts _ _ _ := trivial
  members _ _ _ _ _ := trivial
  makes _ _ _ _ := trivial
  calls _ _ _ _ := trivial
  raises_runtime _ _ _ _ := trivial
  raises_static _ _ _ := trivial
  raises_stray _ _ _ _ _ := trivial
  raises_slip _ _ := trivial

theorem tidy_frozen (active : s.store.HasFrame s.frame)
    (sound : (frozen f x held values).sound s) : (frozen f x held values).Tidy s :=
  .of_sound (fun _ => trivial) sound active

end Discipline

namespace Session

variable {s : Session} {f : FrameId} {x : String}

/-- A frame that is not that of the session gains a name through a nested program only. -/
theorem gains_of_other (active : s.store.HasFrame s.frame) (hf : s.store.HasFrame f)
    (other : f ≠ s.frame) {n : Nat} {e : Expr}
    (gains : s.Gains (Eval.sessionAfter (Eval.evaluate n e s)) f x) :
    f = Store.root ∧ Eval.Meets Nests n fun eval => eval e s := by
  refine Eval.Meets.of_and (by_contra fun unmet => ?_)
  have tidy : (Discipline.frozen f x none False).Tidy s :=
    Discipline.tidy_frozen active ⟨hf, other.symm, by rw [gains.1], False.elim⟩
  have ends := Discipline.frozen_lawful.ends_evaluate (by simp [Discipline.frozen]) unmet tidy
    trivial
  have kept := ends.after.tidy.sound.2.2.1
  rw [gains.2] at kept
  cases kept

/-- The frame around a block gains a name only if it is the frame of global names, and a nested
program runs. -/
theorem gains_of_block (active : s.store.HasFrame s.frame) {n : Nat} {es : List Expr}
    (gains : s.Gains (Eval.sessionAfter (Eval.evaluate n (.block es) s)) s.frame x) :
    s.frame = Store.root ∧ Eval.Meets Nests n fun eval => eval (.block es) s := by
  obtain ⟨before, gained⟩ := gains
  cases n with
  | zero =>
    change (s.store.lookup? s.frame x).isSome at gained
    rw [before] at gained
    cases gained
  | succ n =>
  refine Eval.Meets.of_and (by_contra fun unmet => ?_)
  -- inside the block the frame is a new one, and that around it is one of those that stay
  have law : (Discipline.frozen s.frame x none False).Lawful := Discipline.frozen_lawful
  have sound : (Discipline.frozen s.frame x none False).sound (s.enter (.block es) s.frame) := by
    refine ⟨(s.extends_enter _ _).store.hasFrame active, frame_enter_ne active _ _, ?_, False.elim⟩
    rw [enter, Store.lookup?_branch, before]
  have tidy := Discipline.tidy_frozen (s.store.hasFrame_branch (.block es) s.frame) sound
  have inTurn : (Discipline.frozen s.frame x none False).InTurn (s.enter (.block es) s.frame)
      (Expr.inOrder [] es) := fun _ _ _ _ _ => trivial
  have last := (Discipline.Lawful.does_last (law.keeps_allowed n) tidy (v := .null)
    (.of_data rfl) (List.forall_mem_nil _) inTurn).ends
  have passes : (Discipline.frozen s.frame x none False).watch s (.block es) := by
    rintro (⟨h, -⟩ | ⟨-, h⟩)
    · exact h
    · cases h
  have allowed (t : Session) (e : Expr) :
      (Discipline.frozen s.frame x none False).watch t e ↔ ¬(s.frame = Store.root ∧ t.Nests e) := by
    simp [Discipline.frozen]
  have same := Eval.eq_of_not_meets unmet allowed .exhausted
  have opened : Eval.watched (Discipline.frozen s.frame x none False).watch .exhausted (n + 1)
      (.block es) s = _ :=
    (Eval.watched_of_check passes .exhausted n).trans (Eval.inNewFrame_eq s _ (.block es) s.frame)
  have kept := last.after.tidy.sound.2.2.1
  rw [← same, opened, Eval.sessionAfter_restored] at gained
  rw [gained] at kept
  cases kept

/-- The value of a name in a frame that is not that of the session changes by an assignment to it,
or through a nested program where the frame is that of global names. -/
theorem meets_of_change (active : s.store.HasFrame s.frame) (hf : s.store.HasFrame f)
    (other : f ≠ s.frame) {n : Nat} {e : Expr}
    (changes : (Eval.sessionAfter (Eval.evaluate n e s)).store.lookup? f x ≠ s.store.lookup? f x) :
    Eval.Meets (fun t d => t.Targets f x d ∨ f = Store.root ∧ t.Nests d) n
      fun eval => eval e s := by
  refine by_contra fun unmet => changes ?_
  have tidy : (Discipline.frozen f x (s.store.lookup? f x) True).Tidy s :=
    Discipline.tidy_frozen active ⟨hf, other.symm, rfl, fun _ => rfl⟩
  have ends := Discipline.frozen_lawful.ends_evaluate (by simp [Discipline.frozen]) unmet tidy
    trivial
  exact ends.after.tidy.sound.2.2.2 trivial

/-- Wherever a run evaluates an expression, the session has its frame. -/
theorem Reachable.active_of_visits (h : s.Reachable) {program : List Expr}
    (accepted : (s.baseDirectory, program) ∈ s.programs) {n : Nat} {t : Session} {e : Expr}
    (visits : s.Visits n program t e) : t.store.HasFrame t.frame := by
  obtain ⟨-, d, program', Γ, placed⟩ := h.placed_of_visits accepted visits
  exact placed.chain.hasFrame

/-- Whatever an evaluation ends with, no frame loses a name. Of the frames that were there before,
that of the session can gain names, and that of global names, if it is another one, through nested
programs only. A block gives no name to the frame around it, unless this is that of global names and
the block runs a nested program. In all other frames the value of a name changes by assignments to
it only. -/
theorem declarations_stay (active : s.store.HasFrame s.frame) (n : Nat) (e : Expr) :
    let t := Eval.sessionAfter (Eval.evaluate n e s)
    (∀ f x, (s.store.lookup? f x).isSome → (t.store.lookup? f x).isSome) ∧
      (∀ f x, s.store.HasFrame f → s.Gains t f x →
        f = s.frame ∨ f = Store.root ∧ Eval.Meets Nests n fun eval => eval e s) ∧
      (∀ es x, e = .block es → s.Gains t s.frame x →
        s.frame = Store.root ∧ Eval.Meets Nests n fun eval => eval e s) ∧
      ∀ f x, s.store.HasFrame f → f ≠ s.frame → f ≠ Store.root →
        t.store.lookup? f x ≠ s.store.lookup? f x →
          Eval.Meets (fun u d => u.Targets f x d) n fun eval => eval e s := by
  intro t
  refine ⟨(advances_evaluate active n e).names, fun f x hf gains => ?_, ?_, ?_⟩
  · by_cases same : f = s.frame
    · exact .inl same
    · exact .inr (gains_of_other active hf same gains)
  · rintro es x rfl gains
    exact gains_of_block active gains
  · intro f x hf other inner changes
    have meets := meets_of_change active hf other changes
    simpa [inner] using meets

/-- A block in a block declares a name, which the outer block does not get. -/
theorem declarations_stay_in_an_inner_block :
    let s := (new .empty .current .propagate (.ofBytes []) 0).enter (.block []) Store.root
    let e := Expr.block [.declare ⟨.identifier, "x", none, ⟨1, 1⟩⟩]
    s.store.HasFrame s.frame ∧
      ∀ x, ¬s.Gains (Eval.sessionAfter (Eval.evaluate 2 e s)) s.frame x := by
  intro s e
  have active : s.store.HasFrame s.frame := Store.hasFrame_branch _ (.block []) Store.root
  refine ⟨active, fun x gains => ?_⟩
  have root := ((declarations_stay active 2 e).2.2.1 _ x rfl gains).1
  exact absurd root (by decide +kernel)

end Session

end FoxScript
