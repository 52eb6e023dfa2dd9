import FoxScript.Proofs.Session.Composition
import FoxScript.Proofs.Session.Observation

/-!
# Steps of tied sessions

Small steps that are done in two tied sessions at once: names are bound, arrays are made and
changed, frames are entered and left.

## Main statements

* `Tie.Lawful.agree_define`, `Tie.Lawful.agree_newArray`, `Tie.Lawful.agree_setElement`: changes of
  the store.
* `Tie.Lawful.agree_inNewFrame`: a step in a new frame.
-/
namespace FoxScript

namespace Store

theorem elements_newArray (s : Store) (vs : Array Value) (a : ArrayId) :
    (s.newArray vs).2.elements a = if a.index = s.arrays.size then vs else s.elements a := by
  simp only [elements, newArray, Array.getElem?_push]
  split <;> rfl

theorem elements_setAt (s : Store) (a b : ArrayId) (i : Nat) (v : Value) :
    (s.setAt a i v).elements b = if b = a then (s.elements a).set! i v else s.elements b := by
  have index : b = a ↔ a.index = b.index := by
    cases a; cases b; simp [eq_comm]
  simp only [elements, setAt, Array.getElem?_modify, index]
  split
  · rename_i h
    rw [h]
    cases s.arrays[b.index]? <;> rfl
  · rfl

end Store

theorem Eval.inNewFrame_eq (s : Session) (act : Eval Value) (origin : Origin) (parent : FrameId) :
    inNewFrame origin parent act s =
      restored (fun t => { t with frame := s.frame }) (act (s.enter origin parent)) :=
  inFrame_eq act { s with store := (s.store.branch origin parent).2 }
    (s.store.branch origin parent).1

theorem forall₂_set {α α' : Type} {R : α → α' → Prop} {xs : List α} {xs' : List α'}
    (h : List.Forall₂ R xs xs') (i : Nat) {x : α} {x' : α'} (hx : R x x') :
    List.Forall₂ R (xs.set i x) (xs'.set i x') := by
  induction h generalizing i with
  | nil => exact .nil
  | cons hy h ih =>
    cases i with
    | zero => exact .cons hx h
    | succ i => exact .cons hy (ih i)

namespace Tie

variable {T : Tie} {s s' t t' : Session}

/-- Arrays of values that correspond. -/
def AllAlike (T : Tie) (s s' : Session) (vs vs' : Array Value) : Prop :=
  List.Forall₂ (T.Alike s s') vs.toList vs'.toList

namespace Lawful

variable (law : T.Lawful)

include law

/-! ### Changes that keep sessions tied -/

/-- What is neither a name nor an array of a session can be changed on both sides alike. -/
theorem alike_congr {v v' : Value} (h : T.Alike s s' v v') (left : s.SameScopes t)
    (right : s'.SameScopes t') : T.Alike t t' v v' :=
  law.alike_mono h left.extends right.extends

theorem elements_mono (tied : T.Tied s s') (left : s.Extends t) (right : s'.Extends t')
    (a : ArrayId) : List.Forall₂ (T.Alike t t') (s.store.elements a).toList
      (s'.store.elements a).toList :=
  law.allAlike_mono (tied.elements a) left right

theorem tied_define (tied : T.Tied s s') {x x' : Token} {v v' : Value}
    (binds : T.binds s s' x x') (h : T.Alike s s' v v') :
    T.Tied (s.define x.lexeme v) (s'.define x'.lexeme v') :=
  have elements := law.elements_mono tied (s.grows_define x.lexeme v).toExtends
    (s'.grows_define x'.lexeme v').toExtends
  { tied with
    elements := elements
    scoping := law.define tied.scoping binds h }

theorem tied_replace (tied : T.Tied s s') {x x' : String} {f f' : FrameId} {v v' : Value}
    (scoping : T.scoping (s.replace f x v) (s'.replace f' x' v')) :
    T.Tied (s.replace f x v) (s'.replace f' x' v') :=
  have elements := law.elements_mono tied (s.grows_replace f x v).toExtends
    (s'.grows_replace f' x' v').toExtends
  { tied with
    elements := elements
    scoping := scoping }

theorem tied_enter (tied : T.Tied s s') {o o' : Origin} {f f' : FrameId}
    (scoping : T.scoping (s.enter o f) (s'.enter o' f')) :
    T.Tied (s.enter o f) (s'.enter o' f') :=
  have elements := law.elements_mono tied (s.extends_enter o f) (s'.extends_enter o' f')
  { tied with
    elements := elements
    scoping := scoping }

/-! ### Steps of their own -/

theorem agree_define (tied : T.Tied s s') {x x' : Token} {v v' : Value}
    (binds : T.binds s s' x x') (h : T.Alike s s' v v') :
    T.Agree s s' (fun _ _ _ _ => True) (Eval.define x.lexeme v) (Eval.define x'.lexeme v') :=
  .change (law.tied_define tied binds h) (s.grows_define _ _) (s'.grows_define _ _) trivial

theorem agree_print (tied : T.Tied s s') (text : String) :
    T.Agree s s' (fun _ _ _ _ => True) (Eval.print text) (Eval.print text) := by
  have left : s.SameScopes { s with output := s.output.print text } :=
    ⟨rfl, rfl, rfl, Nat.le_refl _⟩
  have right : s'.SameScopes { s' with output := s'.output.print text } :=
    ⟨rfl, rfl, rfl, Nat.le_refl _⟩
  have elements := law.elements_mono tied left.extends right.extends
  refine .change ?_ ⟨left.extends, rfl, rfl⟩ ⟨right.extends, rfl, rfl⟩ trivial
  exact { tied with
    elements := elements
    output := by rw [tied.output]
    scoping := law.scoping_congr tied.scoping left right }

/-- A read of the input gives the same and leaves the same. -/
theorem agree_read {α : Type} (tied : T.Tied s s') (f : Input → α × Input) :
    T.Agree s s' Same
      (modifyGet (m := Eval) fun s => ((f s.input).1, { s with input := (f s.input).2 }))
      (modifyGet (m := Eval) fun s => ((f s.input).1, { s with input := (f s.input).2 })) := by
  have left : s.SameScopes { s with input := (f s.input).2 } := ⟨rfl, rfl, rfl, Nat.le_refl _⟩
  have right : s'.SameScopes { s' with input := (f s'.input).2 } := ⟨rfl, rfl, rfl, Nat.le_refl _⟩
  have elements := law.elements_mono tied left.extends right.extends
  refine .ok ?_ ⟨left.extends, rfl, rfl⟩ ⟨right.extends, rfl, rfl⟩ (by rw [Same, tied.input])
  exact { tied with
    elements := elements
    input := by rw [tied.input]
    scoping := law.scoping_congr tied.scoping left right }

theorem agree_newFunction (tied : T.Tied s s') :
    T.Agree s s' Same (Eval.changeStore Store.newFunction)
      (Eval.changeStore Store.newFunction) := by
  have left : s.SameScopes { s with store := s.store.newFunction.2 } :=
    ⟨rfl, rfl, rfl, Nat.le_refl _⟩
  have right : s'.SameScopes { s' with store := s'.store.newFunction.2 } :=
    ⟨rfl, rfl, rfl, Nat.le_refl _⟩
  have elements := law.elements_mono tied left.extends right.extends
  refine .ok ?_ ⟨left.extends, rfl, rfl⟩ ⟨right.extends, rfl, rfl⟩ ?_
  · exact { tied with
      elements := elements
      functions := congrArg (· + 1) tied.functions
      scoping := law.scoping_congr tied.scoping left right }
  · exact congrArg FunctionId.mk tied.functions.symm

theorem agree_newArray (tied : T.Tied s s') {vs vs' : Array Value} (h : T.AllAlike s s' vs vs') :
    T.Agree s s' T.Alike (Eval.newArray vs) (Eval.newArray vs') := by
  have left : s.SameScopes { s with store := (s.store.newArray vs).2 } :=
    ⟨rfl, rfl, rfl, Nat.le_refl _⟩
  have right : s'.SameScopes { s' with store := (s'.store.newArray vs').2 } :=
    ⟨rfl, rfl, rfl, Nat.le_refl _⟩
  have elements := law.elements_mono tied left.extends right.extends
  have same : (s'.store.newArray vs').1 = (s.store.newArray vs).1 := by
    simp [Store.newArray, tied.arrays]
  have tied' : T.Tied { s with store := (s.store.newArray vs).2 }
      { s' with store := (s'.store.newArray vs').2 } :=
    { tied with
      arrays := by simp [Store.newArray, tied.arrays]
      elements := fun a => by
        simp only [Store.elements_newArray, tied.arrays]
        split
        · exact law.allAlike_mono h left.extends right.extends
        · exact elements a
      scoping := law.scoping_congr tied.scoping left right }
  exact .ok tied' ⟨left.extends, rfl, rfl⟩ ⟨right.extends, rfl, rfl⟩
    (Alike.array_iff.2 (congrArg Value.array same))

theorem agree_setAt (tied : T.Tied s s') (a : ArrayId) (i : Nat) {v v' : Value}
    (h : T.Alike s s' v v') :
    T.Agree s s' (fun _ _ _ _ => True) (Eval.modifyStore fun s => s.setAt a i v)
      (Eval.modifyStore fun s => s.setAt a i v') := by
  have left : s.SameScopes { s with store := s.store.setAt a i v } :=
    ⟨rfl, rfl, rfl, Nat.le_refl _⟩
  have right : s'.SameScopes { s' with store := s'.store.setAt a i v' } :=
    ⟨rfl, rfl, rfl, Nat.le_refl _⟩
  have elements := law.elements_mono tied left.extends right.extends
  refine .change ?_ ⟨left.extends, rfl, rfl⟩ ⟨right.extends, rfl, rfl⟩ trivial
  exact { tied with
    arrays := by simp [Store.setAt, tied.arrays]
    elements := fun b => by
      rw [Store.elements_setAt, Store.elements_setAt]
      split
      · simpa using forall₂_set (elements a) i (law.alike_congr h left right)
      · exact elements b
    scoping := law.scoping_congr tied.scoping left right }

omit law in
/-- Outcomes that correspond, as outcomes of steps. -/
theorem agree_ofExcept {α α' : Type} {post : Session → Session → α → α' → Prop}
    (tied : T.Tied s s') {x x' : Token} {r : Except Fault α} {r' : Except Fault α'}
    (diag : ∀ f, T.diag (.runtime x.location f) (.runtime x'.location f))
    (h : Gives (post s s') r r') :
    T.Agree s s' post (Eval.ofExcept x r) (Eval.ofExcept x' r') := by
  cases h with
  | ok h => exact .pure tied h
  | error f => exact .fail tied (diag f)

theorem agree_setElement (tied : T.Tied s s') {x x' : Token} {v v' i i' w w' : Value}
    (diag : ∀ f, T.diag (.runtime x.location f) (.runtime x'.location f))
    (hv : T.Alike s s' v v') (hi : T.Alike s s' i i') (hw : T.Alike s s' w w') :
    T.Agree s s' (fun _ _ _ _ => True) (Eval.setElement x v i w) (Eval.setElement x' v' i' w') := by
  refine .bind_same (.readStore tied (tied.elementPlace hv hi).symm) fun t t' r tied left right => ?_
  refine .bind_same ?_ fun u u' place tied' left' right' => ?_
  · match r with
    | .ok place => exact .pure tied rfl
    | .error (.fault f) => exact .fail tied (diag f)
    | .error .aliased => exact .throw tied .crashed
  · have hw := law.alike_mono hw (left.trans left').toExtends (right.trans right').toExtends
    exact law.agree_setAt tied' place.1 place.2 hw

/-! ### Steps within steps -/

omit law in
/-- An evaluation in changed sessions that are changed back however it ends. -/
theorem ends_restored {α α' : Type} {post post' : Session → Session → α → α' → Prop}
    {u u' : Session} {r : EStateM.Result Exit Session α} {r' : EStateM.Result Exit Session α'}
    {back back' : Session → Session} (h : T.Ends u u' post r r')
    (tied : ∀ t t', T.Tied t t' → T.Tied (back t) (back' t'))
    (left : ∀ t, u.Grows t → s.Grows (back t)) (right : ∀ t', u'.Grows t' → s'.Grows (back' t'))
    (imp : ∀ t t' a a', post t t' a a' → post' (back t) (back' t') a a') :
    T.Ends s s' post' (Eval.restored back r) (Eval.restored back' r') := by
  cases h with
  | ok ht hl hr h => exact .ok (tied _ _ ht) (left _ hl) (right _ hr) (imp _ _ _ _ h)
  | error ht hl hr h => exact .error (tied _ _ ht) (left _ hl) (right _ hr) h

/-- The frame of a session does not matter for what is tied. -/
theorem tied_frame (tied : T.Tied s s') (f f' : FrameId) :
    T.Tied { s with frame := f } { s' with frame := f' } := by
  have left : s.SameScopes { s with frame := f } := ⟨rfl, rfl, rfl, Nat.le_refl _⟩
  have right : s'.SameScopes { s' with frame := f' } := ⟨rfl, rfl, rfl, Nat.le_refl _⟩
  have elements := law.elements_mono tied left.extends right.extends
  exact { tied with
    elements := elements
    scoping := law.scoping_congr tied.scoping left right }

omit law in
/-- The frame, the directory and the files that are being imported are no matter of scopes. -/
theorem sameScopes_moved (s : Session) (f : FrameId) (base : Path) (importing : List Place) :
    s.SameScopes { s with frame := f, baseDirectory := base, importing := importing } :=
  ⟨rfl, rfl, rfl, Nat.le_refl _⟩

/-- An evaluation can take place elsewhere. -/
theorem tied_moved (tied : T.Tied s s') (f f' : FrameId) (base : Path) (importing : List Place) :
    T.Tied { s with frame := f, baseDirectory := base, importing := importing }
      { s' with frame := f', baseDirectory := base, importing := importing } := by
  have left := sameScopes_moved s f base importing
  have right := sameScopes_moved s' f' base importing
  have elements := law.elements_mono tied left.extends right.extends
  exact { tied with
    elements := elements
    baseDirectory := rfl
    importing := rfl
    scoping := law.scoping_congr tied.scoping left right }

/-- A step in a new frame. -/
theorem agree_inNewFrame (tied : T.Tied s s') {o o' : Origin} {f f' : FrameId}
    {act act' : Eval Value} (scoping : T.scoping (s.enter o f) (s'.enter o' f'))
    (h : T.Tied (s.enter o f) (s'.enter o' f') →
      T.Agree (s.enter o f) (s'.enter o' f') T.Alike act act') :
    T.Agree s s' T.Alike (Eval.inNewFrame o f act) (Eval.inNewFrame o' f' act') := by
  have same (t : Session) (f : FrameId) := sameScopes_moved t f t.baseDirectory t.importing
  rw [Agree, Eval.inNewFrame_eq, Eval.inNewFrame_eq]
  refine ends_restored (h (law.tied_enter tied scoping)) (fun t t' tied => law.tied_frame tied _ _)
    (fun t left => ?_) (fun t right => ?_) fun t t' v v' h => law.alike_congr h (same _ _) (same _ _)
  · exact ⟨(s.extends_enter o f).trans (left.toExtends.trans (same _ _).extends), rfl,
      left.baseDirectory⟩
  · exact ⟨(s'.extends_enter o' f').trans (right.toExtends.trans (same _ _).extends), rfl,
      right.baseDirectory⟩

section

variable {α α' : Type} {post : Session → Session → α → α' → Prop} {act : Eval α} {act' : Eval α'}

/-- A step in another frame. -/
theorem agree_inFrame (tied : T.Tied s s') (f f' : FrameId)
    (congr : ∀ {t t' u u' a a'}, post t t' a a' → t.SameScopes u → t'.SameScopes u' →
      post u u' a a')
    (h : T.Tied { s with frame := f } { s' with frame := f' } →
      T.Agree { s with frame := f } { s' with frame := f' } post act act') :
    T.Agree s s' post (Eval.inFrame f act) (Eval.inFrame f' act') := by
  have same (t : Session) (f : FrameId) := sameScopes_moved t f t.baseDirectory t.importing
  rw [Agree, Eval.inFrame_eq, Eval.inFrame_eq]
  refine ends_restored (h (law.tied_frame tied f f')) (fun t t' tied => law.tied_frame tied _ _)
    (fun t left => ?_) (fun t right => ?_) fun t t' v v' h => congr h (same _ _) (same _ _)
  · exact ⟨(same s f).extends.trans (left.toExtends.trans (same t _).extends), rfl,
      left.baseDirectory⟩
  · exact ⟨(same s' f').extends.trans (right.toExtends.trans (same t _).extends), rfl,
      right.baseDirectory⟩

/-- A step with imports seen from elsewhere. -/
theorem agree_inDirectory (tied : T.Tied s s') (base : Path)
    (congr : ∀ {t t' u u' a a'}, post t t' a a' → t.SameScopes u → t'.SameScopes u' →
      post u u' a a')
    (h : T.Tied { s with baseDirectory := base } { s' with baseDirectory := base } →
      T.Agree { s with baseDirectory := base } { s' with baseDirectory := base } post act act') :
    T.Agree s s' post (Eval.inDirectory base act) (Eval.inDirectory base act') := by
  have same (t : Session) (base : Path) := sameScopes_moved t t.frame base t.importing
  rw [Agree, Eval.inDirectory_eq, Eval.inDirectory_eq, tied.baseDirectory]
  refine ends_restored (h (tied.importing ▸ law.tied_moved tied s.frame s'.frame base s.importing))
    (fun t t' tied => tied.importing ▸ law.tied_moved tied t.frame t'.frame s.baseDirectory t.importing)
    (fun t left => ?_) (fun t right => ?_) fun t t' v v' h => congr h (same _ _) (same _ _)
  · exact ⟨(same s base).extends.trans (left.toExtends.trans (same t _).extends), left.frame, rfl⟩
  · exact ⟨(same s' base).extends.trans (right.toExtends.trans (same t _).extends), right.frame,
      tied.baseDirectory.symm⟩

/-- A step while a file is being imported. -/
theorem agree_whileImporting (tied : T.Tied s s') (place : Place)
    (congr : ∀ {t t' u u' a a'}, post t t' a a' → t.SameScopes u → t'.SameScopes u' →
      post u u' a a')
    (h : T.Tied { s with importing := place :: s.importing }
        { s' with importing := place :: s'.importing } →
      T.Agree { s with importing := place :: s.importing }
        { s' with importing := place :: s'.importing } post act act') :
    T.Agree s s' post (Eval.whileImporting place act) (Eval.whileImporting place act') := by
  have same (t : Session) (importing : List Place) :=
    sameScopes_moved t t.frame t.baseDirectory importing
  have moved {t t' : Session} (tied : T.Tied t t') (importing : List Place) :
      T.Tied { t with importing := importing } { t' with importing := importing } :=
    tied.baseDirectory ▸ law.tied_moved tied t.frame t'.frame t.baseDirectory importing
  rw [Agree, Eval.whileImporting_eq, Eval.whileImporting_eq]
  refine ends_restored (h (tied.importing ▸ moved tied _)) (fun t t' h => tied.importing ▸ moved h _)
    (fun t left => ?_) (fun t right => ?_) fun t t' v v' h => congr h (same _ _) (same _ _)
  · exact ⟨(same s _).extends.trans (left.toExtends.trans (same t _).extends), left.frame,
      left.baseDirectory⟩
  · exact ⟨(same s' _).extends.trans (right.toExtends.trans (same t _).extends), right.frame,
      right.baseDirectory⟩

end

end Lawful

end Tie

end FoxScript
