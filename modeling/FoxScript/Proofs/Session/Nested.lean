import FoxScript.Proofs.Session.Steps

/-!
# Names and programs in tied sessions

What steps that evaluate other expressions do in two tied sessions at once, provided that those
expressions can be evaluated side by side: uses and bindings of names, programs, evaluated texts and
imports.

## Main definitions

* `Tie.Simulates`: expressions that are ready can be evaluated side by side.

## Main statements

* `Tie.Lawful.agree_valueOf`, `Tie.Lawful.agree_closure`: names and functions.
* `Tie.Lawful.agree_interpret`, `Tie.Lawful.agree_importFile`: programs and files.
-/
namespace FoxScript

namespace Tie

variable {T : Tie} {s s' t t' : Session} {α α' : Type}

/-- Expressions that are ready can be evaluated side by side. -/
def Simulates (T : Tie) (eval eval' : Expr → Eval Value) : Prop :=
  ∀ s s' e e', T.Tied s s' → T.ready s s' e e' → T.Agree s s' T.Alike (eval e) (eval' e')

/-- Outcomes of nested programs that correspond. -/
inductive Settled (T : Tie) (s s' : Session) :
    Except (List Diagnostic) Value → Except (List Diagnostic) Value → Prop
  /-- Both have a value. -/
  | ok {v v' : Value} (h : T.Alike s s' v v') : Settled T s s' (.ok v) (.ok v')
  /-- Both fail. -/
  | error {ds ds' : List Diagnostic} (h : List.Forall₂ T.diag ds ds') :
    Settled T s s' (.error ds) (.error ds')

/-! ### What happens to ends -/

namespace Agree

variable {post : Session → Session → α → α' → Prop} {act : Eval α} {act' : Eval α'}

theorem untilBreak (h : T.Agree s s' post act act') :
    T.Agree s s' (fun t t' => Option.Rel (post t t')) (Eval.untilBreak act)
      (Eval.untilBreak act') := by
  simp only [Agree, Eval.untilBreak] at h ⊢
  generalize act s = r, act' s' = r' at h ⊢
  cases h with
  | ok tied left right h => exact .ok tied left right (.some h)
  | error tied left right h =>
    cases h with
    | broke keyword => exact .ok tied left right .none
    | failed h => exact .error tied left right (.failed h)
    | crashed => exact .error tied left right .crashed
    | exhausted => exact .error tied left right .exhausted

theorem contained {act act' : Eval Value} (h : T.Agree s s' T.Alike act act') :
    T.Agree s s' T.Settled (Eval.contained act) (Eval.contained act') := by
  simp only [Agree, Eval.contained] at h ⊢
  generalize act s = r, act' s' = r' at h ⊢
  cases h with
  | ok tied left right h => exact .ok tied left right (.ok h)
  | error tied left right h =>
    cases h with
    | broke keyword => exact .error tied left right (.broke keyword)
    | failed h => exact .ok tied left right (.error (.cons h .nil))
    | crashed => exact .error tied left right .crashed
    | exhausted => exact .error tied left right .exhausted

end Agree

namespace Lawful

variable (law : T.Lawful)

include law

theorem agree_confined {post : Session → Session → α → α' → Prop} {act : Eval α} {act' : Eval α'}
    (h : T.Agree s s' post act act') :
    T.Agree s s' post (Eval.confined act) (Eval.confined act') := by
  simp only [Agree, Eval.confined] at h ⊢
  generalize act s = r, act' s' = r' at h ⊢
  cases h with
  | ok tied left right h => exact .ok tied left right h
  | error tied left right h =>
    cases h with
    | broke keyword => exact .error tied left right (.failed (law.diag_refl _))
    | failed h => exact .error tied left right (.failed h)
    | crashed => exact .error tied left right .crashed
    | exhausted => exact .error tied left right .exhausted

theorem agree_fail {post : Session → Session → α → α' → Prop} (tied : T.Tied s s') (x : Token)
    (f : Fault) : T.Agree s s' post (Eval.fail x f) (Eval.fail x f) :=
  .fail tied (law.diag_refl _)

theorem agree_builtinFault {post : Session → Session → α → α' → Prop} (tied : T.Tied s s')
    (x : Token) (f : BuiltinFault) :
    T.Agree s s' post (Eval.builtinFault x f) (Eval.builtinFault x f) :=
  law.agree_fail tied x (.builtin f)

/-! ### Names -/

theorem agree_ownerOf (tied : T.Tied s s') {id id' : NodeId} {x x' : Token}
    (use : T.uses s s' id x id' x') :
    T.Agree s s' (fun t t' f f' => T.Meets t t' x x' (.ok f) (.ok f')) (Eval.ownerOf id x)
      (Eval.ownerOf id' x') := by
  have meets := law.meets tied.scoping use
  change T.Agree s s' _ (Eval.ofExcept x (s.owner id x)) (Eval.ofExcept x' (s'.owner id' x'))
  revert meets
  generalize s.owner id x = r, s'.owner id' x' = r'
  intro meets
  cases meets with
  | ok value replace => exact .pure tied (.ok value replace)
  | error diag => exact .fail tied diag

theorem agree_valueOf (tied : T.Tied s s') {id id' : NodeId} {x x' : Token}
    (use : T.uses s s' id x id' x') :
    T.Agree s s' T.Alike (Eval.valueOf id x) (Eval.valueOf id' x') := by
  refine (law.agree_ownerOf tied use).bind fun t t' f f' tied left right meets => ?_
  cases meets with
  | ok value replace => exact .ok tied (.refl t) (.refl t') value

theorem agree_closure (tied : T.Tied s s') {name : Option Token} {params params' : List Token}
    {e e' : Expr} (binds : ∀ x ∈ name, T.binds s s' x x)
    (closure : T.closure s s' ⟨params, e, s.frame⟩ ⟨params', e', s'.frame⟩) :
    T.Agree s s' T.Alike (Eval.closure name params e) (Eval.closure name params' e') := by
  refine .bind_same (law.agree_newFunction tied) fun t t' id tied left right => ?_
  have closure := law.closure_mono closure left.toExtends right.toExtends
  rw [← left.frame, ← right.frame] at closure
  have alike : T.Alike t t' (.function (.closure id name params e t.frame))
      (.function (.closure id name params' e' t'.frame)) := .closure id name closure
  cases name with
  | none => exact .pure tied alike
  | some x =>
    have bound := law.binds_mono (binds x rfl) left right
    change T.Agree t t' T.Alike
      (Eval.define x.lexeme (.function (.closure id x params e t.frame)) >>= fun _ => pure _)
      (Eval.define x.lexeme (.function (.closure id x params' e' t'.frame)) >>= fun _ => pure _)
    refine (law.agree_define tied bound alike).bind fun u u' _ _ tied left right _ => ?_
    exact .pure tied (law.alike_mono alike left.toExtends right.toExtends)

theorem agree_bindParameters {params params' : List Token} {vs vs' : List Value}
    (tied : T.Tied s s') (hp : List.Forall₂ (T.binds s s') params params')
    (hv : List.Forall₂ (T.Alike s s') vs vs') :
    T.Agree s s' (fun _ _ _ _ => True) (Eval.bindParameters params vs)
      (Eval.bindParameters params' vs') := by
  induction params generalizing s s' params' vs vs' with
  | nil =>
    cases hp
    exact .pure tied trivial
  | cons x params ih =>
    cases hp with
    | cons hx hp =>
      cases hv with
      | nil => exact .pure tied trivial
      | cons h hv =>
        refine (law.agree_define tied hx h).bind fun t t' _ _ tied left right _ => ?_
        exact ih tied (hp.imp fun _ _ h => law.binds_mono h left right)
          (law.allAlike_mono hv left.toExtends right.toExtends)

/-! ### Nested programs -/

section

variable {eval eval' : Expr → Eval Value} (sim : T.Simulates eval eval')

include sim

theorem agree_last {es es' : List Expr} (tied : T.Tied s s')
    (ready : List.Forall₂ (T.ready s s') es es') {v v' : Value} (h : T.Alike s s' v v') :
    T.Agree s s' T.Alike (Eval.last eval v es) (Eval.last eval' v' es') := by
  induction es generalizing s s' es' v v' with
  | nil =>
    cases ready
    exact .pure tied h
  | cons e es ih =>
    cases ready with
    | cons he ready =>
      refine (sim _ _ _ _ tied he).bind fun t t' w w' tied left right h => ?_
      exact ih tied (law.allReady_mono ready left right) h

theorem agree_all {es es' : List Expr} (tied : T.Tied s s')
    (ready : List.Forall₂ (T.ready s s') es es') {vs vs' : Array Value}
    (h : T.AllAlike s s' vs vs') :
    T.Agree s s' T.AllAlike (Eval.all eval vs es) (Eval.all eval' vs' es') := by
  induction es generalizing s s' es' vs vs' with
  | nil =>
    cases ready
    exact .pure tied h
  | cons e es ih =>
    cases ready with
    | cons he ready =>
      refine (sim _ _ _ _ tied he).bind fun t t' w w' tied left right hw => ?_
      refine ih tied (law.allReady_mono ready left right) ?_
      rw [AllAlike, Array.toList_push, Array.toList_push]
      exact List.rel_append (law.allAlike_mono h left.toExtends right.toExtends) (.cons hw .nil)

theorem agree_interpret {es es' : List Expr} (tied : T.Tied s s')
    (ready : List.Forall₂ (T.ready s s') es es') :
    T.Agree s s' T.Alike (Eval.interpret eval es) (Eval.interpret eval' es') :=
  law.agree_confined (law.agree_last sim tied ready .null)

omit sim in
/-- Compilation of a text gives the same program on both sides, which is ready then. -/
theorem scoping_compile (lends : T.lends .eval) (tied : T.Tied s s') (root : s.frame = Store.root)
    (root' : s'.frame = Store.root) (source : String) :
    T.scoping (s.compile source).2 (s'.compile source).2 ∧
      ∀ program, (s.compile source).1 = .ok program →
        List.Forall₂ (T.ready (s.compile source).2 (s'.compile source).2) program program := by
  have same := s.compile_congr tied.fresh tied.files tied.policy tied.baseDirectory source
  rcases h : s.compile source with ⟨ds | program, t⟩ <;>
    rcases h' : s'.compile source with ⟨ds' | program', t'⟩ <;>
    rw [h, h'] at same
  · obtain ⟨n, le, rfl⟩ := Session.compile_error h
    obtain ⟨n', le', rfl⟩ := Session.compile_error h'
    exact ⟨law.scoping_congr tied.scoping ⟨rfl, rfl, rfl, le⟩ ⟨rfl, rfl, rfl, le'⟩, by simp⟩
  · cases same.1
  · cases same.1
  · obtain rfl := Except.ok.inj same.1
    obtain ⟨scoping, ready⟩ := law.compile lends tied root root' h h'
    refine ⟨scoping, fun p hp => ?_⟩
    obtain rfl := Except.ok.inj hp
    exact List.forall₂_same.2 ready

omit sim in
theorem tied_compile (lends : T.lends .eval) (tied : T.Tied s s') (root : s.frame = Store.root)
    (root' : s'.frame = Store.root) (source : String) :
    T.Tied (s.compile source).2 (s'.compile source).2 := by
  have same := s.compile_congr tied.fresh tied.files tied.policy tied.baseDirectory source
  have scoping := (law.scoping_compile lends tied root root' source).1
  have elements := law.elements_mono tied (s.grows_compile source).toExtends
    (s'.grows_compile source).toExtends
  obtain ⟨fresh, hops, programs, h⟩ := s.compile_snd source
  obtain ⟨fresh', hops', programs', h'⟩ := s'.compile_snd source
  rw [h, h'] at scoping elements same ⊢
  exact { tied with
    elements := elements
    fresh := same.2
    scoping := scoping }

omit sim in
theorem agree_compile (lends : T.lends .eval) (tied : T.Tied s s') (root : s.frame = Store.root)
    (root' : s'.frame = Store.root) (source : String) :
    T.Agree s s' (fun t t' r r' => r' = r ∧
        ∀ program, r = .ok program → List.Forall₂ (T.ready t t') program program)
      (modifyGet fun s => s.compile source) (modifyGet fun s => s.compile source) :=
  .ok (law.tied_compile lends tied root root' source) (s.grows_compile source)
    (s'.grows_compile source)
    ⟨(s.compile_congr tied.fresh tied.files tied.policy tied.baseDirectory source).1,
      (law.scoping_compile lends tied root root' source).2⟩

/-- Compilation and evaluation of a text in the frame of global names. -/
theorem agree_compiled (lends : T.lends .eval) (tied : T.Tied s s') (root : s.frame = Store.root)
    (root' : s'.frame = Store.root) (source : String) :
    T.Agree s s' T.Settled
      (do
        match ← modifyGet fun s => s.compile source with
        | .error ds => return .error ds
        | .ok program => Eval.contained (Eval.interpret eval program))
      (do
        match ← modifyGet fun s => s.compile source with
        | .error ds => return .error ds
        | .ok program => Eval.contained (Eval.interpret eval' program)) := by
  refine (law.agree_compile lends tied root root' source).bind
    fun t t' r r' tied left right h => ?_
  obtain ⟨rfl, ready⟩ := h
  cases r' with
  | error ds => exact .pure tied (.error (List.forall₂_same.2 fun d _ => law.diag_refl d))
  | ok program => exact (law.agree_interpret sim tied (ready program rfl)).contained

omit sim in
theorem settled_congr {r r' : Except (List Diagnostic) Value} (h : T.Settled s s' r r')
    (left : s.SameScopes t) (right : s'.SameScopes t') : T.Settled t t' r r' := by
  cases h with
  | ok h => exact .ok (law.alike_congr h left right)
  | error h => exact .error h

/-- A text is run in the same way on both sides. -/
theorem agree_runNested (lends : T.lends .eval) (tied : T.Tied s s') (source : String)
    (base : Path) :
    T.Agree s s' T.Settled (Eval.runNested eval source base)
      (Eval.runNested eval' source base) := by
  refine law.agree_inDirectory tied base law.settled_congr fun tied => ?_
  refine law.agree_inFrame tied Store.root Store.root law.settled_congr fun tied => ?_
  exact law.agree_compiled sim lends tied rfl rfl source

omit sim law in
theorem agree_settle (tied : T.Tied s s') (x : Token) {describe : List Diagnostic → Fault}
    (diag : ∀ ds ds', List.Forall₂ T.diag ds ds' →
      T.diag (.runtime x.location (describe ds)) (.runtime x.location (describe ds')))
    {r r' : Except (List Diagnostic) Value} (h : T.Settled s s' r r') :
    T.Agree s s' T.Alike (Eval.settle x describe r) (Eval.settle x describe r') := by
  cases h with
  | ok h => exact .pure tied h
  | error h =>
    refine .get ?_
    rw [tied.policy]
    cases s.policy with
    | contain => exact .pure tied .null
    | propagate => exact .fail tied (diag _ _ h)

/-- A file is imported in the same way on both sides. -/
theorem agree_importFile (lends : T.lends .eval) (tied : T.Tied s s') (x : Token) :
    T.Agree s s' T.Alike (Eval.importFile eval x) (Eval.importFile eval' x) := by
  rw [Eval.importFile, Eval.importFile]
  split
  · exact law.agree_fail tied x _
  refine .get ?_
  split
  · rw [tied.baseDirectory]
    refine (law.agree_runNested sim lends tied _ _).bind fun t t' r r' tied _ _ h => ?_
    exact agree_settle tied x (fun _ _ => law.diag_import _ _) h
  simp only [tied.baseDirectory, tied.files, tied.importing]
  split
  · exact law.agree_fail tied x _
  split
  · exact law.agree_fail tied x _
  rename_i place source _ _
  have run (base : Path) : T.Agree s s' T.Settled
      (Eval.whileImporting place (Eval.runNested eval source base))
      (Eval.whileImporting place (Eval.runNested eval' source base)) :=
    law.agree_whileImporting tied place law.settled_congr fun tied =>
      law.agree_runNested sim lends tied source base
  refine (run _).bind fun t t' r r' tied _ _ h => ?_
  exact agree_settle tied x (fun _ _ => law.diag_import _ _) h

end

end Lawful

end Tie

end FoxScript
