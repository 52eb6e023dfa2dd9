import FoxScript.Proofs.Session.Discipline.Steps

/-!
# Programs under a discipline

Expressions that are evaluated one after the other keep what a lawful discipline says, provided that
each of them does when it is ready. So do programs, and so do programs inside of programs, with
what becomes of their failures.

## Main definitions

* `Discipline.Keeps`: expressions that are ready keep what is to be kept.
* `Discipline.InTurn`: each of several expressions is ready when those before have had their values.

## Main statements

* `Discipline.Lawful.does_last`, `Discipline.Lawful.does_all`: expressions one after the other.
* `Discipline.Lawful.does_interpret`: a program, which is accepted or known to be ready.
* `Discipline.Lawful.does_importFile`: a file that is imported.
-/
namespace FoxScript

namespace Discipline

variable {D : Discipline}

/-- The evaluation of expressions that are ready keeps what is to be kept: it ends with a value that
holds and with the names bound that are certain, or it fails in a possible way. A `break` that
leaves an expression is exposed in it. -/
def Keeps (D : Discipline) (eval eval' : Expr → Eval Value) : Prop :=
  ∀ s e, D.Tidy s → D.ready s e →
    D.Does s (fun _ k => k ∈ e.exposed ∧ D.watch s e) (fun t v => D.Holds t v ∧ t.Settled e)
      (eval e) (eval' e)

/-- From a session on, each of several expressions is ready when those that come before it have had
their values. -/
def InTurn (D : Discipline) (s : Session) (ps : List (List Expr × Expr)) : Prop :=
  ∀ t, D.After s t → ∀ p ∈ ps, (∀ d ∈ p.1, t.Settled d) → D.ready t p.2

/-- A `break` leaves one of several expressions. -/
def Leaves (D : Discipline) (s : Session) (es : List Expr) (t : Session) (k : Token) : Prop :=
  ∃ e ∈ es, ∃ u, D.After s u ∧ u.Advances t ∧ D.ready u e ∧ D.watch u e ∧ k ∈ e.exposed

/-- A program can be evaluated in a session. -/
structure Runs (D : Discipline) (s : Session) (program : List Expr) : Prop where
  /-- Its expressions are ready one after the other. -/
  inTurn : D.InTurn s (Expr.inOrder [] program)
  /-- A `break` that leaves one of them can leave the program. -/
  stray : ∀ t k, D.Leaves s program t k → D.raises t (.runtime k.location .breakOutsideLoop)

variable {s t : Session} {breaks : Session → Token → Prop} {before : List Expr}

theorem InTurn.from {ps : List (List Expr × Expr)} (h : D.InTurn s ps) (after : D.After s t) :
    D.InTurn t ps := fun u later => h u (after.trans later)

theorem InTurn.subset {ps qs : List (List Expr × Expr)} (h : D.InTurn s ps) (sub : qs ⊆ ps) :
    D.InTurn s qs := fun t after p hp => h t after p (sub hp)

theorem InTurn.of_ready (law : D.Lawful) {e : Expr} (ready : D.ready s e) :
    D.InTurn s e.schedule := fun _ after _ hp settled =>
  law.parts (law.ready_mono ready after.advances after.frame) hp settled

theorem Leaves.mem_exposedBy {es : List Expr} {k : Token} (h : D.Leaves s es t k) :
    k ∈ Expr.exposedBy es := by
  obtain ⟨e, he, -, -, -, -, -, hk⟩ := h
  exact Expr.mem_exposedBy.2 ⟨e, he, hk⟩

theorem After.settled_cons {e : Expr} (after : D.After s t) (h : ∀ d ∈ before, s.Settled d)
    (he : t.Settled e) : ∀ d ∈ e :: before, t.Settled d :=
  List.forall_mem_cons.2 ⟨he, fun d hd => after.settled (h d hd)⟩

namespace Lawful

variable (law : D.Lawful)

include law

section

variable {eval eval' : Expr → Eval Value} (keeps : D.Keeps eval eval')

include keeps

/-! ### Expressions one after the other -/

omit law in
theorem does_last {es : List Expr} {v : Value} (tidy : D.Tidy s) (h : D.Holds s v)
    (settled : ∀ d ∈ before, s.Settled d) (inTurn : D.InTurn s (Expr.inOrder before es)) :
    D.Does s (D.Leaves s es) D.Holds (Eval.last eval v es) (Eval.last eval' v es) := by
  induction es generalizing s v before with
  | nil => exact .pure tidy h
  | cons e es ih =>
    have ready := inTurn s (.refl tidy) _ List.mem_cons_self settled
    have rest := inTurn.subset (List.subset_cons_self _ _)
    refine ((keeps s e tidy ready).leave fun t k after hk => ?_).bind fun t w after _ hw => ?_
    · exact ⟨e, List.mem_cons_self, s, .refl tidy, after.advances, ready, hk.2, hk.1⟩
    · refine (ih after.tidy hw.1 (after.settled_cons settled hw.2)
        (rest.from after)).leave fun u k _ hk => ?_
      obtain ⟨d, hd, u', later, rest⟩ := hk
      exact ⟨d, List.mem_cons_of_mem _ hd, u', after.trans later, rest⟩

theorem does_all {es : List Expr} {vs : Array Value} (tidy : D.Tidy s) (h : D.AllHold s vs)
    (settled : ∀ d ∈ before, s.Settled d) (inTurn : D.InTurn s (Expr.inOrder before es)) :
    D.Does s (fun _ k => k ∈ Expr.exposedBy es)
      (fun t ws => D.AllHold t ws ∧ ∀ e ∈ es, t.Settled e) (Eval.all eval vs es)
      (Eval.all eval' vs es) := by
  induction es generalizing s vs before with
  | nil => exact .pure tidy ⟨h, nofun⟩
  | cons e es ih =>
    have ready := inTurn s (.refl tidy) _ List.mem_cons_self settled
    have rest := inTurn.subset (List.subset_cons_self _ _)
    refine ((keeps s e tidy ready).leave fun t k _ hk => ?_).bind fun t w after _ hw => ?_
    · exact List.mem_append_left _ hk.1
    · have all : D.AllHold t (vs.push w) := by
        intro v hv
        obtain hv | rfl := Array.mem_push.1 hv
        · exact (h v hv).mono law after.advances
        · exact hw.1
      refine (ih after.tidy all (after.settled_cons settled hw.2)
        (rest.from after)).weaken (fun u k _ hk => ?_) fun u ws later hws => ?_
      · exact List.mem_append_right _ hk
      · exact ⟨hws.1, List.forall_mem_cons.2 ⟨later.settled hw.2, hws.2⟩⟩

/-! ### Programs -/

omit keeps in
/-- An accepted program can be evaluated in the frame of global names. -/
theorem runs_of_accepted (root : s.frame = Store.root) {q : Path × List Expr}
    (accepted : q ∈ s.programs) : D.Runs s q.2 where
  inTurn t after p hp _ := law.programs after.tidy.sound (after.frame.trans root)
    (after.advances.programs accepted) (Expr.mem_of_inOrder hp)
  stray t k hk := by
    obtain ⟨e, he, u, after, later, ready, watch, hk⟩ := hk
    have starts : u.Starts e :=
      .inr ⟨after.frame.trans root, q, after.advances.programs accepted, he⟩
    exact law.raises_mono (law.raises_stray after.tidy.sound ready watch starts hk) later

omit law in
/-- No `break` leaves a program. One that would, has left an expression at its top. -/
theorem does_interpret {program : List Expr} (tidy : D.Tidy s) (runs : D.Runs s program) :
    D.Does s breaks D.Holds (Eval.interpret eval program) (Eval.interpret eval' program) :=
  (does_last keeps tidy (v := .null) (.of_data rfl) (List.forall_mem_nil _)
    runs.inTurn).confined fun t k _ => runs.stray t k

/-! ### Nested programs -/

omit keeps in
theorem after_compile (tidy : D.Tidy s) (source : String) : D.After s (s.compile source).2 := by
  have advances := s.advances_compile source
  have frame := (s.grows_compile source).frame
  have store := s.store_compile source
  have sound : D.sound (s.compile source).2 := by
    rcases compiled : s.compile source with ⟨ds | program, t⟩
    · obtain ⟨n, le, rfl⟩ := Session.compile_error compiled
      exact law.sound_back tidy.sound (.refl s) tidy.sound ⟨rfl, rfl, rfl, le⟩ rfl
    · exact law.compile tidy.sound compiled
  refine ⟨⟨sound, ?_, fun f x v hv => ?_, fun a v hv => ?_⟩, advances, frame⟩
  · rw [store, frame]
    exact tidy.active
  · rw [store] at hv
    exact (tidy.values f x v hv).mono law advances
  · rw [store] at hv
    exact (tidy.elements a v hv).mono law advances

/-- A text that is compiled and evaluated in the frame of global names. -/
theorem does_compiled (tidy : D.Tidy s) (root : s.frame = Store.root) (source : String) :
    D.Does s breaks D.Gives
      (do
        match ← modifyGet fun s => s.compile source with
        | .error ds => return .error ds
        | .ok program => Eval.contained (Eval.interpret eval program))
      (do
        match ← modifyGet fun s => s.compile source with
        | .error ds => return .error ds
        | .ok program => Eval.contained (Eval.interpret eval' program)) := by
  have compiles : D.Does s breaks (fun t r => (r, t) = s.compile source)
      (modifyGet fun s => s.compile source) (modifyGet fun s => s.compile source) :=
    .value rfl (law.after_compile tidy source) rfl
  refine compiles.bind fun t r after _ compiled => ?_
  cases r with
  | error ds =>
    refine .pure after.tidy fun d hd => .of_isStatic law ?_
    exact (Session.isStatic_of_compile compiled.symm).2 d hd
  | ok program =>
    have accepted : (s.baseDirectory, program) ∈ t.programs := by
      obtain ⟨n, le, numbered, faults, rfl⟩ := Session.compile_ok compiled.symm
      exact List.mem_cons_self
    have runs := law.runs_of_accepted (after.frame.trans root) accepted
    exact (does_interpret keeps after.tidy runs).contained

/-- A text that is run in the frame of global names, if that is allowed. -/
theorem does_runNested (tidy : D.Tidy s)
    (root : ∀ u, s.SameScopes u → u.frame = Store.root → D.sound u) (source : String)
    (base : Path) :
    D.Does s breaks D.Gives (Eval.runNested eval source base)
      (Eval.runNested eval' source base) := by
  refine law.does_inDirectory tidy base fun after => ?_
  refine law.does_inRoot after.tidy (root _ ⟨rfl, rfl, rfl, Nat.le_refl _⟩ rfl) fun tidy => ?_
  exact law.does_compiled keeps tidy rfl source

omit keeps law in
/-- What becomes of the failures of a nested program. -/
theorem does_settle (tidy : D.Tidy s) (x : Token) {describe : List Diagnostic → Fault}
    (nested : ∀ ds, (∀ d ∈ ds, D.Admits s d) → D.Admits s (.runtime x.location (describe ds)))
    {r : Except (List Diagnostic) Value} (h : D.Gives s r) :
    D.Does s breaks D.Holds (Eval.settle x describe r) (Eval.settle x describe r) := by
  cases r with
  | ok v => exact .pure tidy h
  | error ds =>
    refine .get ?_
    cases s.policy with
    | contain => exact .pure tidy (.of_data rfl)
    | propagate => exact .throw tidy (.failed (nested ds h))

omit keeps in
theorem admits_import (x : Location) (path : String) {ds : List Diagnostic}
    (h : ∀ d ∈ ds, D.Admits s d) : D.Admits s (.runtime x (.failedImport path (.nested ds))) := by
  intro c hc
  cases hc with
  | self => exact law.raises_runtime s x _ nofun
  | «import» _ _ mem hc => exact h _ mem c hc

omit keeps in
theorem admits_eval (x : Location) {ds : List Diagnostic} (h : ∀ d ∈ ds, D.Admits s d) :
    D.Admits s (.runtime x (.failedEval ds)) := by
  intro c hc
  cases hc with
  | self => exact law.raises_runtime s x _ nofun
  | eval _ mem hc => exact h _ mem c hc

/-- A file that is imported. -/
theorem does_importFile (tidy : D.Tidy s) (x : Token) (watch : D.watch s (.import x)) :
    D.Does s breaks D.Holds (Eval.importFile eval x) (Eval.importFile eval' x) := by
  have root {t : Session} (after : D.After s t) :=
    law.nests watch (.import x) after.advances after.tidy.sound
  have nested {t : Session} (path : String) (ds : List Diagnostic)
      (h : ∀ d ∈ ds, D.Admits t d) :
      D.Admits t (.runtime x.location (.failedImport path (.nested ds))) :=
    law.admits_import x.location path h
  rw [Eval.importFile, Eval.importFile]
  split
  · exact .fail law tidy x rfl
  refine .get ?_
  split
  · refine (law.does_runNested keeps tidy (root (.refl tidy)) _ _).bind fun t r after _ h => ?_
    exact does_settle after.tidy x (nested _) h
  dsimp only
  split
  · exact .fail law tidy x rfl
  split
  · exact .fail law tidy x rfl
  rename_i place source _ _
  have run (base : Path) : D.Does s breaks D.Gives
      (Eval.whileImporting place (Eval.runNested eval source base))
      (Eval.whileImporting place (Eval.runNested eval' source base)) :=
    law.does_whileImporting tidy place fun after =>
      law.does_runNested keeps after.tidy (root after) source base
  refine (run _).bind fun t r after _ h => ?_
  exact does_settle after.tidy x (nested _) h

end

end Lawful

end Discipline

end FoxScript
