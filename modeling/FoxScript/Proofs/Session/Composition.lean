import FoxScript.Proofs.Session.Uniform

/-!
# What evaluations are made of

Whatever an evaluation does, it is put together from a few kinds of steps: values and exits, looks at
the session, changes of the store, prints and reads, and steps within steps. Programs inside of
programs count as one step together with what becomes of their failures, which is all that depends
on the policy. So what holds of each kind of step, and of steps put together, holds of every
evaluation.

## Main definitions

* `Eval.Built`: the steps that are put together like this.
* `Eval.Preserved`: what each kind of step keeps from one session to the next.

## Main statements

* `Eval.built_evaluate`: every evaluation is built.
* `Eval.Preserved.run`: what each kind of step keeps is kept by every program.
* `Eval.importFile_eq_named`: what an import does.
-/
namespace FoxScript

namespace Eval

/-- A step that is put together from a few kinds of steps. -/
inductive Built : {α : Type} → Eval α → Prop
  /-- A value. -/
  | pure {α : Type} (a : α) : Built (pure a)
  /-- An exit, though not with a fault of a text. -/
  | throw {α : Type} {e : Exit} (h : e.isStatic = false) : Built (throw e : Eval α)
  /-- A step after another. -/
  | bind {α β : Type} {act : Eval α} {next : α → Eval β} (h : Built act)
    (hn : ∀ a, Built (next a)) : Built (act >>= next)
  /-- A step that depends on the session, though not on its policy. -/
  | look {α : Type} {next : Session → Eval α} (h : ∀ s, Built (next s))
    (blind : ∀ s policy, next { s with policy := policy } = next s) : Built (get >>= next)
  /-- A change of the store. -/
  | change {α : Type} {f : FrameId → Store → α × Store} (h : Change f) :
    Built (modifyGet fun s =>
      ((f s.frame s.store).1, { s with store := (f s.frame s.store).2 }))
  /-- A print. -/
  | print (text : String) : Built (print text)
  /-- A read of a line. -/
  | readLine :
    Built (modifyGet fun s => (s.input.readLine.1, { s with input := s.input.readLine.2 }))
  /-- A read of a byte. -/
  | readByte :
    Built (modifyGet fun s => (s.input.readByte.1, { s with input := s.input.readByte.2 }))
  /-- A step in another frame. -/
  | inFrame {α : Type} {act : Eval α} (f : FrameId) (h : Built act) : Built (inFrame f act)
  /-- A step that a `break` may end. -/
  | untilBreak {α : Type} {act : Eval α} (h : Built act) : Built (untilBreak act)
  /-- A step that no `break` may leave. -/
  | confined {α : Type} {act : Eval α} (h : Built act) : Built (confined act)
  /-- A text that is run, and what becomes of its failures. -/
  | text {eval : Expr → Eval Value} (h : ∀ program, Built (interpret eval program)) (t : Token)
    (describe : List Diagnostic → Fault) (source : String) (base : Path) :
    Built (runNested eval source base >>= settle t describe)
  /-- A file that is run, and what becomes of its failures. -/
  | file {eval : Expr → Eval Value} (h : ∀ program, Built (interpret eval program)) (t : Token)
    (describe : List Diagnostic → Fault) (source : String) (base : Path) (place : Place) :
    Built (whileImporting place (runNested eval source base) >>= settle t describe)

namespace Built

variable {eval : Expr → Eval Value} (h : ∀ e, Built (eval e))

include h

theorem interpret (program : List Expr) : Built (interpret eval program) := by
  have last (v : Value) : Built (last eval v program) := by
    induction program generalizing v with
    | nil => exact .pure v
    | cons e es ih => exact (h e).bind fun v => ih v
  exact (last .null).confined

/-- Steps that are uniform are built if what they are put around is. -/
theorem of_uniform {eval' : Expr → Eval Value} {α : Type} {act act' : Eval α}
    (same : Uniform eval eval' act act') : Built act := by
  induction same with
  | eval e => exact h e
  | pure a => exact .pure a
  | throw h => exact .throw h
  | bind _ _ ih ihn => exact ih.bind ihn
  | look _ blind ih => exact .look ih blind
  | change h => exact .change h
  | print text => exact .print text
  | readLine => exact .readLine
  | readByte => exact .readByte
  | inFrame f _ ih => exact ih.inFrame f
  | untilBreak _ ih => exact ih.untilBreak
  | confined _ ih => exact ih.confined
  | text t describe source base => exact .text (interpret h) t describe source base

theorem importFile (t : Token) : Built (importFile eval t) := by
  have fails (f : Fault) : Built (fail t f : Eval Value) := .throw rfl
  unfold Eval.importFile
  split
  · exact fails _
  · refine .look (fun s => ?_) fun _ _ => rfl
    split
    · exact .text (interpret h) t _ _ _
    · dsimp only
      split
      · exact fails _
      · split
        · exact fails _
        · exact .file (interpret h) t _ _ _ _

/-- One step is built if the evaluations inside are. -/
theorem step (rounds : Nat) (e : Expr) : Built (step eval rounds e) := by
  by_cases isImport : ∃ path, e = .import path
  · obtain ⟨path, rfl⟩ := isImport
    exact importFile h path
  · have same : Uniform eval eval (Eval.step eval rounds e) (Eval.step eval rounds e) :=
      .step rounds (not_exists.1 isImport)
    exact .of_uniform h same

end Built

/-- Every evaluation is built. -/
theorem built_evaluate (n : Nat) (e : Expr) : Built (evaluate n e) := by
  induction n generalizing e with
  | zero => exact .throw rfl
  | succ n ih => exact Built.step ih n e

/-! ### Steps after one another, and ends that are changed back -/

section

variable {α β : Type} {act : Eval α} {next : α → Eval β} {s t : Session}

theorem bind_of_ok {a : α} (h : act s = .ok a t) : (act >>= next) s = next a t := by
  simp only [Bind.bind, EStateM.bind, h]

theorem bind_of_error {e : Exit} (h : act s = .error e t) : (act >>= next) s = .error e t := by
  simp only [Bind.bind, EStateM.bind, h]

/-- Two steps after one another have a value if both of them have one. -/
theorem bind_eq_ok {b : β} {u : Session} :
    (act >>= next) s = .ok b u ↔ ∃ a t, act s = .ok a t ∧ next a t = .ok b u := by
  constructor
  · intro h
    cases ha : act s with
    | ok a t =>
      rw [bind_of_ok ha] at h
      exact ⟨a, t, rfl, h⟩
    | error e t =>
      rw [bind_of_error ha] at h
      cases h
  · rintro ⟨a, t, ha, h⟩
    rw [bind_of_ok ha, h]

end

/-- An end of an evaluation with the session changed back. -/
def restored {α : Type} (back : Session → Session) :
    EStateM.Result Exit Session α → EStateM.Result Exit Session α
  | .ok a t => .ok a (back t)
  | .error e t => .error e (back t)

section

variable {α : Type} (act : Eval α) (s : Session)

theorem inFrame_eq (f : FrameId) :
    inFrame f act s =
      restored (fun t => { t with frame := s.frame }) (act { s with frame := f }) := by
  rw [inFrame]
  cases act { s with frame := f } <;> rfl

theorem inDirectory_eq (base : Path) :
    inDirectory base act s =
      restored (fun t => { t with baseDirectory := s.baseDirectory })
        (act { s with baseDirectory := base }) := by
  rw [inDirectory]
  cases act { s with baseDirectory := base } <;> rfl

theorem whileImporting_eq (place : Place) :
    whileImporting place act s =
      restored (fun t => { t with importing := s.importing })
        (act { s with importing := place :: s.importing }) := by
  rw [whileImporting]
  cases act { s with importing := place :: s.importing } <;> rfl

end

/-! ### Where evaluations lead -/

/-- The session in which an evaluation ends, whatever its end is. -/
def sessionAfter {α : Type} : EStateM.Result Exit Session α → Session
  | .ok _ t => t
  | .error _ t => t

@[simp] theorem sessionAfter_ok {α : Type} (a : α) (t : Session) :
    sessionAfter (.ok a t) = t := rfl

@[simp] theorem sessionAfter_error {α : Type} (e : Exit) (t : Session) :
    sessionAfter (.error e t : EStateM.Result Exit Session α) = t := rfl

@[simp] theorem sessionAfter_restored {α : Type} (back : Session → Session)
    (r : EStateM.Result Exit Session α) :
    sessionAfter (restored back r) = back (sessionAfter r) := by
  cases r <;> rfl

section

variable {α : Type} (act : Eval α) (s : Session)

theorem sessionAfter_untilBreak : sessionAfter (untilBreak act s) = sessionAfter (act s) := by
  rw [untilBreak]
  cases act s with
  | ok a t => rfl
  | error e t => cases e <;> rfl

theorem sessionAfter_confined : sessionAfter (confined act s) = sessionAfter (act s) := by
  rw [confined]
  cases act s with
  | ok a t => rfl
  | error e t => cases e <;> rfl

theorem sessionAfter_contained : sessionAfter (contained act s) = sessionAfter (act s) := by
  rw [contained]
  cases act s with
  | ok a t => rfl
  | error e t => cases e <;> rfl

end

/-- The run of a program ends where its evaluation does. -/
theorem interpretBy_snd (eval : Expr → Eval Value) (s : Session) (program : List Expr) :
    (s.interpretBy eval program).2 = sessionAfter (interpret eval program s) := by
  rw [Session.interpretBy]
  cases interpret eval program s with
  | ok v t => rfl
  | error e t => cases e <;> rfl

/-- What becomes of a failure is up to the policy. -/
theorem settle_error (t : Token) (describe : List Diagnostic → Fault) (ds : List Diagnostic)
    (s : Session) :
    settle t describe (.error ds) s =
      match s.policy with
      | .contain => .ok .null s
      | .propagate => .error (.failed (.runtime t.location (describe ds))) s := by
  cases policy : s.policy <;>
    simp only [settle, bind_of_ok (show (get : Eval Session) s = .ok s s from rfl), policy] <;> rfl

theorem sessionAfter_settle (t : Token) (describe : List Diagnostic → Fault)
    (r : Except (List Diagnostic) Value) (s : Session) :
    sessionAfter (settle t describe r s) = s := by
  cases r with
  | ok v => rfl
  | error ds =>
    rw [settle_error]
    cases s.policy <;> rfl

/-- What is kept from a session to the one in which a step ends: it is kept by each kind of step, and
when an evaluation comes back from elsewhere. -/
structure Preserved (R : Session → Session → Prop) : Prop where
  refl : ∀ s, R s s
  trans : ∀ {s t u}, R s t → R t u → R s u
  store : ∀ {α : Type} {f : FrameId → Store → α × Store}, Change f →
    ∀ s, R s { s with store := (f s.frame s.store).2 }
  output : ∀ s output, R s { s with output := output }
  readLine : ∀ s, R s { s with input := s.input.readLine.2 }
  readByte : ∀ s, R s { s with input := s.input.readByte.2 }
  compile : ∀ s source, R s (s.compile source).2
  frame : ∀ {s f t}, R { s with frame := f } t → R s { t with frame := s.frame }
  baseDirectory : ∀ {s base t}, R { s with baseDirectory := base } t →
    R s { t with baseDirectory := s.baseDirectory }
  importing : ∀ {s places t}, R { s with importing := places } t →
    R s { t with importing := s.importing }

namespace Preserved

variable {R : Session → Session → Prop} (preserved : Preserved R) {α β : Type} {act : Eval α}

include preserved

theorem bind {next : α → Eval β} (h : ∀ s, R s (sessionAfter (act s)))
    (hn : ∀ a s, R s (sessionAfter (next a s))) (s : Session) :
    R s (sessionAfter ((act >>= next) s)) := by
  have first := h s
  cases ha : act s with
  | ok a t =>
    rw [ha] at first
    rw [bind_of_ok ha]
    exact preserved.trans first (hn a t)
  | error e t =>
    rw [ha] at first
    rw [bind_of_error ha]
    exact first

theorem inFrame (h : ∀ s, R s (sessionAfter (act s))) (f : FrameId) (s : Session) :
    R s (sessionAfter (inFrame f act s)) := by
  rw [inFrame_eq, sessionAfter_restored]
  exact preserved.frame (h _)

theorem inDirectory (h : ∀ s, R s (sessionAfter (act s))) (base : Path) (s : Session) :
    R s (sessionAfter (inDirectory base act s)) := by
  rw [inDirectory_eq, sessionAfter_restored]
  exact preserved.baseDirectory (h _)

theorem whileImporting (h : ∀ s, R s (sessionAfter (act s))) (place : Place) (s : Session) :
    R s (sessionAfter (whileImporting place act s)) := by
  rw [whileImporting_eq, sessionAfter_restored]
  exact preserved.importing (h _)

theorem runNested {eval : Expr → Eval Value}
    (h : ∀ program s, R s (sessionAfter (interpret eval program s))) (source : String)
    (base : Path) : ∀ s, R s (sessionAfter (runNested eval source base s)) := by
  refine preserved.inDirectory (preserved.inFrame ?_ _) base
  refine preserved.bind (fun s => preserved.compile s source) fun compiled s => ?_
  cases compiled with
  | error ds => exact preserved.refl s
  | ok program =>
    rw [sessionAfter_contained]
    exact h program s

theorem settle (t : Token) (describe : List Diagnostic → Fault)
    (r : Except (List Diagnostic) Value) (s : Session) :
    R s (sessionAfter (settle t describe r s)) := by
  rw [sessionAfter_settle]
  exact preserved.refl s

/-- What each kind of step keeps is kept by every step that is built from them. -/
theorem of_built (h : Built act) (s : Session) : R s (sessionAfter (act s)) := by
  induction h generalizing s with
  | pure a => exact preserved.refl s
  | throw => exact preserved.refl s
  | bind _ _ ih ihn => exact preserved.bind ih ihn s
  | look _ _ ih => exact ih s s
  | change h => exact preserved.store h s
  | print => exact preserved.output s _
  | readLine => exact preserved.readLine s
  | readByte => exact preserved.readByte s
  | inFrame f _ ih => exact preserved.inFrame ih f s
  | untilBreak _ ih =>
    rw [sessionAfter_untilBreak]
    exact ih s
  | confined _ ih =>
    rw [sessionAfter_confined]
    exact ih s
  | text _ t describe source base ih =>
    exact preserved.bind (preserved.runNested ih source base) (preserved.settle t describe) s
  | file _ t describe source base place ih =>
    exact preserved.bind (preserved.whileImporting (preserved.runNested ih source base) place)
      (preserved.settle t describe) s

theorem interpretBy (s : Session) (n : Nat) (program : List Expr) :
    R s (s.interpretBy (evaluate n) program).2 := by
  rw [interpretBy_snd]
  exact preserved.of_built (Built.interpret (built_evaluate n) program) s

/-- What each kind of step keeps is kept by every program. -/
theorem run (s : Session) (source : String) : R s (s.run source).2 := by
  have compiled := preserved.compile s source
  rw [Session.run]
  cases h : s.compile source with
  | mk r t =>
    rw [h] at compiled
    cases r with
    | error ds => exact compiled
    | ok program => exact preserved.trans compiled (preserved.interpretBy t _ program)

end Preserved

end Eval

/-! ### Imports -/

/-- What an import names, as it is seen from a session. -/
inductive Import.Named
  /-- Nothing that can be evaluated. -/
  | nothing (f : Fault)
  /-- A library. -/
  | library (path source : String)
  /-- A file, with its text and the directory that holds it. -/
  | file (path : String) (place : Place) (source : String) (base : Path)

/-- What the token of an import names. -/
def Session.named (s : Session) (x : Token) : Import.Named :=
  match Import.path? x with
  | none => .nothing (.failedImport x.lexeme .notText)
  | some path =>
    match Library.source? path with
    | some source => .library path source
    | none =>
      let target := s.baseDirectory.join (.ofString path)
      match (do return (← s.files.locate target, ← s.files.readText target)) with
      | .error cause => .nothing (.failedImport path (.unreadable cause))
      | .ok (place, source) => .file path place source target.parent

/-- How an import fails of which the nested program fails. -/
def Import.failure (path : String) (ds : List Diagnostic) : Fault := .failedImport path (.nested ds)

/-- An import fails, or runs the text that it names. -/
theorem Eval.importFile_eq_named (eval : Expr → Eval Value) (x : Token) (s : Session) :
    importFile eval x s =
      match s.named x with
      | .nothing f => fail x f s
      | .library path source =>
        (runNested eval source s.baseDirectory >>= settle x (Import.failure path)) s
      | .file path place source base =>
        if s.importing.contains place then fail x (.failedImport path .reentrant) s
        else
          (whileImporting place (runNested eval source base) >>= settle x (Import.failure path)) s
    := by
  cases named : Import.path? x with
  | none => simp only [importFile, Session.named, named]
  | some path =>
    cases library : Library.source? path with
    | some source =>
      simp only [importFile, Session.named, named, library]
      rfl
    | none =>
      simp only [importFile, Session.named, named, library]
      rw [bind_of_ok (show (get : Eval Session) s = .ok s s from rfl)]
      generalize s.files.locate _ >>= _ = file
      cases file with
      | error cause => rfl
      | ok found =>
        dsimp only
        split <;> rfl

end FoxScript
