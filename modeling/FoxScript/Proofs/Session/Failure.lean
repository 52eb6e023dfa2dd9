import FoxScript.Proofs.Scope.Faults
import FoxScript.Proofs.Session.Composition
import FoxScript.Proofs.Session.Growth

/-!
# How programs fail

A text that has faults is not run: these are all that is reported, and they are faults of syntax or
of scopes. A program that fails while it runs has one failure, which is of neither kind, also where
it comes from a text inside the program that has faults: then it is the evaluation or the import of
that text that fails.

## Main definitions

* `Eval.Dynamic`: a step that never fails with a fault of a text.
* `Session.Ends`: how a text ends that is run.

## Main statements

* `Session.isStatic_of_compile`: what is reported of a text that is not run.
* `Eval.Built.dynamic`: with what evaluations fail.
* `Session.ends_run`: how every text ends that is run.
-/
namespace FoxScript

/-! ### Faults of texts -/

theorem Lexer.isStatic_of_mem_scanFrom {skip : Nat} {p : Position} {cs : List Char} {d : Diagnostic}
    (mem : .error d ∈ scanFrom skip p cs) : d.isStatic := by
  induction cs generalizing skip p with
  | nil => cases mem
  | cons c cs ih =>
    cases skip with
    | succ skip => exact ih mem
    | zero =>
      rw [scanFrom] at mem
      cases reads : read c cs with
      | mk reading n =>
        simp only [reads] at mem
        cases reading with
        | layout => exact ih mem
        | token kind literal =>
          obtain - | ⟨_, mem⟩ := mem
          exact ih mem
        | fault f =>
          obtain - | ⟨_, mem⟩ := mem
          · rfl
          · exact ih mem

theorem Parse.isStatic_faultAt (all rest : List Token) (miss : Grammar.Miss) :
    (faultAt all rest miss).isStatic := by
  cases miss <;> rfl

theorem Parse.isStatic_of_mem_ofRest {all : List Token} {depth n : Nat} {s : Grammar.Cursor}
    {d : Diagnostic} (mem : d ∈ (ofRest all depth n s).faults) : d.isStatic := by
  induction n generalizing s with
  | zero => cases mem
  | succ n ih =>
    rw [ofRest] at mem
    split at mem
    · cases mem
    · split at mem
      · exact ih mem
      · obtain - | ⟨_, mem⟩ := mem
        · exact isStatic_faultAt _ _ _
        · exact ih mem

theorem Import.isStatic_of_mem_read {fresh : Nat} {source : String} {d : Diagnostic}
    (mem : d ∈ (read fresh source).faults) : d.isStatic := by
  obtain mem | mem := List.mem_append.1 mem
  · obtain ⟨x, mem, error⟩ := List.mem_filterMap.1 mem
    cases x with
    | ok t => cases error
    | error d' =>
      cases error
      exact Lexer.isStatic_of_mem_scanFrom mem
  · exact Parse.isStatic_of_mem_ofRest mem

/-- A text that cannot be compiled has faults, all of syntax or of scopes. -/
theorem Session.isStatic_of_compile {s t : Session} {source : String} {ds : List Diagnostic}
    (h : s.compile source = (.error ds, t)) : ds ≠ [] ∧ ∀ d ∈ ds, d.isStatic := by
  simp only [compile, accept] at h
  split at h
  · split at h
    · cases h
    · rename_i faulty
      obtain rfl := Except.error.inj (Prod.mk.inj h).1
      exact ⟨fun none => faulty (List.isEmpty_iff.2 none), fun _ => isStatic_of_mem_faults⟩
  · rename_i faulty
    obtain rfl := Except.error.inj (Prod.mk.inj h).1
    exact ⟨fun none => faulty (List.isEmpty_iff.2 none), fun _ => Import.isStatic_of_mem_read⟩

/-! ### Failures of evaluations -/

namespace Eval

/-- A step that fails, if it does, with no fault of a text. -/
def Dynamic {α : Type} (act : Eval α) : Prop :=
  ∀ s e t, act s = .error e t → e.isStatic = false

namespace Dynamic

variable {α β : Type} {act : Eval α}

theorem bind {next : α → Eval β} (h : Dynamic act) (hn : ∀ a, Dynamic (next a)) :
    Dynamic (act >>= next) := by
  intro s e t fails
  cases ha : act s with
  | ok a u =>
    rw [bind_of_ok ha] at fails
    exact hn a u e t fails
  | error e' u =>
    rw [bind_of_error ha] at fails
    cases fails
    exact h s _ _ ha

/-- A step that is done elsewhere, in a session that is changed and changed back. -/
theorem elsewhere {enter : Session → Session} {back : Session → Session → Session}
    {other : Eval α} (h : Dynamic act)
    (eq : ∀ s, other s = restored (back s) (act (enter s))) : Dynamic other := by
  intro s e t fails
  rw [eq] at fails
  cases ha : act (enter s) with
  | ok a u =>
    rw [ha] at fails
    cases fails
  | error e' u =>
    rw [ha] at fails
    cases fails
    exact h _ _ _ ha

theorem inFrame (h : Dynamic act) (f : FrameId) : Dynamic (inFrame f act) :=
  h.elsewhere fun s => inFrame_eq act s f

theorem untilBreak (h : Dynamic act) : Dynamic (untilBreak act) := by
  intro s e t fails
  rw [Eval.untilBreak] at fails
  cases ha : act s with
  | ok a u => simp [ha] at fails
  | error e' u =>
    rw [ha] at fails
    cases e' with
    | broke keyword => cases fails
    | failed | crashed | exhausted =>
      cases fails
      exact h s _ _ ha

theorem confined (h : Dynamic act) : Dynamic (confined act) := by
  intro s e t fails
  rw [Eval.confined] at fails
  cases ha : act s with
  | ok a u => simp [ha] at fails
  | error e' u =>
    rw [ha] at fails
    cases e' with
    | broke keyword =>
      cases fails
      rfl
    | failed | crashed | exhausted =>
      cases fails
      exact h s _ _ ha

theorem contained (h : Dynamic act) : Dynamic (contained act) := by
  intro s e t fails
  rw [Eval.contained] at fails
  cases ha : act s with
  | ok a u => simp [ha] at fails
  | error e' u =>
    rw [ha] at fails
    cases e' with
    | failed d => cases fails
    | broke | crashed | exhausted =>
      cases fails
      exact h s _ _ ha

/-- A nested program does not fail: its failures are given as values. -/
theorem runNested {eval : Expr → Eval Value} (h : ∀ program, Dynamic (interpret eval program))
    (source : String) (base : Path) : Dynamic (runNested eval source base) := by
  refine elsewhere (inFrame (bind ?_ fun compiled => ?_) _) fun s => inDirectory_eq _ s base
  · intro s e t fails
    cases fails
  · cases compiled with
    | error ds =>
      intro s e t fails
      cases fails
    | ok program => exact (h program).contained

/-- The failure of a nested program becomes one of the program around it. -/
theorem settle (t : Token) (describe : List Diagnostic → Fault)
    (r : Except (List Diagnostic) Value) : Dynamic (settle t describe r) := by
  intro s e u fails
  cases r with
  | ok v => cases fails
  | error ds =>
    rw [settle_error] at fails
    split at fails <;> cases fails
    rfl

end Dynamic

theorem Built.dynamic {α : Type} {act : Eval α} (h : Built act) : Dynamic act := by
  induction h with
  | pure | change | print | readLine | readByte => intro s e t fails; cases fails
  | throw static =>
    intro s e t fails
    cases fails
    exact static
  | bind _ _ ih ihn => exact ih.bind ihn
  | look _ _ ih => exact fun s => ih s s
  | inFrame f _ ih => exact ih.inFrame f
  | untilBreak _ ih => exact ih.untilBreak
  | confined _ ih => exact ih.confined
  | text _ t describe source base ih =>
    exact (Dynamic.runNested ih source base).bind (.settle t describe)
  | file _ t describe source base place ih =>
    have within := (Dynamic.runNested ih source base).elsewhere fun s => whileImporting_eq _ s place
    exact within.bind (.settle t describe)

end Eval

/-! ### Texts that are run -/

/-- The program has a value, or one failure that is no fault of a text, or it ends with neither. -/
def Outcome.IsDynamic : Outcome → Prop
  | .value _ | .crashed | .exhausted => True
  | .failed ds => ∃ d, ds = [d] ∧ d.isStatic = false

namespace Session

theorem isDynamic_interpretBy (s : Session) (n : Nat) (program : List Expr) :
    (s.interpretBy (Eval.evaluate n) program).1.IsDynamic := by
  have dynamic := (Eval.Built.interpret (Eval.built_evaluate n) program).dynamic s
  rw [interpretBy]
  cases ended : Eval.interpret (Eval.evaluate n) program s with
  | ok v t => trivial
  | error e t =>
    cases e with
    | failed d => exact ⟨d, rfl, dynamic _ _ ended⟩
    | broke keyword => exact ⟨_, rfl, rfl⟩
    | crashed | exhausted => trivial

/-- How a text ends that is run. -/
inductive Ends (s : Session) (source : String) : Outcome × Session → Prop
  /-- It has faults of syntax or of scopes. Then nothing is evaluated, and the session stays as it is
  but for the next number of a use. -/
  | static {ds : List Diagnostic} {n : Nat}
    (compiled : s.compile source = (.error ds, { s with fresh := n })) (faulty : ds ≠ [])
    (static : ∀ d ∈ ds, d.isStatic) : Ends s source (.failed ds, { s with fresh := n })
  /-- It is evaluated, with a value or with one failure that is of neither kind. -/
  | dynamic {program : List Expr} {t : Session} (compiled : s.compile source = (.ok program, t))
    (dynamic : (t.interpret program).1.IsDynamic) : Ends s source (t.interpret program)

/-- Every text that is run ends with faults that are found before anything is evaluated, or with what
its evaluation gives. -/
theorem ends_run (s : Session) (source : String) : s.Ends source (s.run source) := by
  rw [run]
  cases compiled : s.compile source with
  | mk r t =>
    cases r with
    | error ds =>
      obtain ⟨n, -, rfl⟩ := compile_error compiled
      obtain ⟨faulty, static⟩ := isStatic_of_compile compiled
      exact .static compiled faulty static
    | ok program => exact .dynamic compiled (t.isDynamic_interpretBy _ program)

end Session

end FoxScript
