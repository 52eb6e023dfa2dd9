import FoxScript.CommandLine.Run
import FoxScript.Proofs.Session.Failure

/-!
# What the exit code of a script tells

The exit code for faults of a text means that the script was not run and printed nothing. A script
that was run and failed has the exit code for that, whatever the failure came from, unless it crashed
while it replaced an element of an array.

## Main definitions

* `CommandLine.ScriptEnds`: how a script ends.

## Main statements

* `CommandLine.runText_eq`: what is added to a run is what is reported of it.
* `CommandLine.static_or_dynamic`: how texts and scripts end.
-/
namespace FoxScript.CommandLine

/-- A text is run like any other; only the trees and the diagnostics are shown besides. -/
theorem runText_eq (debug : Bool) (s : Session) (source : String) :
    ((runText debug s source).outcome, (runText debug s source).session) = s.run source := by
  rw [runText, Session.run]
  cases s.compile source with
  | mk r t =>
    cases r with
    | error ds => rfl
    | ok program =>
      dsimp only
      cases t.interpret program with
      | mk outcome u => cases outcome <;> rfl

/-- How a script ends that is run in a session, and what is left behind. -/
inductive ScriptEnds (files : FileSystem) (script : String) (s : Session) : Report → Prop
  /-- The script cannot be read. -/
  | unreadable {f : SystemFault} (text : readScript files script = .error f) :
    ScriptEnds files script s ⟨noInput, "", reportText [.system f]⟩
  /-- The script has faults of syntax or of scopes. Then nothing of it is evaluated, and nothing is
  printed. -/
  | static {source : String} {ds : List Diagnostic} {n : Nat}
    (text : readScript files script = .ok source)
    (compiled : s.compile source = (.error ds, { s with fresh := n })) (faulty : ds ≠ [])
    (static : ∀ d ∈ ds, d.isStatic) :
    ScriptEnds files script s ⟨staticFailure, "", reportText ds⟩
  /-- The script has a value. -/
  | value {source : String} {program : List Expr} {t u : Session} {v : Value} {errors : String}
    (text : readScript files script = .ok source)
    (compiled : s.compile source = (.ok program, t)) (ends : t.interpret program = (.value v, u)) :
    ScriptEnds files script s ⟨0, u.output.text, errors⟩
  /-- The evaluation of the script fails. -/
  | dynamic {source : String} {program : List Expr} {t u : Session} {d : Diagnostic}
    {errors : String} (text : readScript files script = .ok source)
    (compiled : s.compile source = (.ok program, t))
    (ends : t.interpret program = (.failed [d], u)) (dynamic : d.isStatic = false) :
    ScriptEnds files script s ⟨runtimeFailure, u.output.text, errors ++ reportText [d]⟩
  /-- An element of an array is replaced at an index from which the array can be reached, or the
  budget is used up. -/
  | crashed {source : String} {program : List Expr} {t u : Session} {outcome : Outcome}
    {errors : String} (text : readScript files script = .ok source)
    (compiled : s.compile source = (.ok program, t)) (ends : t.interpret program = (outcome, u))
    (crashes : outcome = .crashed ∨ outcome = .exhausted) :
    ScriptEnds files script s ⟨crash, u.output.text, errors⟩

/-- A script that is run in a session in which nothing has been printed. -/
theorem scriptEnds_runText {files : FileSystem} {script : String} {s : Session} {source : String}
    (silent : s.output.text = "") (text : readScript files script = .ok source) (debug : Bool) :
    let e := runText debug s source
    ScriptEnds files script s ⟨exitCode e.outcome, e.session.output.text, e.errors⟩ := by
  rw [runText]
  cases compiled : s.compile source with
  | mk r t =>
    cases r with
    | error ds =>
      obtain ⟨n, -, rfl⟩ := Session.compile_error compiled
      obtain ⟨faulty, static⟩ := Session.isStatic_of_compile compiled
      have code : exitCode (.failed ds) = staticFailure := by
        obtain ⟨d, mem⟩ := List.exists_mem_of_ne_nil ds faulty
        exact if_pos (List.any_eq_true.2 ⟨d, mem, static d mem⟩)
      dsimp only
      rw [code, silent]
      exact .static text compiled faulty static
    | ok program =>
      have dynamic := t.isDynamic_interpretBy Eval.budget program
      dsimp only
      cases ends : t.interpret program with
      | mk outcome u =>
        cases outcome with
        | value v => exact .value text compiled ends
        | failed ds =>
          have failed : (t.interpretBy (Eval.evaluate Eval.budget) program).1 = .failed ds :=
            congrArg Prod.fst ends
          rw [failed] at dynamic
          obtain ⟨d, rfl, dynamic⟩ := dynamic
          have code : exitCode (.failed [d]) = runtimeFailure := by
            simp [exitCode, dynamic]
          dsimp only
          rw [code]
          exact .dynamic text compiled ends dynamic
        | crashed => exact .crashed text compiled ends (.inl rfl)
        | exhausted => exact .crashed text compiled ends (.inr rfl)

/-- Every text that is run in a session ends with faults that are found before anything is
evaluated, or with what its evaluation gives, and the two never mix. So the exit code of a script
tells which of them it was. Only a crash leaves no failure. -/
theorem static_or_dynamic (s : Session) (source : String) (o : Options) (files : FileSystem)
    (input : Input) (now : Float) (script : String) :
    s.Ends source (s.run source) ∧
      ScriptEnds files script
        (Session.new files (Path.ofString script).parent o.policy input now)
        (runScript o files input now script) := by
  refine ⟨s.ends_run source, ?_⟩
  rw [runScript]
  cases text : readScript files script with
  | error f => exact .unreadable text
  | ok source => exact scriptEnds_runText rfl text o.debug

end FoxScript.CommandLine
