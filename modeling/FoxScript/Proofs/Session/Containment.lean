import FoxScript.Proofs.Scope.Faults
import FoxScript.Proofs.Session.Restoration

/-!
# Success under either policy

Under the strict policy the failure of a nested program is a failure of the program around it, up to
the outermost. So a program that succeeds under this policy has met no failure on any level of
nesting, and a policy that would contain failures has nothing to contain.

## Main definitions

* `Session.containing`: a session that contains failures.
* `Eval.Carries`: a step that does the same under either policy, unless it fails.

## Main statements

* `Session.compile_containing`: what can be compiled under the strict policy.
* `Eval.Built.carries`: every evaluation that does not fail does the same under either policy.
* `Session.run_containing`: so does every program that succeeds.
-/
namespace FoxScript

/-- The session, with failures of nested programs contained. -/
def Session.containing (s : Session) : Session := { s with policy := .contain }

/-- A text that can be compiled under the strict policy is compiled alike under the other. -/
theorem Session.compile_containing {s t : Session} (strict : s.policy = .propagate)
    {source : String} {program : List Expr} (h : s.compile source = (.ok program, t)) :
    s.containing.compile source = (.ok program, t.containing) := by
  simp only [compile] at h ⊢
  split at h
  · rename_i readable
    obtain ⟨rfl, sound, rfl⟩ := accept_ok h
    simp only [strict] at sound
    have same := resolve_contain sound
    refine (if_pos readable).trans ((accept_of_faults ?_).trans ?_)
    · exact (congrArg Resolution.faults same).trans sound
    · simp only [containing, adopt, strict, same]
  · cases h

namespace Eval

/-- Whether what follows an end can succeed: the end is a value that is not lost, or a `break`. -/
def Survives {α : Type} (lost : α → Prop) : EStateM.Result Exit Session α → Prop
  | .ok a _ => ¬lost a
  | .error (.broke _) _ => True
  | .error _ _ => False

@[simp] theorem survives_restored {α : Type} (lost : α → Prop) (back : Session → Session)
    (r : EStateM.Result Exit Session α) : Survives lost (restored back r) ↔ Survives lost r := by
  rcases r with _ | ⟨_ | _ | _ | _, _⟩ <;> rfl

/-- A step that does the same whether failures are contained or not, unless it fails or its value is
lost. -/
def Carries {α : Type} (lost : α → Prop) (act : Eval α) : Prop :=
  ∀ s, s.policy = .propagate → Survives lost (act s) →
    act s.containing = restored Session.containing (act s)

/-- No value is lost. -/
def Never {α : Type} : α → Prop := fun _ => False

/-- A failure of a nested program that is given as a value is lost. -/
def IsFailure {α : Type} : Except (List Diagnostic) α → Prop := fun r => ∃ ds, r = .error ds

namespace Carries

variable {α β : Type} {lost : α → Prop} {lost' : β → Prop} {act : Eval α}

/-- A step after another, where what is lost in the first leads to a failure in the second. -/
theorem bind {next : α → Eval β} (h : Carries lost act) (restores : Restores act)
    (hn : ∀ a, ¬lost a → Carries lost' (next a))
    (fails : ∀ a t, lost a → t.policy = .propagate → ¬Survives lost' (next a t)) :
    Carries lost' (act >>= next) := by
  intro s strict survives
  have first := h s strict
  have strict' := (congrArg Session.Surroundings.policy (restores s)).trans strict
  cases ha : act s with
  | ok a t =>
    rw [bind_of_ok ha] at survives ⊢
    rw [ha] at first strict'
    -- a value that is lost would make the second step fail
    have kept : ¬lost a := fun lost => fails a t lost strict' survives
    rw [bind_of_ok (first kept)]
    exact hn a kept t strict' survives
  | error e t =>
    rw [bind_of_error ha] at survives ⊢
    rw [ha] at first
    have left : Survives lost (.error e t) := by cases e <;> exact survives
    exact bind_of_error (first left)

/-- A step that is done elsewhere, in a session that is changed and changed back. -/
theorem elsewhere {enter : Session → Session} {back : Session → Session → Session}
    {other : Eval α} (h : Carries lost act) (eq : ∀ s, other s = restored (back s) (act (enter s)))
    (policy : ∀ s, (enter s).policy = s.policy)
    (enters : ∀ s, enter s.containing = (enter s).containing)
    (comes : ∀ s t, back s.containing t.containing = (back s t).containing) :
    Carries lost other := by
  intro s strict survives
  rw [eq, survives_restored] at survives
  have inside := h (enter s) ((policy s).trans strict) survives
  rw [eq, eq, enters, inside]
  cases act (enter s) with
  | ok a t => exact congrArg (EStateM.Result.ok a) (comes s t)
  | error e t => exact congrArg (EStateM.Result.error e) (comes s t)

theorem inFrame (h : Carries lost act) (f : FrameId) : Carries lost (inFrame f act) :=
  h.elsewhere (fun s => inFrame_eq act s f) (fun _ => rfl) (fun _ => rfl) fun _ _ => rfl

theorem inDirectory (h : Carries lost act) (base : Path) : Carries lost (inDirectory base act) :=
  h.elsewhere (fun s => inDirectory_eq act s base) (fun _ => rfl) (fun _ => rfl) fun _ _ => rfl

theorem whileImporting (h : Carries lost act) (place : Place) :
    Carries lost (whileImporting place act) :=
  h.elsewhere (fun s => whileImporting_eq act s place) (fun _ => rfl) (fun _ => rfl) fun _ _ => rfl

theorem untilBreak (h : Carries Never act) : Carries Never (untilBreak act) := by
  intro s strict survives
  have inside := h s strict
  simp only [Eval.untilBreak] at survives ⊢
  cases ha : act s with
  | ok a t =>
    rw [ha] at inside
    rw [inside id]
    rfl
  | error e t =>
    rw [ha] at inside survives
    cases e with
    | broke keyword =>
      rw [inside trivial]
      rfl
    | failed | crashed | exhausted => exact survives.elim

theorem confined (h : Carries Never act) : Carries Never (confined act) := by
  intro s strict survives
  have inside := h s strict
  simp only [Eval.confined] at survives ⊢
  cases ha : act s with
  | ok a t =>
    rw [ha] at inside
    rw [inside id]
    rfl
  | error e t =>
    rw [ha] at survives
    cases e <;> exact survives.elim

theorem contained (h : Carries Never act) : Carries IsFailure (contained act) := by
  intro s strict survives
  have inside := h s strict
  simp only [Eval.contained] at survives ⊢
  cases ha : act s with
  | ok a t =>
    rw [ha] at inside
    rw [inside id]
    rfl
  | error e t =>
    rw [ha] at inside survives
    cases e with
    | broke keyword =>
      rw [inside trivial]
      rfl
    | failed d => exact absurd ⟨_, rfl⟩ survives
    | crashed | exhausted => exact survives.elim

theorem compile (source : String) :
    Carries IsFailure (modifyGet (m := Eval) fun s => s.compile source) := by
  intro s strict survives
  have given (s : Session) : (modifyGet fun s => s.compile source : Eval _) s =
      .ok (s.compile source).1 (s.compile source).2 := rfl
  rw [given] at survives
  rw [given, given]
  cases compiled : s.compile source with
  | mk r t =>
    rw [compiled] at survives
    cases r with
    | error ds => exact absurd ⟨ds, rfl⟩ survives
    | ok program =>
      rw [Session.compile_containing strict compiled]
      rfl

/-- A nested program fails if its text cannot be compiled or its evaluation fails. -/
theorem runNested {eval : Expr → Eval Value} (h : ∀ program, Carries Never (interpret eval program))
    (source : String) (base : Path) : Carries IsFailure (runNested eval source base) := by
  refine inDirectory (inFrame ?_ _) base
  refine (compile source).bind (fun s => s.surroundings_compile source)
    (fun compiled kept => ?_) fun compiled t lost _ => ?_
  · cases compiled with
    | error ds => exact absurd ⟨ds, rfl⟩ kept
    | ok program => exact (h program).contained
  · obtain ⟨ds, rfl⟩ := lost
    exact not_not.2 ⟨ds, rfl⟩

/-- Under the strict policy a failure of a nested program is a failure. -/
theorem settle {run : Eval (Except (List Diagnostic) Value)} (h : Carries IsFailure run)
    (restores : Restores run) (t : Token) (describe : List Diagnostic → Fault) :
    Carries Never (run >>= settle t describe) := by
  refine h.bind restores (fun r kept => ?_) fun r u lost strict => ?_
  · cases r with
    | ok v => exact fun s _ _ => rfl
    | error ds => exact absurd ⟨ds, rfl⟩ kept
  · obtain ⟨ds, rfl⟩ := lost
    rw [settle_error, strict]
    exact id

end Carries

/-- What evaluations are made of does the same under either policy, unless it fails. -/
theorem Built.carries {α : Type} {act : Eval α} (h : Built act) : Carries Never act := by
  induction h with
  | pure | throw | change | print | readLine | readByte => exact fun s _ _ => rfl
  | bind h _ ih ihn =>
    exact ih.bind (preserved_surroundings.of_built h) (fun a _ => ihn a) fun _ _ lost => lost.elim
  | @look _ next _ blind ih =>
    intro s strict survives
    have seen : next s.containing = next s := blind s .contain
    change next s.containing s.containing = restored _ (next s s)
    rw [seen]
    exact ih s s strict survives
  | inFrame f _ ih => exact ih.inFrame f
  | untilBreak _ ih => exact ih.untilBreak
  | confined _ ih => exact ih.confined
  | text h t describe source base ih =>
    have restores := preserved_surroundings.runNested
      (fun program => preserved_surroundings.of_built (h program)) source base
    exact (Carries.runNested ih source base).settle restores t describe
  | file h t describe source base place ih =>
    have restores := preserved_surroundings.runNested
      (fun program => preserved_surroundings.of_built (h program)) source base
    exact ((Carries.runNested ih source base).whileImporting place).settle
      (preserved_surroundings.whileImporting restores place) t describe

end Eval

namespace Session

/-- A program that succeeds under the strict policy does the same under the other. -/
theorem interpretBy_containing {s t : Session} (strict : s.policy = .propagate) {n : Nat}
    {program : List Expr} {v : Value}
    (h : s.interpretBy (Eval.evaluate n) program = (.value v, t)) :
    s.containing.interpretBy (Eval.evaluate n) program = (.value v, t.containing) := by
  have carries := (Eval.Built.interpret (Eval.built_evaluate n) program).carries s strict
  rw [interpretBy] at h ⊢
  cases ended : Eval.interpret (Eval.evaluate n) program s with
  | ok w u =>
    rw [ended] at carries h
    obtain ⟨hw, rfl⟩ := Prod.mk.inj h
    obtain rfl := Outcome.value.inj hw
    rw [carries id]
    rfl
  | error e u =>
    rw [ended] at h
    cases e <;> cases h

/-- A text that is run under the strict policy with success gives the same value under the other,
and leaves a session that differs in the policy only: what was printed, what is left of the input,
the bindings and all else are the same. -/
theorem run_containing {s t : Session} {source : String} {v : Value}
    (strict : s.policy = .propagate) (h : s.run source = (.value v, t)) :
    s.containing.run source = (.value v, t.containing) := by
  rw [run] at h ⊢
  cases compiled : s.compile source with
  | mk r u =>
    rw [compiled] at h
    cases r with
    | error ds => cases h
    | ok program =>
      have strict' : u.policy = .propagate :=
        (congrArg (fun p => p.2.policy) compiled).symm.trans
          ((congrArg Surroundings.policy (s.surroundings_compile source)).trans strict)
      rw [compile_containing strict compiled]
      exact interpretBy_containing strict' h

/-- A file is imported, and its program has a value. -/
theorem run_containing_of_an_import :
    let files := FileSystem.empty.add (.ofString "b.fox") [110, 117, 108, 108]
    let s := new files .current .propagate (.ofBytes []) 0
    let source := "import(\"b.fox\")"
    ∃ v t, s.policy = .propagate ∧ s.run source = (.value v, t) ∧
      s.containing.run source = (.value v, t.containing) := by
  intro files s source
  have succeeds : (match (s.run source).1 with
      | .value _ => true
      | _ => false) = true := by decide +kernel
  obtain ⟨v, t, h⟩ : ∃ v t, s.run source = (.value v, t) := by
    generalize s.run source = r at succeeds
    obtain ⟨outcome, t⟩ := r
    cases outcome with
    | value v => exact ⟨v, t, rfl⟩
    | failed | crashed | exhausted => cases succeeds
  exact ⟨v, t, rfl, h, run_containing rfl h⟩

end Session

end FoxScript
