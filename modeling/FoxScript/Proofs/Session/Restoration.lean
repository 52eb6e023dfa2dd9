import FoxScript.Proofs.Session.Composition
import FoxScript.Proofs.Session.Placement

/-!
# What every evaluation restores

The frame of a session, the directory of its imports, the stack of the files that are being imported
and the policy are changed by blocks, calls, nested programs and imports only, and each of them puts
back what it changed, however it ends: with a value, with a `break` on its way or with a failure.

## Main definitions

* `Session.Surroundings`: where an evaluation takes place.
* `Eval.Restores`: a step that ends where it started.

## Main statements

* `Eval.restores_evaluate`: every evaluation restores the surroundings.
* `Session.Reachable.restored`: between programs no block, call or import is open.
-/
namespace FoxScript

/-- Where an evaluation takes place. -/
structure Session.Surroundings where
  frame : FrameId
  baseDirectory : Path
  importing : List Place
  policy : NestedErrors
  deriving DecidableEq

/-- Where the next evaluation takes place. -/
def Session.surroundings (s : Session) : Session.Surroundings :=
  ⟨s.frame, s.baseDirectory, s.importing, s.policy⟩

theorem Session.surroundings_compile (s : Session) (source : String) :
    (s.compile source).2.surroundings = s.surroundings := by
  obtain ⟨fresh, hops, programs, same⟩ := s.compile_snd source
  rw [same]
  rfl

namespace Eval

/-- A step of evaluation that ends where it started, on every way out. -/
def Restores {α : Type} (act : Eval α) : Prop :=
  ∀ s, (sessionAfter (act s)).surroundings = s.surroundings

/-- The stack of imports is restored by taking off what lies on top, since the evaluation in between
leaves the stack as it finds it. -/
theorem Restores.whileImporting_eq_tail {α : Type} {act : Eval α} (h : Restores act) (place : Place)
    (s : Session) : whileImporting place act s =
      restored (fun t => { t with importing := t.importing.tail })
        (act { s with importing := place :: s.importing }) := by
  have inside := h { s with importing := place :: s.importing }
  simp only [Session.surroundings, Session.Surroundings.mk.injEq] at inside
  rw [whileImporting_eq]
  cases ha : act { s with importing := place :: s.importing } <;>
    simp [ha] at inside <;> simp [restored, inside]

/-- Each kind of step keeps the surroundings or puts them back. -/
theorem preserved_surroundings : Preserved fun s t => t.surroundings = s.surroundings where
  refl _ := rfl
  trans h g := g.trans h
  store _ _ := rfl
  output _ _ := rfl
  readLine _ := rfl
  readByte _ := rfl
  compile s source := s.surroundings_compile source
  frame h := by simp_all [Session.surroundings]
  baseDirectory h := by simp_all [Session.surroundings]
  importing h := by simp_all [Session.surroundings]

/-- Every evaluation ends where it started. -/
theorem restores_evaluate (n : Nat) (e : Expr) : Restores (evaluate n e) :=
  preserved_surroundings.of_built (built_evaluate n e)

end Eval

namespace Session

theorem surroundings_interpretBy (s : Session) (n : Nat) (program : List Expr) :
    (s.interpretBy (Eval.evaluate n) program).2.surroundings = s.surroundings :=
  Eval.preserved_surroundings.interpretBy s n program

theorem surroundings_run (s : Session) (source : String) :
    (s.run source).2.surroundings = s.surroundings :=
  Eval.preserved_surroundings.run s source

/-- Between programs the frame is that of the global names, and no file is being imported. -/
theorem Reachable.between {s : Session} (h : s.Reachable) :
    s.frame = Store.root ∧ s.importing = [] := by
  induction h with
  | new => exact ⟨rfl, rfl⟩
  | @compile s _ source ih =>
    have kept := s.surroundings_compile source
    simp only [surroundings, Surroundings.mk.injEq] at kept
    exact ⟨kept.1.trans ih.1, kept.2.2.1.trans ih.2⟩
  | @interpret s _ program _ n ih =>
    have kept := s.surroundings_interpretBy n program
    simp only [surroundings, Surroundings.mk.injEq] at kept
    exact ⟨kept.1.trans ih.1, kept.2.2.1.trans ih.2⟩
  | adjust _ _ _ _ _ _ _ _ ih => exact ih

/-- Every evaluation, in whatever session it takes place and however it ends, leaves the frame, the
directory, the stack of imports and the policy as it found them. So does a whole run, after which
the frame is that of the global names and no file is being imported. -/
theorem Reachable.restored {s : Session} (h : s.Reachable) (source : String) :
    (∀ (t : Session) (n : Nat) (e : Expr),
      (Eval.sessionAfter (Eval.evaluate n e t)).surroundings = t.surroundings) ∧
    (s.run source).2.surroundings = s.surroundings ∧
    (s.run source).2.frame = Store.root ∧ (s.run source).2.importing = [] := by
  have kept := s.surroundings_run source
  refine ⟨fun t n e => Eval.restores_evaluate n e t, kept, ?_⟩
  simp only [surroundings, Surroundings.mk.injEq] at kept
  exact ⟨kept.1.trans h.between.1, kept.2.2.1.trans h.between.2⟩

/-- A `break` leaves a block in which a file is about to be imported. -/
theorem restored_of_a_break :
    let s := new .empty .current .propagate (.ofBytes []) 0
    let keyword : Token := ⟨.break, "break", none, ⟨1, 3⟩⟩
    let body : Expr := .block [.break keyword, .import ⟨.string, "a.fox", none, ⟨1, 9⟩⟩]
    let source := "\x7b break import(\"a.fox\") \x7d"
    s.Reachable ∧ (∃ t, Eval.evaluate 3 body s = .error (.broke keyword) t ∧
        t.surroundings = s.surroundings) ∧
      (s.run source).2.surroundings = s.surroundings ∧
      (s.run source).2.frame = Store.root ∧ (s.run source).2.importing = [] := by
  intro s keyword body source
  have reachable : s.Reachable := .new _ _ _ _ _
  obtain ⟨everywhere, after⟩ := reachable.restored source
  obtain ⟨t, left⟩ : ∃ t, Eval.evaluate 3 body s = .error (.broke keyword) t := ⟨_, rfl⟩
  have kept := everywhere s 3 body
  rw [left] at kept
  exact ⟨reachable, ⟨t, left, kept⟩, after⟩

end Session

end FoxScript
