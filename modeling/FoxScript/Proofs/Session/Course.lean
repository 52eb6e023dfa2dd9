import FoxScript.Proofs.Session.Addressing
import FoxScript.Proofs.Session.Composition

/-!
# Along a run

Some relations between sessions hold not only between the session in which an evaluation begins and
that in which it ends, but between any two on its way. If such a relation does not lead through a
session, then no run on which it leads from the begin to the end comes by there: whatever is done in
that session could be done otherwise, and nobody would notice.

## Main definitions

* `Eval.Stable`: what is kept between any two moments of an evaluation.
* `Eval.SameBetween`: two steps that do the same on the way from one session to another.

## Main statements

* `Eval.Stable.of_uniform`: steps that are put together alike do the same if what is inside does.
* `Session.Visits.between`: what a run visits lies between its begin and its end.
-/
namespace FoxScript

namespace Eval

/-- What is kept from a session to the one in which a step ends, and also to those in which the
steps inside of it begin. -/
structure Stable (R : Session → Session → Prop) : Prop extends Preserved R where
  enters : ∀ s f, R s { s with frame := f }
  moves : ∀ s base, R s { s with baseDirectory := base }

/-- Two steps that do the same in every session after `s` from which the first leads to one
before `t`. -/
def SameBetween (R : Session → Session → Prop) (s t : Session) {α : Type} (act act' : Eval α) :
    Prop :=
  ∀ u, R s u → R (sessionAfter (act u)) t → act' u = act u

namespace SameBetween

variable {R : Session → Session → Prop} {s t : Session} {α β : Type} {act act' : Eval α}

theorem refl (act : Eval α) : SameBetween R s t act act := fun _ _ _ => rfl

/-- Steps after one another, of which the first keeps what is kept and so does the second. -/
theorem bind (preserved : Preserved R) {next next' : α → Eval β} (h : SameBetween R s t act act')
    (keeps : ∀ u, R u (sessionAfter (act u)))
    (hn : ∀ a, SameBetween R s t (next a) (next' a))
    (nextKeeps : ∀ a u, R u (sessionAfter (next a u))) :
    SameBetween R s t (act >>= next) (act' >>= next') := by
  intro u begun ends
  have first := h u begun
  have kept := keeps u
  cases ha : act u with
  | ok a v =>
    rw [ha] at first kept
    rw [bind_of_ok ha] at ends ⊢
    rw [bind_of_ok (first (preserved.trans (nextKeeps a v) ends))]
    exact hn a v (preserved.trans begun kept) ends
  | error e v =>
    rw [ha] at first
    rw [bind_of_error ha] at ends ⊢
    exact bind_of_error (first ends)

/-- Steps that are done elsewhere, in a session that is changed and changed back. -/
theorem elsewhere (preserved : Preserved R) {enter : Session → Session}
    {back : Session → Session → Session} {other other' : Eval α} (h : SameBetween R s t act act')
    (eq : ∀ u, other u = restored (back u) (act (enter u)))
    (eq' : ∀ u, other' u = restored (back u) (act' (enter u)))
    (enters : ∀ u, R u (enter u)) (leaves : ∀ u v, R v (back u v)) :
    SameBetween R s t other other' := by
  intro u begun ends
  rw [eq, sessionAfter_restored] at ends
  rw [eq, eq', h (enter u) (preserved.trans begun (enters u))
    (preserved.trans (leaves u _) ends)]

theorem untilBreak (h : SameBetween R s t act act') :
    SameBetween R s t (untilBreak act) (untilBreak act') := by
  intro u begun ends
  rw [sessionAfter_untilBreak] at ends
  rw [Eval.untilBreak, Eval.untilBreak, h u begun ends]

theorem confined (h : SameBetween R s t act act') :
    SameBetween R s t (confined act) (confined act') := by
  intro u begun ends
  rw [sessionAfter_confined] at ends
  rw [Eval.confined, Eval.confined, h u begun ends]

theorem contained (h : SameBetween R s t act act') :
    SameBetween R s t (contained act) (contained act') := by
  intro u begun ends
  rw [sessionAfter_contained] at ends
  rw [Eval.contained, Eval.contained, h u begun ends]

end SameBetween

namespace Stable

variable {R : Session → Session → Prop} (stable : Stable R) {s t : Session}
  {eval eval' : Expr → Eval Value} (built : ∀ e, Built (eval e))
  (same : ∀ e, SameBetween R s t (eval e) (eval' e)) {α : Type} {act act' : Eval α}

include stable

theorem inFrame (h : SameBetween R s t act act') (f : FrameId) :
    SameBetween R s t (inFrame f act) (inFrame f act') :=
  h.elsewhere stable.toPreserved (fun u => inFrame_eq act u f) (fun u => inFrame_eq act' u f)
    (fun u => stable.enters u f) fun u v => stable.enters v u.frame

theorem inDirectory (h : SameBetween R s t act act') (base : Path) :
    SameBetween R s t (inDirectory base act) (inDirectory base act') :=
  h.elsewhere stable.toPreserved (fun u => inDirectory_eq act u base)
    (fun u => inDirectory_eq act' u base) (fun u => stable.moves u base)
    fun u v => stable.moves v u.baseDirectory

include built same

theorem interpret (program : List Expr) :
    SameBetween R s t (interpret eval program) (interpret eval' program) := by
  have last (v : Value) :
      SameBetween R s t (Eval.last eval v program) (Eval.last eval' v program) := by
    induction program generalizing v with
    | nil => exact .refl _
    | cons e es ih =>
      refine (same e).bind stable.toPreserved (stable.of_built (built e)) ih fun w => ?_
      have rest : Uniform eval eval' (Eval.last eval w es) (Eval.last eval' w es) := .last w es
      exact stable.of_built (.of_uniform built rest)
  exact (last .null).confined

/-- Texts that are run do the same if what is evaluated does. -/
theorem runNested (source : String) (base : Path) :
    SameBetween R s t (runNested eval source base) (runNested eval' source base) := by
  refine stable.inDirectory (stable.inFrame ?_ _) base
  refine .bind stable.toPreserved (.refl _) (fun u => stable.compile u source)
    (fun compiled => ?_) fun compiled u => ?_
  · cases compiled with
    | error ds => exact .refl _
    | ok es => exact (stable.interpret built same es).contained
  · cases compiled with
    | error ds => exact stable.refl u
    | ok es =>
      rw [sessionAfter_contained]
      exact stable.of_built (Built.interpret built es) u

omit built same in
/-- What becomes of failures depends on the run of the text only. -/
theorem settled {run run' : Eval (Except (List Diagnostic) Value)} (h : SameBetween R s t run run')
    (keeps : ∀ u, R u (sessionAfter (run u))) (x : Token) (describe : List Diagnostic → Fault) :
    SameBetween R s t (run >>= settle x describe) (run' >>= settle x describe) :=
  h.bind stable.toPreserved keeps (fun _ => .refl _) (stable.toPreserved.settle x describe)

omit same in
theorem keeps_runNested (source : String) (base : Path) (u : Session) :
    R u (sessionAfter (Eval.runNested eval source base u)) :=
  stable.toPreserved.runNested (fun es => stable.of_built (Built.interpret built es)) source base u

/-- Steps that are put together alike do the same if what is evaluated inside does. -/
theorem of_uniform (h : Uniform eval eval' act act') : SameBetween R s t act act' := by
  induction h with
  | eval e => exact same e
  | pure | throw | change | print | readLine | readByte => exact .refl _
  | bind h hn ih ihn =>
    exact ih.bind stable.toPreserved (stable.of_built (.of_uniform built h)) ihn
      fun a => stable.of_built (.of_uniform built (hn a))
  | look _ _ ih => exact fun u begun ends => ih u u begun ends
  | inFrame f _ ih => exact stable.inFrame ih f
  | untilBreak _ ih => exact ih.untilBreak
  | confined _ ih => exact ih.confined
  | text x describe source base =>
    exact stable.settled (stable.runNested built same source base)
      (stable.keeps_runNested built source base) x describe

/-- One step does the same if what is evaluated inside does. If it is an import, files may be opened
on the way. -/
theorem step (opens : ∀ u places, R u { u with importing := places }) (rounds : Nat) (e : Expr) :
    SameBetween R s t (step eval rounds e) (step eval' rounds e) := by
  by_cases isImport : ∃ path, e = .import path
  · obtain ⟨x, rfl⟩ := isImport
    intro u begun ends
    have run := stable.runNested built same
    have keeps := stable.keeps_runNested built
    simp only [Eval.step, importFile_eq_named] at ends ⊢
    cases named : u.named x with
    | nothing f => rfl
    | library path source =>
      rw [named] at ends
      exact stable.settled (run _ _) (keeps _ _) x _ u begun ends
    | file path place source base =>
      rw [named] at ends
      dsimp only at ends ⊢
      by_cases reentrant : u.importing.contains place
      · rw [if_pos reentrant, if_pos reentrant]
      · rw [if_neg reentrant] at ends
        rw [if_neg reentrant, if_neg reentrant]
        have inside := (run source base).elsewhere stable.toPreserved
          (fun u => whileImporting_eq _ u place) (fun u => whileImporting_eq _ u place)
          (fun u => opens u _) fun u v => opens v u.importing
        exact stable.settled inside (stable.toPreserved.whileImporting (keeps _ _) place) x _ u begun
          ends
  · exact stable.of_uniform built same (.step rounds (not_exists.1 isImport))

omit built same

/-- What an evaluation visits lies between its begin and its end: an evaluation that is watched for
what does not lie there is not disturbed. -/
theorem watched (opens : ∀ u places, R u { u with importing := places })
    {check : Session → Expr → Prop}
    (passes : ∀ u e n, R s u → R (sessionAfter (evaluate n e u)) t → check u e) (alarm : Exit)
    (n : Nat) (e : Expr) : SameBetween R s t (evaluate n e) (watched check alarm n e) := by
  induction n generalizing e with
  | zero => exact .refl _
  | succ n ih =>
    intro u begun ends
    rw [watched_of_check (passes u e (n + 1) begun ends)]
    exact stable.step (built_evaluate n) ih opens n e u begun ends

end Stable

end Eval

/-- What a run visits lies between its begin and its end. -/
theorem Session.Visits.between {R : Session → Session → Prop} (stable : Eval.Stable R)
    (opens : ∀ u places, R u { u with importing := places }) {s t : Session} {n : Nat}
    {program : List Expr} {e : Expr} (h : s.Visits n program t e) :
    R s t ∧ R t (s.interpretBy (Eval.evaluate n) program).2 := by
  obtain ⟨alarm, differs⟩ := h
  by_contra apart
  refine differs ?_
  rw [Eval.interpretBy_snd] at apart
  generalize fin : Eval.sessionAfter (Eval.interpret (Eval.evaluate n) program s) = r at apart
  -- whatever lies between the begin and the end is not the session in question
  have passes (u : Session) (e' : Expr) (k : Nat) (begun : R s u)
      (ends : R (Eval.sessionAfter (Eval.evaluate k e' u)) r) : ¬(u = t ∧ e' = e) := by
    rintro ⟨rfl, rfl⟩
    exact apart ⟨begun, stable.trans (stable.of_built (Eval.built_evaluate k e') u) ends⟩
  have same := stable.interpret (Eval.built_evaluate n) (stable.watched opens passes alarm n)
    program s (stable.refl s) (fin ▸ stable.refl r)
  rw [interpretBy, interpretBy, same]

end FoxScript
