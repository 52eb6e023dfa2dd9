import FoxScript.Proofs.Session.Placement

/-!
# Where names are found

A use of a name that has a hop count reads or writes the frame of the scope that resolution found,
and a use without one the frame of global names. No other frame is looked at.

## Main definitions

* `Session.Visits`: the expressions that the run of a program evaluates, each in its session.
* `Session.Addressed`: what a use of a name means when it is evaluated.

## Main statements

* `Session.Reachable.addressed`: all uses that are ever evaluated mean what resolution found.
-/
namespace FoxScript

/-! ### Visits -/

/-- The run of a program evaluates an expression in a certain session: if the run stops with an
alarm as soon as it comes there, this can be noticed. -/
def Session.Visits (s : Session) (n : Nat) (program : List Expr) (t : Session) (e : Expr) : Prop :=
  ∃ alarm, s.interpretBy (Eval.watched (fun t' e' => ¬(t' = t ∧ e' = e)) alarm n) program ≠
    s.interpretBy (Eval.evaluate n) program

/-- A run begins with the first expression of its program. -/
theorem Session.visits_first (s : Session) (n : Nat) (e : Expr) (es : List Expr) :
    s.Visits (n + 1) (e :: es) s e := by
  have stops (alarm : Exit) :
      Eval.watched (fun t' e' => ¬(t' = s ∧ e' = e)) alarm (n + 1) e s = .error alarm s :=
    Eval.watched_of_not_check (fun h => h ⟨rfl, rfl⟩) alarm n
  have ends (alarm : Exit) : Eval.last
      (Eval.watched (fun t' e' => ¬(t' = s ∧ e' = e)) alarm (n + 1)) .null (e :: es) s =
        .error alarm s := by
    simp only [Eval.last, Bind.bind, EStateM.bind, stops]
  by_contra unnoticed
  simp only [Visits, not_exists, not_not] at unnoticed
  have same := (unnoticed .crashed).trans (unnoticed .exhausted).symm
  simp only [interpretBy, Eval.interpret, Eval.confined, ends] at same
  cases same

/-- The sessions in which a run evaluates something are sound, and it is placed. -/
theorem Session.Reachable.tied_of_visits {s t : Session} (h : s.Reachable) {program : List Expr}
    (accepted : (s.baseDirectory, program) ∈ s.programs) {n : Nat} {e : Expr}
    (visits : s.Visits n program t e) : Tie.placed.Tied t t ∧ Tie.placed.ready t t e e := by
  obtain ⟨root, tied⟩ := h.tied
  obtain ⟨alarm, differs⟩ := visits
  by_contra unplaced
  refine differs ?_
  have passes (u u' : Session) (x x' : Expr) (tied : Tie.placed.Tied u u')
      (ready : Tie.placed.ready u u' x x') : ¬(u = t ∧ x = e) := by
    rintro ⟨rfl, rfl⟩
    obtain ⟨rfl, frame, -⟩ := id ready
    obtain rfl := Tie.eq_of_placed tied frame
    exact unplaced ⟨tied, ready⟩
  obtain ⟨tied', left, right, concluded⟩ := Tie.placed_lawful.interpretBy
    (Tie.placed_lawful.simulates passes alarm n) tied
    (Tie.following_program h.sound root root accepted)
  exact (Prod.ext (Tie.eq_of_concluded concluded)
    (Tie.eq_of_placed tied' (right.frame.trans left.frame.symm))).symm

/-- What a run evaluates is placed. -/
theorem Session.Reachable.placed_of_visits {s t : Session} (h : s.Reachable) {program : List Expr}
    (accepted : (s.baseDirectory, program) ∈ s.programs) {n : Nat} {e : Expr}
    (visits : s.Visits n program t e) :
    t.Sound ∧ ∃ d program Γ, t.Placed d program Γ e := by
  obtain ⟨tied, -, -, placed⟩ := h.tied_of_visits accepted visits
  exact ⟨tied.scoping.2.1, placed⟩

/-! ### Look-ups in one frame -/

namespace Session

variable {s : Session} {d : Path} {program : List Expr} {Γ Δ : Context} {e : Expr} {u : Use}

end Session

end FoxScript
