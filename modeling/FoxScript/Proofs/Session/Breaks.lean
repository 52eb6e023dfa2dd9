import FoxScript.Proofs.Session.Discipline.Evaluation

/-!
# Where breaks go

A `break` ends the innermost loop around it in the same function. It leaves nothing but the
expressions in which no loop stands around it: no call, no import and no evaluated text passes it
on. One that has no loop to end fails where it would leave the body of a function or a program.

## Main definitions

* `Eval.Rounds`, `Eval.Stops`: how a loop goes round, and how it ends.
* `Expr.Heads`: what a `break` cannot leave: an expression at the top of a program, or the body of a
  function in it.
* `Discipline.confining`, `Discipline.standing`: no `break` without a loop is met.

## Main statements

* `Eval.loop_eq_ok_iff`: the value of a loop.
* `Session.breaks_stay`: which `break`s leave an expression, and which fail.
-/
namespace FoxScript

/-! ### Loops -/

/-- What an expression goes on with as long as its condition holds, if it is a loop: the condition,
if there is one, and the body. -/
def Expr.loop? : Expr → Option (Option Expr × Expr)
  | .loop _ body => some (none, body)
  | .loopWhile _ condition body => some (some condition, body)
  | _ => none

/-- No `break` leaves a loop. -/
theorem Expr.exposed_of_loop {e : Expr} {c : Option Expr} {body : Expr}
    (h : e.loop? = some (c, body)) : e.exposed = [] := by
  cases e with
  | loop | loopWhile => rfl
  | _ => cases h

namespace Eval

/-- Whether a loop goes on: it does if the value of its condition is truthy, or if it has none. -/
def goesOn (eval : Expr → Eval Value) : Option Expr → Eval Bool
  | none => return true
  | some condition => do return (← eval condition).isTruthy

/-- Rounds of a loop from one session to another. In each the loop goes on, and its body has a
value. -/
inductive Rounds (condition : Eval Bool) (body : Eval Value) :
    Session → List Value → Session → Prop
  /-- No round. -/
  | none (s : Session) : Rounds condition body s [] s
  /-- A round before others. -/
  | round {s t u w : Session} {v : Value} {vs : List Value} (holds : condition s = .ok true t)
    (value : body t = .ok v u) (rest : Rounds condition body u vs w) :
    Rounds condition body s (v :: vs) w

/-- The last, unfinished round of a loop from one session to another. -/
inductive Stops (condition : Eval Bool) (body : Eval Value) (s : Session) : Session → Prop
  /-- The condition does not hold. -/
  | refused {t : Session} (h : condition s = .ok false t) : Stops condition body s t
  /-- A `break` ends the condition. -/
  | brokenOff {t : Session} {k : Token} (h : condition s = .error (.broke k) t) :
    Stops condition body s t
  /-- A `break` ends the body. -/
  | broken {t u : Session} {k : Token} (holds : condition s = .ok true t)
    (h : body t = .error (.broke k) u) : Stops condition body s u

section

variable {α : Type} {act : Eval α} {s t : Session}

theorem untilBreak_of_ok {a : α} (h : act s = .ok a t) : untilBreak act s = .ok (some a) t := by
  simp only [untilBreak, h]

theorem untilBreak_of_broke {k : Token} (h : act s = .error (.broke k) t) :
    untilBreak act s = .ok none t := by
  simp only [untilBreak, h]

theorem untilBreak_of_error {e : Exit} (h : act s = .error e t) (other : ∀ k, e ≠ .broke k) :
    untilBreak act s = .error e t := by
  cases e with
  | broke k => exact absurd rfl (other k)
  | failed | crashed | exhausted => simp only [untilBreak, h]

end

variable {eval : Expr → Eval Value} {condition : Eval Bool} {body : Expr} {s t u : Session}
  {v w : Value}

theorem iterate_of_stops (h : Stops condition (eval body) s t) (n : Nat) :
    iterate eval condition body (n + 1) v s = .ok v t := by
  cases h with
  | refused h => exact bind_of_ok (untilBreak_of_ok h)
  | brokenOff h => exact bind_of_ok (untilBreak_of_broke h)
  | broken holds h =>
    exact (bind_of_ok (untilBreak_of_ok holds)).trans (bind_of_ok (untilBreak_of_broke h))

theorem iterate_of_round (holds : condition s = .ok true t) (value : eval body t = .ok w u)
    (n : Nat) :
    iterate eval condition body (n + 1) v s = iterate eval condition body n w u :=
  (bind_of_ok (untilBreak_of_ok holds)).trans (bind_of_ok (untilBreak_of_ok value))

/-- A loop that has a value begins with a round, or it stops. -/
theorem round_or_stops_of_iterate {n : Nat}
    (h : iterate eval condition body (n + 1) v s = .ok w t) :
    (∃ u x z, condition s = .ok true u ∧ eval body u = .ok x z ∧
        iterate eval condition body n x z = .ok w t) ∨
      Stops condition (eval body) s t ∧ w = v := by
  have stops {u : Session} (stops : Stops condition (eval body) s u) :
      Stops condition (eval body) s t ∧ w = v := by
    rw [iterate_of_stops stops] at h
    cases h
    exact ⟨stops, rfl⟩
  cases hc : condition s with
  | ok b u =>
    cases b with
    | false => exact .inr (stops (.refused hc))
    | true =>
      cases hb : eval body u with
      | ok x z =>
        rw [iterate_of_round hc hb] at h
        exact .inl ⟨u, x, z, rfl, hb, h⟩
      | error e z =>
        by_cases broke : ∃ k, e = .broke k
        · obtain ⟨k, rfl⟩ := broke
          exact .inr (stops (.broken hc hb))
        · have other := untilBreak_of_error hb fun k he => broke ⟨k, he⟩
          have fails : iterate eval condition body (n + 1) v s = .error e z :=
            (bind_of_ok (untilBreak_of_ok hc)).trans (bind_of_error other)
          rw [fails] at h
          cases h
  | error e u =>
    by_cases broke : ∃ k, e = .broke k
    · obtain ⟨k, rfl⟩ := broke
      exact .inr (stops (.brokenOff hc))
    · have other := untilBreak_of_error hc fun k he => broke ⟨k, he⟩
      have fails : iterate eval condition body (n + 1) v s = .error e u := bind_of_error other
      rw [fails] at h
      cases h

/-- A loop has a value if it stops after some rounds: that of the last of them. -/
theorem iterate_eq_ok_iff {n : Nat} :
    iterate eval condition body n v s = .ok w t ↔
      ∃ vs u, vs.length < n ∧ Rounds condition (eval body) s vs u ∧
        Stops condition (eval body) u t ∧ w = vs.getLast?.getD v := by
  induction n generalizing s v with
  | zero =>
    constructor
    · intro h
      cases h
    · rintro ⟨vs, u, few, -⟩
      cases few
  | succ n ih =>
    constructor
    · intro h
      obtain ⟨u, x, z, holds, value, rest⟩ | ⟨stops, rfl⟩ := round_or_stops_of_iterate h
      · obtain ⟨vs, y, few, rounds, stops, rfl⟩ := ih.1 rest
        refine ⟨x :: vs, y, Nat.succ_lt_succ few, .round holds value rounds, stops, ?_⟩
        rw [List.getLast?_cons, Option.getD_some]
      · exact ⟨[], s, Nat.succ_pos n, .none s, stops, rfl⟩
    · rintro ⟨vs, u, few, rounds, stops, rfl⟩
      cases rounds with
      | none => exact iterate_of_stops stops n
      | @round _ y z _ x vs holds value rest =>
        rw [iterate_of_round holds value, ih, List.getLast?_cons, Option.getD_some]
        exact ⟨vs, u, Nat.lt_of_succ_lt_succ few, rest, stops, rfl⟩

/-- Evaluated within a budget, a loop has the value of its last round, or null if there is none. -/
theorem loop_eq_ok_iff {n : Nat} {e : Expr} {c : Option Expr} (loop : e.loop? = some (c, body)) :
    evaluate (n + 1) e s = .ok w t ↔
      ∃ vs u, vs.length < n ∧ Rounds (goesOn (evaluate n) c) (evaluate n body) s vs u ∧
        Stops (goesOn (evaluate n) c) (evaluate n body) u t ∧ w = vs.getLast?.getD .null := by
  cases e with
  | loop keyword body =>
    cases loop
    exact iterate_eq_ok_iff
  | loopWhile keyword condition body =>
    cases loop
    exact iterate_eq_ok_iff
  | _ => cases loop

end Eval

/-! ### Breaks without a loop -/

/-- The expression stands at the top of the program, or it is the body of a function in it. -/
def Expr.Heads (program : List Expr) (e : Expr) : Prop :=
  e ∈ program ∨ ∃ Γ name params, Site program Γ (.function name params e)

theorem Expr.Heads.site {program : List Expr} {e : Expr} (h : Expr.Heads program e) :
    ∃ Γ, Site program Γ e := by
  obtain mem | ⟨Γ, name, params, site⟩ := h
  · exact ⟨[], .of_mem mem⟩
  · exact ⟨_, site.part (List.mem_singleton_self _)⟩

namespace Session

/-- The expression is where a function or a program starts, and no loop in it stands around a
`break` at the location. -/
def Strays (s : Session) (l : Location) (e : Expr) : Prop :=
  s.Starts e ∧ ∃ k ∈ e.exposed, k.location = l

/-- The expression stands in a program that has a `break` at the location around which no loop of
the same function body stands. -/
def Loose (s : Session) (l : Location) (e : Expr) : Prop :=
  ∃ q ∈ s.programs, (∃ Γ, Site q.2 Γ e) ∧
    ∃ d, Expr.Heads q.2 d ∧ ∃ k ∈ d.exposed, k.location = l

end Session

namespace Discipline

variable {s t : Session} {l : Location}

/-- Where nothing strays at a location, no `break` fails there. -/
def confining (l : Location) : Discipline where
  sound _ := True
  closure _ _ := True
  ready _ _ := True
  watch s e := ¬s.Strays l e
  raises _ d := d ≠ .runtime l .breakOutsideLoop

theorem ne_of_isStatic {d : Diagnostic} (static : d.isStatic) (f : Fault) : d ≠ .runtime l f := by
  rintro rfl
  cases static

theorem confining_lawful : (confining l).Lawful where
  closure_mono _ _ := trivial
  ready_mono _ _ _ := trivial
  raises_mono h _ := h
  sound_back _ _ _ _ _ := trivial
  define _ _ _ _ _ _ _ := trivial
  params _ _ _ _ _ _ _ := trivial
  assign _ _ _ _ := trivial
  enter _ _ := trivial
  nests _ _ _ _ _ _ _ := trivial
  compile _ _ := trivial
  programs _ _ _ _ := trivial
  parts _ _ _ := trivial
  members _ _ _ _ _ := trivial
  makes _ _ _ _ := trivial
  calls _ _ _ _ := trivial
  raises_runtime _ _ _ other same := other (Diagnostic.runtime.inj same).2
  raises_static _ _ static := ne_of_isStatic static _
  raises_stray _ _ watch starts hk same := watch ⟨starts, _, hk, (Diagnostic.runtime.inj same).1⟩
  raises_slip _ _ := nofun

theorem tidy_confining (active : s.store.HasFrame s.frame) : (confining l).Tidy s :=
  .of_sound (fun _ => trivial) trivial active

/-- All that is evaluated stands in accepted programs. Where none of these is met that is loose at
the location, if there is one, no `break` fails there. -/
def standing (l : Option Location) : Discipline where
  sound s := ∀ f params body, s.store.origin? f = some (.call params body) →
    ∃ q ∈ s.programs, Expr.Heads q.2 body
  closure s c := ∃ q ∈ s.programs, ∃ Γ name, Site q.2 Γ (.function name c.params c.body)
  ready s e := ∃ q ∈ s.programs, ∃ Γ, Site q.2 Γ e
  watch s e := ∀ place ∈ l, ¬s.Loose place e
  raises _ d := ∀ place ∈ l, d ≠ .runtime place .breakOutsideLoop

variable {place : Option Location}

/-- Soundness is kept by what keeps the origins of frames. -/
theorem standing_congr (h : (standing place).sound s) (programs : s.programs ⊆ t.programs)
    (tree : s.store.SameTree t.store) : (standing place).sound t := by
  intro f params body opened
  obtain ⟨q, hq, heads⟩ := h f params body (tree.origin f ▸ opened)
  exact ⟨q, programs hq, heads⟩

theorem standing_enter (h : (standing place).sound s) {origin : Origin} {f : FrameId}
    (opens : (standing place).Opens s f origin) : (standing place).sound (s.enter origin f) := by
  intro g params body opened
  obtain opened | same := Store.origin?_branch_eq_some opened
  · exact h g params body opened
  · subst same
    obtain ⟨q, hq, Γ, name, site⟩ := opens
    exact ⟨q, hq, .inr ⟨Γ, name, params, site⟩⟩

/-- What starts is an expression at the top of a program or the body of a function. -/
theorem heads_of_starts (h : (standing place).sound s) {e : Expr} (starts : s.Starts e) :
    ∃ q ∈ s.programs, Expr.Heads q.2 e := by
  obtain ⟨params, opened⟩ | ⟨-, q, hq, he⟩ := starts
  · exact h s.frame params e opened
  · exact ⟨q, hq, .inl he⟩

theorem standing_lawful : (standing place).Lawful where
  closure_mono := by
    rintro s t c ⟨q, hq, site⟩ advances
    exact ⟨q, advances.programs hq, site⟩
  ready_mono h advances _ := Session.Includes.mono h advances
  raises_mono h _ := h
  sound_back _ _ h same _ :=
    standing_congr h (same.programs ▸ List.Subset.refl _) (Store.sameTree_of_frames_eq same.frames)
  define _ _ _ _ _ _ h := standing_congr h (List.Subset.refl _) (Store.sameTree_define _ _ _ _)
  params _ _ _ _ _ _ h := standing_congr h (List.Subset.refl _) (Store.sameTree_define _ _ _ _)
  assign _ _ _ h := standing_congr h (List.Subset.refl _) (Store.sameTree_replace _ _ _ _)
  enter h opens := standing_enter h opens
  nests _ _ _ h u same _ :=
    standing_congr h (same.programs ▸ List.Subset.refl _) (Store.sameTree_of_frames_eq same.frames)
  compile {s t source program} h compiled := by
    have advances := s.advances_compile source
    have store := s.store_compile source
    rw [compiled] at advances store
    have frames := congrArg Store.frames store
    exact standing_congr h advances.programs (Store.sameTree_of_frames_eq frames)
  programs _ _ hq he := Session.Includes.of_mem hq he
  parts h hp _ := Session.Includes.part h hp
  members h advances _ hp _ :=
    (Session.Includes.member h (Expr.mem_of_inOrder hp)).mono
      ((Session.advances_enter _ _ _).trans advances)
  makes := by
    rintro s t name params e ⟨q, hq, Γ, site⟩ advances - -
    exact ⟨q, advances.programs hq, Γ, name, site⟩
  calls := by
    rintro s t c ⟨q, hq, Γ, name, site⟩ advances - -
    have function : s.Includes (.function name c.params c.body) := ⟨q, hq, Γ, site⟩
    exact function.body.mono ((Session.advances_enter _ _ _).trans advances)
  raises_runtime _ _ _ other _ _ same := other (Diagnostic.runtime.inj same).2
  raises_static _ _ static _ _ := ne_of_isStatic static _
  raises_stray := by
    intro s e k sound _ watch starts hk l hl same
    obtain ⟨q, hq, heads⟩ := heads_of_starts sound starts
    exact watch l hl ⟨q, hq, heads.site, e, heads, k, hk, (Diagnostic.runtime.inj same).1⟩
  raises_slip _ _ _ _ := nofun

/-- In all sessions that can be reached, what is evaluated stands in accepted programs. -/
theorem tidy_standing (h : s.Reachable) : (standing place).Tidy s := by
  have tidy : (standing none).Tidy s := by
    refine standing_lawful.tidy_of_reachable (fun _ _ _ => nofun) ?_ h
    intro files base policy input now f params body opened
    have opened := (Store.empty.sameTree_addBuiltins.origin f).symm.trans opened
    cases Store.origin?_empty opened
  exact ⟨tidy.sound, tidy.active, tidy.values, tidy.elements⟩

end Discipline

namespace Session

variable {s t : Session} {l : Location} {n : Nat}

/-- No `break` leaves a function that is called. -/
theorem invoke_ne_broke (active : s.store.HasFrame s.frame) (n : Nat) (x : Token) (v : Value)
    (vs : List Value) (k : Token) (t : Session) :
    Eval.invoke (Eval.evaluate n) x v vs s ≠ .error (.broke k) t := by
  intro h
  have keeps := Discipline.free_lawful.keeps_evaluate (fun _ _ => trivial) n
  have ends : Discipline.free.Ends s (fun _ _ => False) Discipline.free.Holds
      (Eval.invoke (Eval.evaluate n) x v vs s) :=
    (Discipline.free_lawful.does_invoke keeps (Discipline.tidy_free active) x
      (fun _ _ _ _ _ _ => trivial) (fun _ _ _ _ _ _ _ _ => trivial)
      fun _ _ _ _ _ _ _ => trivial).ends
  rw [h] at ends
  exact ends.leaves

/-- A `break` that fails in an evaluation was met where a function or a program starts. -/
theorem meets_of_failed (active : s.store.HasFrame s.frame) {e : Expr} {d : Diagnostic}
    (h : Eval.evaluate n e s = .error (.failed d) t)
    (contains : d.Contains (.runtime l .breakOutsideLoop)) :
    Eval.Meets (Strays · l ·) n fun eval => eval e s := by
  by_contra unmet
  have ends := Discipline.confining_lawful.ends_evaluate (fun _ _ => Iff.rfl) unmet
    (Discipline.tidy_confining active) trivial
  rw [h] at ends
  exact ends.admits _ contains rfl

/-- The same holds of a program that is run in the frame of global names. -/
theorem meets_of_interpretBy (active : s.store.HasFrame s.frame) (root : s.frame = Store.root)
    {q : Path × List Expr} (accepted : q ∈ s.programs) {ds : List Diagnostic}
    (h : s.interpretBy (Eval.evaluate n) q.2 = (.failed ds, t)) {d : Diagnostic} (mem : d ∈ ds)
    (contains : d.Contains (.runtime l .breakOutsideLoop)) :
    Eval.Meets (Strays · l ·) n fun eval => s.interpretBy eval q.2 := by
  by_contra unmet
  have runs : (Discipline.confining l).Runs s q.2 :=
    Discipline.confining_lawful.runs_of_accepted root accepted
  have concludes := (Discipline.confining_lawful.concludes_evaluate (fun _ _ => Iff.rfl) unmet
    (Discipline.tidy_confining active) runs).2
  rw [h] at concludes
  exact concludes d mem _ contains rfl

/-- A program that fails with a `break` was at a place of a source that is loose. -/
theorem Reachable.meets_loose (h : s.Reachable) {program : List Expr}
    (accepted : (s.baseDirectory, program) ∈ s.programs) {ds : List Diagnostic}
    (failed : s.interpretBy (Eval.evaluate n) program = (.failed ds, t)) {d : Diagnostic}
    (mem : d ∈ ds) (contains : d.Contains (.runtime l .breakOutsideLoop)) :
    Eval.Meets (Loose · l ·) n fun eval => s.interpretBy eval program := by
  by_contra unmet
  have allowed (t : Session) (e : Expr) :
      (Discipline.standing (some l)).watch t e ↔ ¬t.Loose l e := by
    simp [Discipline.standing]
  have runs : (Discipline.standing (some l)).Runs s program :=
    Discipline.standing_lawful.runs_of_accepted h.tied.1 accepted
  have concludes := (Discipline.standing_lawful.concludes_evaluate allowed unmet
    (Discipline.tidy_standing h) runs).2
  rw [failed] at concludes
  exact concludes d mem _ contains l rfl rfl

/-- A `break` that leaves an expression is exposed in it, and none leaves a function that is called.
None leaves a loop: its value is that of the last body that had one, or null, whether its condition
fails or a `break` ends its condition or its body. A `break` that has no loop to end, and fails, was
met in the body of a function that was called or at the top of a program. A program that fails so,
if only in a program inside it, has come to a source that has this `break` outside the loops of its
function body. -/
theorem breaks_stay (active : s.store.HasFrame s.frame) (n : Nat) :
    (∀ e k t, Eval.evaluate n e s = .error (.broke k) t → k ∈ e.exposed) ∧
      (∀ x v vs k t, Eval.invoke (Eval.evaluate n) x v vs s ≠ .error (.broke k) t) ∧
      (∀ e c body, e.loop? = some (c, body) →
        (∀ k t, Eval.evaluate n e s ≠ .error (.broke k) t) ∧
          ∀ w t, Eval.evaluate n e s = .ok w t ↔ ∃ m vs u, n = m + 1 ∧ vs.length < m ∧
            Eval.Rounds (Eval.goesOn (Eval.evaluate m) c) (Eval.evaluate m body) s vs u ∧
            Eval.Stops (Eval.goesOn (Eval.evaluate m) c) (Eval.evaluate m body) u t ∧
            w = vs.getLast?.getD .null) ∧
      (∀ e d l t, Eval.evaluate n e s = .error (.failed d) t →
        d.Contains (.runtime l .breakOutsideLoop) →
          Eval.Meets (Strays · l ·) n fun eval => eval e s) ∧
      (∀ q ∈ s.programs, s.frame = Store.root →
        ∀ ds t, s.interpretBy (Eval.evaluate n) q.2 = (.failed ds, t) →
          ∀ d ∈ ds, ∀ l, d.Contains (.runtime l .breakOutsideLoop) →
            Eval.Meets (Strays · l ·) n fun eval => s.interpretBy eval q.2) ∧
      (s.Reachable → ∀ program, (s.baseDirectory, program) ∈ s.programs →
        ∀ ds t, s.interpretBy (Eval.evaluate n) program = (.failed ds, t) →
          ∀ d ∈ ds, ∀ l, d.Contains (.runtime l .breakOutsideLoop) →
            Eval.Meets (Loose · l ·) n fun eval => s.interpretBy eval program) := by
  refine ⟨fun e k t => exposed_of_broke active, invoke_ne_broke active n, fun e c body loop => ?_,
    fun e d l t => meets_of_failed active, fun q accepted root ds t failed d mem l =>
      meets_of_interpretBy active root accepted failed mem,
    fun h program accepted ds t failed d mem l => h.meets_loose accepted failed mem⟩
  refine ⟨fun k t h => ?_, fun w t => ?_⟩
  · have hk := exposed_of_broke active h
    rw [Expr.exposed_of_loop loop] at hk
    cases hk
  · cases n with
    | zero => exact ⟨nofun, fun ⟨m, _, _, same, _⟩ => (Nat.succ_ne_zero m same.symm).elim⟩
    | succ n =>
      rw [Eval.loop_eq_ok_iff loop]
      constructor
      · rintro ⟨vs, u, rest⟩
        exact ⟨n, vs, u, rfl, rest⟩
      · rintro ⟨m, vs, u, same, rest⟩
        obtain rfl := Nat.succ.inj same
        exact ⟨vs, u, rest⟩

/-- Of two `break`s only that leaves an array which no loop stands around. -/
theorem breaks_stay_in_a_loop :
    let s := new .empty .current .propagate (.ofBytes []) 0
    let keyword (column : Nat) : Token := ⟨.break, "break", none, ⟨1, column⟩⟩
    let e := Expr.array [.loop ⟨.while, "while", none, ⟨1, 2⟩⟩ (.break (keyword 8)),
      .break (keyword 16)] ⟨.rightBracket, "]", none, ⟨1, 21⟩⟩
    s.store.HasFrame s.frame ∧
      ∀ k t, Eval.evaluate 3 e s = .error (.broke k) t → k = keyword 16 := by
  intro s keyword e
  have active : s.store.HasFrame s.frame := (sound_new _ _ _ _ _).root.hasFrame
  refine ⟨active, fun k t broke => ?_⟩
  exact List.mem_singleton.1 ((breaks_stay active 3).1 e k t broke)

end Session

end FoxScript
