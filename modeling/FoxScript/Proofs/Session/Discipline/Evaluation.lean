import FoxScript.Proofs.Session.Addressing
import FoxScript.Proofs.Session.Discipline.Builtins
import FoxScript.Proofs.Session.Restoration

/-!
# Evaluation under a discipline

What a lawful discipline says is kept by evaluation: first by one level, with one case for each form
of expression, then by induction on the budget by evaluations of any depth, and by whole programs.

## Main definitions

* `Eval.Meets`: an evaluation comes to an expression of a certain kind.
* `Discipline.Evaluates`: what evaluations of an expression do.

## Main statements

* `Discipline.Lawful.does_step`: one level of evaluation.
* `Discipline.Lawful.keeps_watched`, `Discipline.Lawful.keeps_evaluate`: evaluation of any depth.
* `Discipline.Lawful.ready_of_visits`: what a run evaluates is ready.
* `Discipline.Lawful.ends_evaluate`, `Discipline.Lawful.concludes_evaluate`: what is kept where
  nothing is met that is not allowed.
* `Discipline.Lawful.tidy_of_reachable`: what is kept holds in all sessions that can be reached.
* `Session.advances_evaluate`: no evaluation loses a name.
-/
namespace FoxScript

/-! ### What an evaluation meets -/

/-- A run of evaluations, each within the budget `n`, comes to an expression of which `P` holds: if
it stops there with an alarm, this can be noticed. -/
def Eval.Meets {α : Type} (P : Session → Expr → Prop) (n : Nat)
    (run : (Expr → Eval Value) → α) : Prop :=
  ∃ alarm, run (watched (fun s e => ¬P s e) alarm n) ≠ run (evaluate n)

theorem Eval.eq_of_not_meets {α : Type} {P watch : Session → Expr → Prop} {n : Nat}
    {run : (Expr → Eval Value) → α} (unmet : ¬Meets P n run) (h : ∀ s e, watch s e ↔ ¬P s e)
    (alarm : Exit) : run (watched watch alarm n) = run (evaluate n) := by
  have same : watch = fun s e => ¬P s e := funext fun s => funext fun e => propext (h s e)
  rw [same]
  exact not_not.1 fun differs => unmet ⟨alarm, differs⟩

/-- What is met under a condition that does not hold is not met. -/
theorem Eval.Meets.of_and {α : Type} {c : Prop} {P : Session → Expr → Prop} {n : Nat}
    {run : (Expr → Eval Value) → α} (h : Meets (fun s e => c ∧ P s e) n run) :
    c ∧ Meets P n run := by
  by_cases hc : c
  · simp only [hc, true_and] at h
    exact ⟨hc, h⟩
  · obtain ⟨alarm, differs⟩ := h
    simp only [hc, false_and, not_false_eq_true] at differs
    rw [watched_true] at differs
    exact absurd rfl differs

/-- What is bound for sure, put together from two parts. -/
theorem Session.settled_append {s : Session} {e : Expr} {xs ys : List String}
    (certain : e.certain = xs ++ ys) (hx : ∀ x ∈ xs, s.Binds x) (hy : ∀ y ∈ ys, s.Binds y) :
    s.Settled e := by
  rw [Settled, certain]
  exact List.forall_mem_append.2 ⟨hx, hy⟩

theorem Session.binds_certainBy {s : Session} {es : List Expr} (h : ∀ e ∈ es, s.Settled e) :
    ∀ x ∈ Expr.certainBy es, s.Binds x := by
  intro x hx
  obtain ⟨e, he, hx⟩ := Expr.mem_certainBy.1 hx
  exact h e he x hx

namespace Discipline

/-- What evaluations of an expression do: a `break` that leaves it is exposed in it, and with its
value the names that are certain are bound. -/
def Evaluates (D : Discipline) (s : Session) (e : Expr) (eval eval' : Expr → Eval Value) : Prop :=
  D.Does s (fun _ k => k ∈ e.exposed) (fun t v => D.Holds t v ∧ t.Settled e) (eval e) (eval' e)

variable {D : Discipline} {s t : Session} {breaks : Session → Token → Prop} {before : List Expr}

namespace Lawful

variable (law : D.Lawful)

include law

section

variable {eval eval' : Expr → Eval Value} (keeps : D.Keeps eval eval')

include keeps

/-! ### Calls -/

/-- A function is called. Builtin functions start nested programs if that is allowed. -/
theorem does_invoke (tidy : D.Tidy s) (x : Token) {v : Value} (hv : D.Holds s v)
    {vs : List Value} (hvs : ∀ w ∈ vs, D.Holds s w)
    (root : ∀ id, v = .function (.builtin id .eval) →
      ∀ t, D.After s t → ∀ u, t.SameScopes u → u.frame = Store.root → D.sound u) :
    D.Does s breaks D.Holds (Eval.invoke eval x v vs) (Eval.invoke eval' x v vs) := by
  cases v with
  | function f =>
    simp only [Eval.invoke]
    refine .ite (fun _ => .fail law tidy x rfl) fun arity => ?_
    cases f with
    | builtin id b =>
      exact law.does_builtin keeps tidy x b hvs fun hb => root id (hb ▸ rfl)
    | closure id name params body f =>
      have length : params.length = vs.length := by simpa [Function.arity] using arity
      have closure : D.closure s ⟨params, body, f⟩ := hv id name params body f rfl
      have later := s.advances_enter (.call params body) f
      have opens : D.Opens s f (.call params body) := closure
      refine (law.does_inNewFrame tidy [] opens fun tidy' => ?_).leave
        fun _ _ _ h => (List.not_mem_nil h).elim
      refine (law.does_bindParameters params tidy' (fun w hw => (hvs w hw).mono law later)
        length fun y hy t w => law.params w tidy.sound closure hy).bind
          fun t _ after _ bound => ?_
      have ready := law.calls closure after.advances after.frame bound
      refine ((keeps t body after.tidy ready).imp fun _ _ _ h => h.1).confined
        fun u k after' hk => ?_
      have starts : t.Starts body := .inl ⟨params, after.advances.origin_enter after.frame⟩
      have raised := law.raises_stray after.tidy.sound ready hk.2 starts hk.1
      exact law.raises_mono raised after'.advances
  | _ => exact .fail law tidy x rfl

/-! ### Matches -/

omit law in
/-- A condition is tried. If it does not accept the value, all that is to be tried was tried. -/
theorem does_accepts (c : Expr) (v : Value) (tidy : D.Tidy s)
    (settled : ∀ d ∈ before, s.Settled d)
    (inTurn : D.InTurn s (Expr.inOrder before c.alternatives)) :
    D.Does s (fun _ k => k ∈ c.exposed)
      (fun t accepted => (∀ d ∈ c.firstTry, t.Settled d) ∧
        (accepted = false → ∀ d ∈ c.alternatives, t.Settled d))
      (Eval.accepts eval v c) (Eval.accepts eval' v c) := by
  induction c using Expr.induction_parts generalizing s before with
  | step c ih =>
  have value (ready : D.ready s c) : D.Does s (fun _ k => k ∈ c.exposed)
      (fun t accepted => (∀ d ∈ [c], t.Settled d) ∧ (accepted = false → ∀ d ∈ [c], t.Settled d))
      (do
        let w ← eval c
        Eval.readStore fun s => w.equal s v)
      (do
        let w ← eval' c
        Eval.readStore fun s => w.equal s v) := by
    refine ((keeps s c tidy ready).leave fun _ _ _ hk => hk.1).bind
      fun t w after _ hw => ?_
    have settled := List.forall_mem_singleton.2 hw.2
    exact .readStore after.tidy ⟨settled, fun _ => settled⟩
  cases c with
  | anyPattern wildcard => exact .pure tidy ⟨nofun, nofun⟩
  | orPattern left pipe right =>
    have order := Expr.inOrder_append before left.alternatives right.alternatives
    have inLeft := inTurn.subset (order ▸ List.subset_append_left _ _)
    have inRight := inTurn.subset (order ▸ List.subset_append_right _ _)
    refine ((ih [] _ left List.mem_cons_self tidy settled inLeft).leave
      fun _ _ _ => List.mem_append_left _).bind fun t accepted after _ h => ?_
    cases accepted with
    | true => exact .pure after.tidy ⟨h.1, nofun⟩
    | false =>
      have tried : ∀ d ∈ left.alternatives.reverse ++ before, t.Settled d :=
        List.forall_mem_append.2 ⟨fun d hd => h.2 rfl d (List.mem_reverse.1 hd),
          fun d hd => after.settled (settled d hd)⟩
      refine (ih [] _ right (List.mem_cons_of_mem _ List.mem_cons_self) after.tidy tried
        (inRight.from after)).weaken (fun _ _ _ => List.mem_append_right _)
        fun u accepted later h' => ⟨fun d hd => later.settled (h.1 d hd), fun no => ?_⟩
      exact List.forall_mem_append.2
        ⟨fun d hd => later.settled (h.2 rfl d hd), fun d hd => h'.2 no d hd⟩
  | _ => exact value (inTurn s (.refl tidy) _ List.mem_cons_self settled)

omit law in
theorem does_choose {cs : List Case} (v : Value) (tidy : D.Tidy s)
    (settled : ∀ d ∈ before, s.Settled d) (inTurn : D.InTurn s (Case.inOrder before cs)) :
    D.Does s (fun _ k => k ∈ Case.exposedBy cs)
      (fun t w => D.Holds t w ∧ ∀ x ∈ Case.certainBy cs, t.Binds x)
      (Eval.choose eval v cs) (Eval.choose eval' v cs) := by
  induction cs generalizing s before with
  | nil => exact .pure tidy ⟨.of_data rfl, nofun⟩
  | cons c cs ih =>
    obtain ⟨arrow, condition, body⟩ := c
    have inCondition := inTurn.subset (List.subset_append_left _ _)
    have inBody := inTurn.subset (List.subset_append_right _ _)
    have inRest := inBody.subset (List.subset_cons_self _ _)
    refine ((does_accepts keeps condition v tidy settled inCondition).leave
      fun _ k _ hk => ?_).bind fun t accepted after _ h => ?_
    · exact List.mem_append_left _ (List.mem_append_left _ hk)
    have certain : ∀ x ∈ condition.certain, t.Binds x := by
      rw [condition.certain_eq_firstTry]
      exact Session.binds_certainBy h.1
    cases accepted with
    | true =>
      have tried : ∀ d ∈ condition.firstTry ++ before, t.Settled d :=
        List.forall_mem_append.2 ⟨h.1, fun d hd => after.settled (settled d hd)⟩
      have ready := inBody t after _ List.mem_cons_self tried
      refine (keeps t body after.tidy ready).weaken (fun _ k _ hk => ?_)
        fun u w later hw => ⟨hw.1, fun x hx => later.binds (certain x hx)⟩
      exact List.mem_append_left _ (List.mem_append_right _ hk.1)
    | false =>
      have tried : ∀ d ∈ condition.alternatives ++ before, t.Settled d :=
        List.forall_mem_append.2 ⟨h.2 rfl, fun d hd => after.settled (settled d hd)⟩
      refine (ih after.tidy tried (inRest.from after)).weaken
        (fun _ _ _ => List.mem_append_right _)
        fun u w later hw => ⟨hw.1, fun x hx => later.binds (certain x hx)⟩

/-! ### Loops -/

/-- A loop goes round. What the condition gives, of which `good` holds, lets the body be evaluated.
Unless a `break` can leave the condition, `good` has held when the loop ends. -/
theorem does_iterate {condition condition' : Eval Bool} {good : Session → Prop}
    {left : Session → Token → Prop} {e : Expr}
    (hc : ∀ t, D.After s t → D.Does t left (fun u _ => good u) condition condition')
    (ready : ∀ t, D.After s t → good t → D.ready t e) (n : Nat) {v : Value} (tidy : D.Tidy s)
    (h : D.Holds s v) :
    D.Does s breaks (fun t w => D.Holds t w ∧
        ((∃ u k, left u k) ∨ ∃ u, good u ∧ u.Advances t ∧ t.frame = u.frame))
      (Eval.iterate eval condition e n v) (Eval.iterate eval' condition' e n v) := by
  induction n generalizing s v with
  | zero => exact .throw tidy .exhausted
  | succ n ih =>
    refine (hc s (.refl tidy)).untilBreak.bind fun t r after _ hr => ?_
    have h := h.mono law after.advances
    cases r with
    | none => exact .pure after.tidy ⟨h, .inl (hr.2 rfl)⟩
    | some b =>
      have held := hr.1 b rfl
      cases b with
      | false => exact .pure after.tidy ⟨h, .inr ⟨t, held, .refl t, rfl⟩⟩
      | true =>
        refine (keeps t e after.tidy (ready t after held)).untilBreak.bind
          fun u r after' _ hr => ?_
        cases r with
        | none =>
          exact .pure after'.tidy
            ⟨h.mono law after'.advances, .inr ⟨t, held, after'.advances, after'.frame⟩⟩
        | some w =>
          exact ih (fun x later => hc x (after.trans (after'.trans later)))
            (fun x later => ready x (after.trans (after'.trans later))) after'.tidy (hr.1 w rfl).1

/-! ### One level of evaluation -/

omit keeps in
theorem does_nonEmptyArray (tidy : D.Tidy s) (x : Token) (v : Value) :
    D.Does s breaks (fun _ _ => True) (Eval.nonEmptyArray x v) (Eval.nonEmptyArray x v) := by
  cases v with
  | array a =>
    refine .look ?_
    cases (s.store.elements a).isEmpty with
    | true => exact .fail law tidy x rfl
    | false => exact .pure tidy trivial
  | _ => exact .fail law tidy x rfl

/-- A part that comes next. -/
theorem does_part {e : Expr} (ready : D.ready s e) (p : List Expr × Expr) (hp : p ∈ e.schedule)
    (after : D.After s t) (settled : ∀ d ∈ p.1, t.Settled d) :
    D.Does t (fun _ k => k ∈ p.2.exposed) (fun u v => D.Holds u v ∧ u.Settled p.2) (eval p.2)
      (eval' p.2) := by
  have next := InTurn.of_ready law ready t after p hp settled
  exact (keeps t p.2 after.tidy next).leave fun _ _ _ hk => hk.1

/-- A part of what is not a loop passes its `break`s on. -/
theorem does_inside {e : Expr} (ready : D.ready s e) (single : e.isLoop = false)
    (p : List Expr × Expr) (hp : p ∈ e.schedule) (after : D.After s t)
    (settled : ∀ d ∈ p.1, t.Settled d) :
    D.Does t (fun _ k => k ∈ e.exposed) (fun u v => D.Holds u v ∧ u.Settled p.2) (eval p.2)
      (eval' p.2) :=
  (law.does_part keeps ready p hp after settled).leave fun _ _ _ hk =>
    Expr.exposed_of_schedule single hp hk

/-- The part that comes first. -/
theorem does_first {e d : Expr} {ps : List (List Expr × Expr)} (tidy : D.Tidy s)
    (ready : D.ready s e) (single : e.isLoop = false) (schedule : e.schedule = ([], d) :: ps) :
    D.Does s (fun _ k => k ∈ e.exposed) (fun t v => D.Holds t v ∧ t.Settled d) (eval d)
      (eval' d) :=
  law.does_inside keeps ready single ([], d) (schedule ▸ List.mem_cons_self) (.refl tidy)
    (List.forall_mem_nil _)

/-- A part that comes after the first. -/
theorem does_second {e c d : Expr} {ps : List (List Expr × Expr)} (ready : D.ready s e)
    (single : e.isLoop = false) (schedule : e.schedule = ([], c) :: ([c], d) :: ps)
    (after : D.After s t) (settled : t.Settled c) :
    D.Does t (fun _ k => k ∈ e.exposed) (fun u v => D.Holds u v ∧ u.Settled d) (eval d)
      (eval' d) :=
  law.does_inside keeps ready single ([c], d)
    (schedule ▸ List.mem_cons_of_mem _ List.mem_cons_self) after
    (List.forall_mem_singleton.2 settled)

end

variable {eval : Expr → Eval Value} {m rounds : Nat} (keeps : D.Keeps eval (Eval.evaluate m))

include keeps

theorem does_assign {id : NodeId} {x : Token} {e : Expr} (tidy : D.Tidy s)
    (ready : D.ready s (.assign id x e)) (watch : D.watch s (.assign id x e)) :
    D.Evaluates s (.assign id x e) (Eval.step eval rounds)
      (Eval.step (Eval.evaluate m) rounds) := by
  refine (law.does_first keeps tidy ready rfl rfl).bind fun t v after found hv => ?_
  refine (law.does_ownerOf after.tidy id x).bind fun u f _ _ hf => ?_
  obtain ⟨rfl, owner⟩ := hf
  have sound := law.assign watch found owner after.tidy.sound
  have replaced : D.Does u (fun _ k => k ∈ (Expr.assign id x e).exposed) (fun _ _ => True)
      (Eval.modifyStore fun s => s.replace f x.lexeme v)
      (Eval.modifyStore fun s => s.replace f x.lexeme v) :=
    .value rfl (law.after_replace after.tidy hv.1 sound) trivial
  refine replaced.bind fun w _ later _ _ => ?_
  exact .pure later.tidy ⟨hv.1.mono law later.advances, later.settled hv.2⟩

theorem does_assignElement {id : NodeId} {x : Token} {i e : Expr} (tidy : D.Tidy s)
    (ready : D.ready s (.assignElement id x i e)) :
    D.Evaluates s (.assignElement id x i e) (Eval.step eval rounds)
      (Eval.step (Eval.evaluate m) rounds) := by
  refine (law.does_first keeps tidy ready rfl rfl).bind fun t j after _ hi => ?_
  refine (law.does_second keeps ready rfl rfl after hi.2).bind fun u v after' _ hv => ?_
  refine (law.does_valueOf after'.tidy id x).bind fun w a later _ _ => ?_
  refine (law.does_setElement later.tidy x a j (hv.1.mono law later.advances)).bind
    fun z _ later' _ _ => ?_
  have ends := later.trans later'
  exact .pure later'.tidy ⟨hv.1.mono law ends.advances, Session.settled_append rfl
    ((after'.trans ends).settled hi.2) (ends.settled hv.2)⟩

/-- An operator between two values that is not known leads to a fault of the system. -/
theorem does_operator {left right : Expr} {op : Token} (tidy : D.Tidy s)
    (ready : D.ready s (.binary left op right)) :
    D.Evaluates s (.binary left op right) (Eval.step eval rounds)
      (Eval.step (Eval.evaluate m) rounds) := by
  refine (law.does_first keeps tidy ready rfl rfl).bind fun t v after _ hv => ?_
  refine (law.does_second keeps ready rfl rfl after hv.2).bind fun u w later _ hw => ?_
  have slip (unknown : op.kind ∉ Eval.operators) :
      D.raises u (.system (.unknownOperator op.lexeme)) :=
    law.raises_mono (law.raises_slip ready (by simp [Expr.slip?, unknown]))
      (after.trans later).advances
  refine (law.does_binary later.tidy op v w slip).imp fun z r ends hr => ?_
  exact ⟨hr, Session.settled_append rfl ((later.trans ends).settled hv.2) (ends.settled hw.2)⟩

theorem does_block {es : List Expr} (tidy : D.Tidy s) (ready : D.ready s (.block es)) :
    D.Evaluates s (.block es) (Eval.step eval rounds) (Eval.step (Eval.evaluate m) rounds) := by
  refine .get ?_
  have opens : D.Opens s s.frame (.block es) := ready
  refine (law.does_inNewFrame tidy (Expr.exposedBy es) opens fun tidy => ?_).imp
    fun _ _ _ h => ⟨h, nofun⟩
  refine (does_last keeps tidy (v := .null) (.of_data rfl) (List.forall_mem_nil _)
    fun t after p hp settled => ?_).leave fun _ _ _ hk => hk.mem_exposedBy
  exact law.members ready after.advances after.frame hp settled

theorem does_call {callee : Expr} {args : List Expr} {close : Token} (tidy : D.Tidy s)
    (ready : D.ready s (.call callee args close)) (watch : D.watch s (.call callee args close)) :
    D.Evaluates s (.call callee args close) (Eval.step eval rounds)
      (Eval.step (Eval.evaluate m) rounds) := by
  refine (law.does_first keeps tidy ready rfl rfl).bind fun t v after found hv => ?_
  have inArgs := ((InTurn.of_ready law ready).subset (List.subset_cons_self _ _)).from after
  refine ((law.does_all keeps after.tidy AllHold.empty
    (List.forall_mem_singleton.2 hv.2) inArgs).leave fun _ _ _ => List.mem_append_right _).bind
    fun u vs after' _ hvs => ?_
  -- a nested program starts in the frame of global names, if the call is allowed
  have root (id : FunctionId) (hid : v = .function (.builtin id .eval)) (w : Session)
      (later : D.After u w) : ∀ z, w.SameScopes z → z.frame = Store.root → D.sound z :=
    law.nests watch (.eval (hid ▸ found) args close)
      ((after.trans after').trans later).advances later.tidy.sound
  refine (law.does_invoke keeps after'.tidy close (hv.1.mono law after'.advances)
    (fun w hw => hvs.1 w (Array.mem_toList_iff.1 hw)) root).imp fun w r later hr => ⟨hr, ?_⟩
  exact Session.settled_append rfl ((after'.trans later).settled hv.2)
    (Session.binds_certainBy fun d hd => later.settled (hvs.2 d hd))

theorem does_index {target i : Expr} {close : Token} (tidy : D.Tidy s)
    (ready : D.ready s (.index target i close)) :
    D.Evaluates s (.index target i close) (Eval.step eval rounds)
      (Eval.step (Eval.evaluate m) rounds) := by
  refine (law.does_first keeps tidy ready rfl rfl).bind fun t v after _ hv => ?_
  refine (law.does_nonEmptyArray after.tidy close v).bind fun u a later _ _ => ?_
  refine (law.does_second keeps ready rfl rfl (after.trans later) (later.settled hv.2)).bind
    fun w j after' _ hj => ?_
  have settled : w.Settled (.index target i close) :=
    Session.settled_append rfl ((later.trans after').settled hv.2) hj.2
  refine .look (.ofExcept law after'.tidy close (fun x hx => ⟨?_, settled⟩)
    fun f => Store.isPlain_of_element)
  obtain old | rfl := Store.mem_of_element hx
  · exact after'.tidy.elements a x old
  · exact .of_data rfl

theorem does_slice {target lower upper : Expr} {close : Token} (tidy : D.Tidy s)
    (ready : D.ready s (.slice target lower upper close)) :
    D.Evaluates s (.slice target lower upper close) (Eval.step eval rounds)
      (Eval.step (Eval.evaluate m) rounds) := by
  refine (law.does_first keeps tidy ready rfl rfl).bind fun t v after _ hv => ?_
  refine (law.does_nonEmptyArray after.tidy close v).bind fun u a later _ _ => ?_
  have after := after.trans later
  have hv := later.settled hv.2
  refine (law.does_second keeps ready rfl rfl after hv).bind fun w i later _ hi => ?_
  have after := after.trans later
  have hv := later.settled hv
  refine (law.does_inside keeps ready rfl ([lower, target], upper)
    (List.mem_cons_of_mem _ (List.mem_cons_of_mem _ List.mem_cons_self)) after
    (List.forall_mem_cons.2 ⟨hi.2, List.forall_mem_singleton.2 hv⟩)).bind
    fun x j later _ hj => ?_
  have settled : x.Settled (.slice target lower upper close) := Session.settled_append rfl
    (List.forall_mem_append.2 ⟨later.settled hv, later.settled hi.2⟩) hj.2
  have cut : D.Does x (fun _ k => k ∈ (Expr.slice target lower upper close).exposed) D.AllHold
      (Eval.ofExcept close (x.store.slice a i j)) (Eval.ofExcept close (x.store.slice a i j)) :=
    .ofExcept law later.tidy close
      (fun vs hvs v hv => later.tidy.elements a v (Store.mem_of_slice hvs v hv))
      fun f => Store.isPlain_of_slice
  refine .look (cut.bind fun y vs ends _ hvs => ?_)
  exact (law.does_newArray ends.tidy hvs).imp fun _ _ ends' h =>
    ⟨h, (ends.trans ends').settled settled⟩

theorem does_match {keyword : Token} {e : Expr} {cs : List Case} (tidy : D.Tidy s)
    (ready : D.ready s (.match keyword e cs)) :
    D.Evaluates s (.match keyword e cs) (Eval.step eval rounds)
      (Eval.step (Eval.evaluate m) rounds) := by
  refine (law.does_first keeps tidy ready rfl rfl).bind fun t v after _ hv => ?_
  have inCases := ((InTurn.of_ready law ready).subset (List.subset_cons_self _ _)).from after
  exact (does_choose keeps v after.tidy (List.forall_mem_singleton.2 hv.2) inCases).weaken
    (fun _ _ _ => List.mem_append_right _) fun u w later hw =>
      ⟨hw.1, Session.settled_append rfl (later.settled hv.2) hw.2⟩

theorem does_ternary {c yes no : Expr} {op : Token} (tidy : D.Tidy s)
    (ready : D.ready s (.ternary c yes no op)) :
    D.Evaluates s (.ternary c yes no op) (Eval.step eval rounds)
      (Eval.step (Eval.evaluate m) rounds) := by
  refine (law.does_first keeps tidy ready rfl rfl).bind fun t v after _ hv => ?_
  refine .ite (fun _ => ?_) fun _ => ?_
  · exact (law.does_second keeps ready rfl rfl after hv.2).imp fun u w later hw =>
      ⟨hw.1, later.settled hv.2⟩
  · exact (law.does_inside keeps ready rfl ([c], no)
      (List.mem_cons_of_mem _ (List.mem_cons_of_mem _ List.mem_cons_self)) after
      (List.forall_mem_singleton.2 hv.2)).imp fun u w later hw => ⟨hw.1, later.settled hv.2⟩

theorem does_declareAs {x : Token} {e : Expr} (tidy : D.Tidy s)
    (ready : D.ready s (.declareAs x e)) (watch : D.watch s (.declareAs x e)) :
    D.Evaluates s (.declareAs x e) (Eval.step eval rounds)
      (Eval.step (Eval.evaluate m) rounds) := by
  refine (law.does_first keeps tidy ready rfl rfl).bind fun t v after _ hv => ?_
  have advances := t.advances_define x.lexeme v
  have sound := law.define v ready watch rfl after.advances after.frame after.tidy.sound
  refine (law.does_define after.tidy sound (hv.1.mono law advances)).bind
    fun u _ later _ bound => ?_
  exact .pure later.tidy ⟨hv.1.mono law later.advances,
    List.forall_mem_cons.2 ⟨bound, later.settled hv.2⟩⟩

theorem does_loop {keyword : Token} {e : Expr} (tidy : D.Tidy s)
    (ready : D.ready s (.loop keyword e)) :
    D.Evaluates s (.loop keyword e) (Eval.step eval rounds)
      (Eval.step (Eval.evaluate m) rounds) := by
  have next (t : Session) (after : D.After s t) (_ : True) : D.ready t e :=
    InTurn.of_ready law ready t after _ List.mem_cons_self (List.forall_mem_nil _)
  have goes (t : Session) (after : D.After s t) :
      D.Does t (fun _ _ => False) (fun _ _ => True) (pure true) (pure true) :=
    .pure after.tidy trivial
  exact (law.does_iterate keeps goes next rounds tidy (v := .null) (.of_data rfl)).imp
    fun _ _ _ h => ⟨h.1, nofun⟩

theorem does_loopWhile {keyword : Token} {c e : Expr} (tidy : D.Tidy s)
    (ready : D.ready s (.loopWhile keyword c e)) :
    D.Evaluates s (.loopWhile keyword c e) (Eval.step eval rounds)
      (Eval.step (Eval.evaluate m) rounds) := by
  have holds (t : Session) (after : D.After s t) :
      D.Does t (fun _ k => k ∈ c.exposed) (fun u _ => u.Settled c)
        (do return (← eval c).isTruthy) (do return (← Eval.evaluate m c).isTruthy) :=
    (law.does_part keeps ready _ List.mem_cons_self after (List.forall_mem_nil _)).bind
      fun u v after _ hv => .pure after.tidy hv.2
  have next (t : Session) (after : D.After s t) (settled : t.Settled c) : D.ready t e :=
    InTurn.of_ready law ready t after _ (List.mem_cons_of_mem _ List.mem_cons_self)
      (List.forall_mem_singleton.2 settled)
  refine (law.does_iterate keeps holds next rounds tidy (v := .null) (.of_data rfl)).imp
    fun t v _ h => ⟨h.1, ?_⟩
  -- the names of the condition are certain only if no break can leave it
  by_cases none : c.exposed.isEmpty
  · obtain ⟨-, k, left⟩ | ⟨u, settled, later, frame⟩ := h.2
    · rw [List.isEmpty_iff.1 none] at left
      cases left
    · have settled := later.settled frame settled
      simpa [Session.Settled, Expr.certain, none] using settled
  · simp [Session.Settled, Expr.certain, none]

/-- One level of evaluation: one case for each form of expression. -/
theorem does_step {e : Expr} (tidy : D.Tidy s) (ready : D.ready s e) (watch : D.watch s e) :
    D.Evaluates s e (Eval.step eval rounds) (Eval.step (Eval.evaluate m) rounds) := by
  cases e with
  | literal value =>
    refine .pure tidy ⟨?_, nofun⟩
    cases value <;> exact .of_data rfl
  | «variable» id name =>
    exact (law.does_valueOf tidy id name).imp fun _ _ _ h => ⟨h, nofun⟩
  | array es close =>
    refine (law.does_all keeps tidy AllHold.empty (List.forall_mem_nil _)
      (InTurn.of_ready law ready)).bind fun t vs after _ h => ?_
    exact (law.does_newArray after.tidy h.1).imp fun u v later hv =>
      ⟨hv, Session.binds_certainBy fun d hd => later.settled (h.2 d hd)⟩
  | assign => exact law.does_assign keeps tidy ready watch
  | assignElement => exact law.does_assignElement keeps tidy ready
  | binary => exact law.does_operator keeps tidy ready
  | block => exact law.does_block keeps tidy ready
  | «break» keyword => exact .throw tidy (.broke (List.mem_singleton_self _))
  | call => exact law.does_call keeps tidy ready watch
  | function => exact law.does_closure tidy ready watch
  | group => exact law.does_first keeps tidy ready rfl rfl
  | «import» path =>
    exact (law.does_importFile keeps tidy path watch).imp fun _ _ _ h => ⟨h, nofun⟩
  | index => exact law.does_index keeps tidy ready
  | slice => exact law.does_slice keeps tidy ready
  | logical =>
    refine (law.does_first keeps tidy ready rfl rfl).bind fun t v after _ hv => ?_
    refine .ite (fun _ => .pure after.tidy hv) fun _ => ?_
    exact (law.does_second keeps ready rfl rfl after hv.2).imp fun u w later hw =>
      ⟨hw.1, later.settled hv.2⟩
  | «match» => exact law.does_match keeps tidy ready
  | orPattern | anyPattern => exact .throw tidy (.failed (.system (law.raises_slip ready rfl)))
  | ternary => exact law.does_ternary keeps tidy ready
  | unary op =>
    refine (law.does_first keeps tidy ready rfl rfl).bind fun t v after _ hv => ?_
    exact (law.does_unary after.tidy op v).imp fun u w later hw => ⟨hw, later.settled hv.2⟩
  | declare name =>
    have sound := law.define .null ready watch rfl (.refl s) rfl tidy.sound
    refine (law.does_define tidy sound (.of_data rfl)).bind fun t _ after _ bound => ?_
    exact .pure after.tidy ⟨.of_data rfl, List.forall_mem_singleton.2 bound⟩
  | declareAs => exact law.does_declareAs keeps tidy ready watch
  | loop => exact law.does_loop keeps tidy ready
  | loopWhile => exact law.does_loopWhile keeps tidy ready

/-! ### Evaluation of any depth -/

omit keeps in
/-- An evaluation can be stopped where an expression does not pass a check. What passes has to be
allowed, and what does not pass must not be ready, or not be allowed. -/
theorem keeps_watched {check : Session → Expr → Prop} {alarm : Exit}
    (lets : ∀ s e, check s e → D.watch s e)
    (stops : ∀ s e, D.Tidy s → D.ready s e → ¬check s e → ¬D.watch s e ∧ alarm = .exhausted)
    (n : Nat) : D.Keeps (Eval.watched check alarm n) (Eval.evaluate n) := by
  induction n with
  | zero => exact fun s e tidy _ => .throw tidy .exhausted
  | succ n ih =>
    intro s e tidy ready
    by_cases passes : check s e
    · have watch := lets s e passes
      have step : D.Does s (fun _ k => k ∈ e.exposed ∧ D.watch s e)
          (fun t v => D.Holds t v ∧ t.Settled e) (Eval.step (Eval.watched check alarm n) n e)
          (Eval.step (Eval.evaluate n) n e) :=
        (law.does_step ih tidy ready watch).leave fun _ _ _ hk => ⟨hk, watch⟩
      have same := Eval.watched_of_check passes alarm n
      exact ⟨same ▸ step.ends, same ▸ step.same⟩
    · obtain ⟨stopped, rfl⟩ := stops s e tidy ready passes
      have same := Eval.watched_of_not_check passes .exhausted n
      exact ⟨same ▸ .error (.refl tidy) .exhausted, .inr ⟨⟨s, e, stopped⟩, s, same⟩⟩

omit keeps in
/-- An evaluation that is stopped where something is not allowed. -/
theorem keeps_allowed (n : Nat) : D.Keeps (Eval.watched D.watch .exhausted n) (Eval.evaluate n) :=
  law.keeps_watched (fun _ _ => id) (fun _ _ _ _ stopped => ⟨stopped, rfl⟩) n

omit keeps in
/-- If everything is allowed, an evaluation keeps what is to be kept. -/
theorem keeps_evaluate (all : ∀ s e, D.watch s e) (n : Nat) :
    D.Keeps (Eval.evaluate n) (Eval.evaluate n) := by
  have keeps : D.Keeps (Eval.watched (fun _ _ => True) .exhausted n) (Eval.evaluate n) :=
    law.keeps_watched (fun s e _ => all s e) (fun _ _ _ _ stopped => absurd trivial stopped) n
  rwa [Eval.watched_true] at keeps

omit keeps in
/-- What is kept by an evaluation that meets nothing that is not allowed. -/
theorem ends_evaluate {P : Session → Expr → Prop} (h : ∀ s e, D.watch s e ↔ ¬P s e) {n : Nat}
    {e : Expr} (unmet : ¬Eval.Meets P n fun eval => eval e s) (tidy : D.Tidy s)
    (ready : D.ready s e) :
    D.Ends s (fun _ k => k ∈ e.exposed ∧ D.watch s e) (fun t v => D.Holds t v ∧ t.Settled e)
      (Eval.evaluate n e s) := by
  have same := Eval.eq_of_not_meets unmet h .exhausted
  exact same ▸ (law.keeps_allowed n s e tidy ready).ends

end Lawful

theorem Ends.after {α : Type} {breaks : Session → Token → Prop} {post : Session → α → Prop}
    {r : EStateM.Result Exit Session α} (h : D.Ends s breaks post r) :
    D.After s (Eval.sessionAfter r) := by
  cases h with
  | ok after | error after => exact after

/-! ### Programs -/

/-- How a program can end in a session. -/
def Concludes (D : Discipline) (t : Session) : Outcome → Prop
  | .value v => D.Holds t v
  | .failed ds => ∀ d ∈ ds, D.Admits t d
  | .crashed | .exhausted => True

namespace Lawful

variable (law : D.Lawful) {eval eval' : Expr → Eval Value} (keeps : D.Keeps eval eval')
  {program : List Expr}

include keeps

/-- A program that can be evaluated keeps what is to be kept, and fails in possible ways only. -/
theorem concludes_interpretBy (tidy : D.Tidy s) (runs : D.Runs s program) :
    D.After s (s.interpretBy eval program).2 ∧
      D.Concludes (s.interpretBy eval program).2 (s.interpretBy eval program).1 := by
  have ends : D.Ends s (fun _ _ => False) D.Holds (Eval.interpret eval program s) :=
    (does_interpret keeps tidy runs).ends
  rw [Session.interpretBy]
  cases ended : Eval.interpret eval program s with
  | ok v t =>
    rw [ended] at ends
    cases ends with
    | ok after h => exact ⟨after, h⟩
  | error e t =>
    rw [ended] at ends
    cases ends with
    | error after h =>
      cases h with
      | broke h => exact h.elim
      | failed h => exact ⟨after, List.forall_mem_singleton.2 h⟩
      | crashed | exhausted => exact ⟨after, trivial⟩

/-- A program is evaluated as if it was not watched, if everything is allowed. -/
theorem interpretBy_eq (all : ∀ s e, D.watch s e) (tidy : D.Tidy s) (runs : D.Runs s program) :
    s.interpretBy eval program = s.interpretBy eval' program := by
  have does : D.Does s (fun _ _ => False) D.Holds (Eval.interpret eval program)
      (Eval.interpret eval' program) := does_interpret keeps tidy runs
  obtain same | ⟨⟨t, e, stopped⟩, -⟩ := does.same
  · rw [Session.interpretBy, Session.interpretBy, same]
  · exact absurd (all t e) stopped

omit keeps

include law

/-- What is kept by the run of a program that meets nothing that is not allowed. -/
theorem concludes_evaluate {P : Session → Expr → Prop} (h : ∀ s e, D.watch s e ↔ ¬P s e) {n : Nat}
    (unmet : ¬Eval.Meets P n fun eval => s.interpretBy eval program) (tidy : D.Tidy s)
    (runs : D.Runs s program) :
    D.After s (s.interpretBy (Eval.evaluate n) program).2 ∧
      D.Concludes (s.interpretBy (Eval.evaluate n) program).2
        (s.interpretBy (Eval.evaluate n) program).1 := by
  have same := Eval.eq_of_not_meets unmet h .exhausted
  exact same ▸ concludes_interpretBy (law.keeps_allowed n) tidy runs

/-- All that the run of a program evaluates is ready. -/
theorem ready_of_visits (all : ∀ s e, D.watch s e) (tidy : D.Tidy s) (runs : D.Runs s program)
    {n : Nat} {e : Expr} (visits : s.Visits n program t e) : D.Tidy t ∧ D.ready t e := by
  obtain ⟨alarm, differs⟩ := visits
  by_contra unready
  refine differs (interpretBy_eq (law.keeps_watched (fun s e _ => all s e) ?_ n) all tidy runs)
  rintro u d tidy ready stopped
  refine absurd ?_ stopped
  rintro ⟨rfl, rfl⟩
  exact unready ⟨tidy, ready⟩

omit law in
/-- A new session holds builtin functions only. -/
theorem tidy_new {files : FileSystem} {base : Path} {policy : NestedErrors} {input : Input}
    {now : Float} (sound : D.sound (.new files base policy input now)) :
    D.Tidy (.new files base policy input now) where
  sound := sound
  active := (Session.sound_new files base policy input now).root.hasFrame
  values f x v hv := by
    obtain old | ⟨id, b, -, -, -, rfl⟩ := Store.lookup?_addBuiltins hv
    · rw [Store.lookup?_empty] at old
      cases old
    · exact .builtin id b
  elements a v hv := by
    have none : (Session.new files base policy input now).store.elements a = #[] := by
      rw [Store.elements, Session.new, Store.arrays_addBuiltins]
      rfl
    simp [none] at hv

/-- What is kept by a lawful discipline holds in all sessions that can be reached. -/
theorem tidy_of_reachable (all : ∀ s e, D.watch s e)
    (new : ∀ files base policy input now, D.sound (.new files base policy input now))
    (h : s.Reachable) : D.Tidy s := by
  induction h with
  | new files base policy input now => exact tidy_new (new files base policy input now)
  | @compile s _ source ih => exact (law.after_compile ih source).tidy
  | @interpret s h program accepted n ih =>
    have runs := law.runs_of_accepted h.between.1 accepted
    exact (concludes_interpretBy (law.keeps_evaluate all n) ih runs).1.tidy
  | @adjust s _ base policy output input files now memory ih =>
    have same : s.SameScopes { s with
        baseDirectory := base, policy := policy, output := output, input := input, files := files,
        now := now, memory := memory } := ⟨rfl, rfl, rfl, Nat.le_refl _⟩
    exact (After.of_sameScopes law ih same rfl rfl).tidy

end Lawful

/-! ### What holds without any assumption -/

/-- The discipline that asks nothing. -/
def free : Discipline where
  sound _ := True
  closure _ _ := True
  ready _ _ := True
  watch _ _ := True
  raises _ _ := True

theorem free_lawful : free.Lawful := by
  constructor <;> intros <;> trivial

theorem tidy_free {s : Session} (active : s.store.HasFrame s.frame) : free.Tidy s :=
  .of_sound (fun _ => trivial) trivial active

theorem ends_free {s : Session} (active : s.store.HasFrame s.frame) (n : Nat) (e : Expr) :
    free.Ends s (fun _ k => k ∈ e.exposed ∧ True) (fun t v => free.Holds t v ∧ t.Settled e)
      (Eval.evaluate n e s) :=
  (free_lawful.keeps_evaluate (fun _ _ => trivial) n s e (tidy_free active) trivial).ends

end Discipline

namespace Session

/-- No evaluation loses a frame, a name or a program. -/
theorem advances_evaluate {s : Session} (active : s.store.HasFrame s.frame) (n : Nat) (e : Expr) :
    s.Advances (Eval.sessionAfter (Eval.evaluate n e s)) :=
  (Discipline.ends_free active n e).after.advances

/-- A `break` that leaves an expression is exposed in it. -/
theorem exposed_of_broke {s t : Session} (active : s.store.HasFrame s.frame) {n : Nat} {e : Expr}
    {k : Token} (h : Eval.evaluate n e s = .error (.broke k) t) : k ∈ e.exposed := by
  have ends := Discipline.ends_free active n e
  rw [h] at ends
  exact ends.leaves.1

end Session

end FoxScript
