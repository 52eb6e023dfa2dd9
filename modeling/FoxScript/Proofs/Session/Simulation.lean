import FoxScript.Proofs.Session.Builtins

/-!
# Evaluation in tied sessions

Expressions that are ready under a lawful tie can be evaluated side by side: the evaluations end
alike, with values that correspond, with failures that correspond or with the budget used up on both
sides, and leave the sessions tied.

## Main definitions

* `Eval.watched`: evaluation that stops with an alarm where an expression does not pass a check.

## Main statements

* `Tie.Lawful.agree_step`: one level of evaluation.
* `Tie.Lawful.simulates`: evaluation of any depth. Where all expressions that are ready pass the
  check, the alarm is never raised.
* `Tie.Lawful.interpretBy`: whole programs.
-/
namespace FoxScript

open scoped Classical in
/-- Evaluates an expression within a budget, like `evaluate`, but stops with `alarm` as soon as an
expression is to be evaluated that does not pass the check. -/
noncomputable def Eval.watched (check : Session → Expr → Prop) (alarm : Exit) :
    Nat → Expr → Eval Value
  | 0, _ => throw .exhausted
  | n + 1, e => do
    if check (← get) e then step (watched check alarm n) n e else throw alarm

theorem Eval.watched_of_check {check : Session → Expr → Prop} {s : Session} {e : Expr}
    (h : check s e) (alarm : Exit) (n : Nat) :
    watched check alarm (n + 1) e s = step (watched check alarm n) n e s := by
  classical
  have chosen : (if check s e then step (watched check alarm n) n e else throw alarm) s =
      step (watched check alarm n) n e s := by rw [if_pos h]
  exact chosen

theorem Eval.watched_of_not_check {check : Session → Expr → Prop} {s : Session} {e : Expr}
    (h : ¬check s e) (alarm : Exit) (n : Nat) :
    watched check alarm (n + 1) e s = .error alarm s := by
  classical
  have chosen : (if check s e then step (watched check alarm n) n e else throw alarm) s =
      .error alarm s := by
    rw [if_neg h]
    rfl
  exact chosen

/-- A check that everything passes changes nothing. -/
theorem Eval.watched_true (alarm : Exit) (n : Nat) :
    watched (fun _ _ => True) alarm n = evaluate n := by
  induction n with
  | zero => rfl
  | succ n ih =>
    funext e s
    rw [Eval.watched_of_check trivial, ih]
    rfl

namespace Tie

variable {T : Tie} {s s' t t' : Session}

/-- Outcomes of programs that correspond. -/
inductive Concluded (T : Tie) (s s' : Session) : Outcome → Outcome → Prop
  /-- Both have a value. -/
  | value {v v' : Value} (h : T.Alike s s' v v') : Concluded T s s' (.value v) (.value v')
  /-- Both fail. -/
  | failed {ds ds' : List Diagnostic} (h : List.Forall₂ T.diag ds ds') :
    Concluded T s s' (.failed ds) (.failed ds')
  /-- Neither can replace an element. -/
  | crashed : Concluded T s s' .crashed .crashed
  /-- Both use up their budget. -/
  | exhausted : Concluded T s s' .exhausted .exhausted

namespace Lawful

variable (law : T.Lawful)

include law

/-! ### Operators -/

theorem agree_arithmetic (tied : T.Tied s s') (op : Token) (x y : Float) :
    T.Agree s s' T.Alike (Eval.arithmetic op x y) (Eval.arithmetic op x y) := by
  rw [Eval.arithmetic]
  split
  case h_4 =>
    split
    · exact law.agree_fail tied op _
    · exact .pure tied (.number _)
  case h_9 => exact .throw tied (.failed (law.diag_refl _))
  all_goals
    first
      | exact .pure tied (.number _)
      | exact .pure tied (.bool _)

theorem agree_join (tied : T.Tied s s') (op : Token) {v v' w w' : Value}
    (hv : T.Alike s s' v v') (hw : T.Alike s s' w w') :
    T.Agree s s' T.Alike (Eval.join op v w) (Eval.join op v' w') := by
  have joined : T.Agree s s' T.Alike
      (Eval.readStore fun s => .text (v.render s ++ w.render s))
      (Eval.readStore fun s => .text (v'.render s ++ w'.render s)) := by
    refine .ok tied (.refl s) (.refl s') ?_
    simp only [tied.render hv, tied.render hw]
    exact .text _
  cases hv with
  | text t => exact joined
  | _ =>
    cases hw with
    | text t => exact joined
    | _ => exact law.agree_fail tied op _

theorem agree_binary (tied : T.Tied s s') (op : Token) {v v' w w' : Value}
    (hv : T.Alike s s' v v') (hw : T.Alike s s' w w') :
    T.Agree s s' T.Alike (Eval.binary op v w) (Eval.binary op v' w') := by
  have equal : v'.equal s'.store w' = v.equal s.store w := tied.equal hv hw
  simp only [Eval.binary]
  split
  · refine .ok tied (.refl s) (.refl s') ?_
    simp only [equal]
    exact .bool _
  · refine .ok tied (.refl s) (.refl s') ?_
    simp only [equal]
    exact .bool _
  · have other : T.Agree s s' T.Alike
        (if op.kind = .plus then Eval.join op v w
          else Eval.fail op (.operandsNotNumbers v.kind w.kind))
        (if op.kind = .plus then Eval.join op v' w'
          else Eval.fail op (.operandsNotNumbers v'.kind w'.kind)) := by
      rw [Value.Alike.kind hv, Value.Alike.kind hw]
      split
      · exact law.agree_join tied op hv hw
      · exact law.agree_fail tied op _
    cases hv with
    | number x =>
      cases hw with
      | number y => exact law.agree_arithmetic tied op x y
      | _ => exact other
    | _ => exact other

theorem agree_unary (tied : T.Tied s s') (op : Token) {v v' : Value} (h : T.Alike s s' v v') :
    T.Agree s s' T.Alike (Eval.unary op v) (Eval.unary op v') := by
  simp only [Eval.unary]
  split
  · cases h with
    | number x => exact .pure tied (.number _)
    | _ => exact law.agree_fail tied op _
  · rw [Value.Alike.isTruthy h]
    exact .pure tied (.bool _)

theorem agree_nonEmptyArray (tied : T.Tied s s') (x : Token) {v v' : Value}
    (h : T.Alike s s' v v') :
    T.Agree s s' Same (Eval.nonEmptyArray x v) (Eval.nonEmptyArray x v') := by
  cases h with
  | array a =>
    refine .bind_same (.readStore tied (tied.isEmpty_elements a).symm)
      fun t t' isEmpty tied _ _ => ?_
    cases isEmpty with
    | true => exact law.agree_fail tied x _
    | false => exact .pure tied rfl
  | _ => exact law.agree_fail tied x _

/-! ### What contains other expressions -/

section

variable {eval eval' : Expr → Eval Value} (sim : T.Simulates eval eval')

include sim

theorem agree_invoke (tied : T.Tied s s') (x : Token) {v v' : Value} (h : T.Alike s s' v v')
    {vs vs' : List Value} (args : List.Forall₂ (T.Alike s s') vs vs') :
    T.Agree s s' T.Alike (Eval.invoke eval x v vs) (Eval.invoke eval' x v' vs') := by
  cases h with
  | @builtin id b lends =>
    simp only [Eval.invoke, Function.arity, ← args.length_eq, bne_iff_ne, ne_eq, ite_not]
    split
    · rename_i arity
      exact law.agree_builtin sim tied x lends args arity.symm
    · exact law.agree_fail tied x _
  | @closure id name params params' body body' f f' closure =>
    obtain ⟨scoping, binds, ready⟩ := law.enters tied.scoping closure
    have length : params.length = params'.length := binds.length_eq
    simp only [Eval.invoke, Function.arity, ← args.length_eq]
    refine .ite (by rw [length]) (fun _ => length ▸ law.agree_fail tied x _) fun _ => ?_
    refine law.agree_inNewFrame tied scoping fun tied => ?_
    have args := law.allAlike_mono args (s.extends_enter (.call params body) f)
      (s'.extends_enter (.call params' body') f')
    refine (law.agree_bindParameters tied binds args).bind fun t t' _ _ tied left right _ => ?_
    exact law.agree_confined (sim _ _ _ _ tied (law.ready_mono ready left right))
  | _ => exact law.agree_fail tied x _

theorem agree_accepts (c : Expr) {c' : Expr} (tied : T.Tied s s') (ready : T.ready s s' c c')
    {v v' : Value} (h : T.Alike s s' v v') :
    T.Agree s s' Same (Eval.accepts eval v c) (Eval.accepts eval' v' c') := by
  induction c using Expr.induction_parts generalizing s s' c' with
  | step c ih =>
  have value : T.Agree s s' Same
      (do
        let w ← eval c
        Eval.readStore fun s => w.equal s v)
      (do
        let w ← eval' c'
        Eval.readStore fun s => w.equal s v') := by
    refine (sim _ _ _ _ tied ready).bind fun t t' w w' tied left right hw => ?_
    exact .readStore tied (tied.equal hw (law.alike_mono h left.toExtends right.toExtends)).symm
  cases law.form tied.scoping ready with
  | anyPattern wildcard => exact .pure tied rfl
  | orPattern left pipe right =>
    refine .bind_same (ih [] _ _ List.mem_cons_self tied left h) fun t t' accepted tied hl hr => ?_
    cases accepted with
    | true => exact .pure tied rfl
    | false =>
      exact ih [] _ _ (List.mem_cons_of_mem _ List.mem_cons_self) tied
        (law.ready_mono right hl hr) (law.alike_mono h hl.toExtends hr.toExtends)
  | _ => exact value

theorem agree_choose {cs cs' : List Case} (tied : T.Tied s s')
    (ready : List.Forall₂ (T.CaseReady s s') cs cs') {v v' : Value} (h : T.Alike s s' v v') :
    T.Agree s s' T.Alike (Eval.choose eval v cs) (Eval.choose eval' v' cs') := by
  induction cs generalizing s s' cs' with
  | nil =>
    cases ready
    exact .pure tied .null
  | cons c cs ih =>
    cases ready with
    | cons hc ready =>
      obtain ⟨arrow, condition, body⟩ := hc
      refine .bind_same (law.agree_accepts sim _ tied condition h) fun t t' accepted tied hl hr => ?_
      cases accepted with
      | true => exact sim _ _ _ _ tied (law.ready_mono body hl hr)
      | false =>
        refine ih tied (ready.imp fun c c' h => ?_) (law.alike_mono h hl.toExtends hr.toExtends)
        obtain ⟨arrow, condition, body⟩ := h
        exact ⟨arrow, law.ready_mono condition hl hr, law.ready_mono body hl hr⟩

theorem agree_iterate {condition condition' : Eval Bool} {e e' : Expr} (tied : T.Tied s s')
    (hc : ∀ t t', T.Tied t t' → s.Grows t → s'.Grows t' →
      T.Agree t t' Same condition condition')
    (ready : T.ready s s' e e') (n : Nat) {v v' : Value} (h : T.Alike s s' v v') :
    T.Agree s s' T.Alike (Eval.iterate eval condition e n v)
      (Eval.iterate eval' condition' e' n v') := by
  induction n generalizing s s' v v' with
  | zero => exact .throw tied .exhausted
  | succ n ih =>
    refine (hc s s' tied (.refl s) (.refl s')).untilBreak.bind fun t t' r r' tied hl hr hr' => ?_
    have h := law.alike_mono h hl.toExtends hr.toExtends
    have ready := law.ready_mono ready hl hr
    cases hr' with
    | none => exact .pure tied h
    | @some b b' same =>
      obtain rfl : b = b' := same
      cases b with
      | false => exact .pure tied h
      | true =>
        refine (sim _ _ _ _ tied ready).untilBreak.bind fun u u' r r' tied hl' hr' hv => ?_
        cases hv with
        | none => exact .pure tied (law.alike_mono h hl'.toExtends hr'.toExtends)
        | some hv =>
          refine ih tied (fun w w' tied left right => ?_) (law.ready_mono ready hl' hr') hv
          exact hc w w' tied (hl.trans (hl'.trans left)) (hr.trans (hr'.trans right))

omit law in
/-- The truth of a condition is the same on both sides. -/
theorem agree_condition {e e' : Expr} (tied : T.Tied s s') (ready : T.ready s s' e e') :
    T.Agree s s' Same (do return (← eval e).isTruthy) (do return (← eval' e').isTruthy) :=
  (sim _ _ _ _ tied ready).bind fun _ _ _ _ tied _ _ h =>
    .pure tied (Value.Alike.isTruthy h).symm

/-- One level of evaluation. -/
theorem agree_step (rounds : Nat) {e e' : Expr} (tied : T.Tied s s') (ready : T.ready s s' e e') :
    T.Agree s s' T.Alike (Eval.step eval rounds e) (Eval.step eval' rounds e') := by
  cases law.form tied.scoping ready with
  | literal value => exact .pure tied (.ofLiteral value)
  | «variable» use => exact law.agree_valueOf tied use
  | array close elements =>
    refine (law.agree_all sim tied elements .nil).bind fun t t' vs vs' tied _ _ h => ?_
    exact law.agree_newArray tied h
  | assign value use =>
    refine (sim _ _ _ _ tied value).bind fun t t' v v' tied left right h => ?_
    refine (law.agree_ownerOf tied (law.uses_mono use left right)).bind
      fun u u' f f' tied left right meets => ?_
    have h := law.alike_mono h left.toExtends right.toExtends
    cases meets with
    | @ok f f' _ replace =>
      have replaced : T.Agree u u' (fun _ _ _ _ => True)
          (Eval.modifyStore fun s => s.replace f _ v) (Eval.modifyStore fun s => s.replace f' _ v') :=
        .change (law.tied_replace tied (replace v v' h)) (u.grows_replace _ _ _)
          (u'.grows_replace _ _ _) trivial
      refine replaced.bind fun _ _ _ _ tied left right _ => ?_
      exact .pure tied (law.alike_mono h left.toExtends right.toExtends)
  | assignElement index value use =>
    refine (sim _ _ _ _ tied index).bind fun t t' i i' tied left right hi => ?_
    have use := law.uses_mono use left right
    refine (sim _ _ _ _ tied (law.ready_mono value left right)).bind
      fun u u' v v' tied left right hv => ?_
    have hi := law.alike_mono hi left.toExtends right.toExtends
    have use := law.uses_mono use left right
    refine (law.agree_valueOf tied use).bind fun w w' x x' tied left right hx => ?_
    have hi := law.alike_mono hi left.toExtends right.toExtends
    have hv := law.alike_mono hv left.toExtends right.toExtends
    refine (law.agree_setElement tied (fun f => law.diag_use f use) hx hi hv).bind
      fun _ _ _ _ tied left right _ => ?_
    exact .pure tied (law.alike_mono hv left.toExtends right.toExtends)
  | binary hd op he =>
    refine (sim _ _ _ _ tied hd).bind fun t t' v v' tied left right hv => ?_
    refine (sim _ _ _ _ tied (law.ready_mono he left right)).bind
      fun u u' w w' tied left right hw => ?_
    exact law.agree_binary tied op (law.alike_mono hv left.toExtends right.toExtends) hw
  | block scoping members =>
    refine .get (law.agree_inNewFrame tied scoping fun tied => ?_)
    exact law.agree_last sim tied members .null
  | «break» keyword => exact .throw tied (.broke keyword)
  | call callee args close =>
    refine (sim _ _ _ _ tied callee).bind fun t t' v v' tied left right hv => ?_
    refine (law.agree_all sim tied (law.allReady_mono args left right) .nil).bind
      fun u u' vs vs' tied left right hvs => ?_
    exact law.agree_invoke sim tied close (law.alike_mono hv left.toExtends right.toExtends) hvs
  | function binds closure => exact law.agree_closure tied binds closure
  | group inner => exact sim _ _ _ _ tied inner
  | «import» path lends => exact law.agree_importFile sim lends tied path
  | index target index close =>
    refine (sim _ _ _ _ tied target).bind fun t t' v v' tied left right hv => ?_
    have index := law.ready_mono index left right
    refine .bind_same (law.agree_nonEmptyArray tied close hv) fun t t' a tied left right => ?_
    refine (sim _ _ _ _ tied (law.ready_mono index left right)).bind
      fun u u' i i' tied _ _ hi => ?_
    have element : T.Agree u u' (fun t t' => Gives (T.Alike t t'))
        (Eval.readStore fun s => s.element a i) (Eval.readStore fun s => s.element a i') :=
      .readStore tied (tied.element a hi)
    exact element.bind fun _ _ _ _ tied _ _ h =>
      agree_ofExcept tied (fun f => law.diag_refl _) h
  | slice target lower upper close =>
    refine (sim _ _ _ _ tied target).bind fun t t' v v' tied left right hv => ?_
    have lower := law.ready_mono lower left right
    have upper := law.ready_mono upper left right
    refine .bind_same (law.agree_nonEmptyArray tied close hv) fun t t' a tied left right => ?_
    refine (sim _ _ _ _ tied (law.ready_mono lower left right)).bind
      fun u u' i i' tied left' right' hi => ?_
    have upper := law.ready_mono upper (left.trans left') (right.trans right')
    refine (sim _ _ _ _ tied upper).bind fun w w' j j' tied left right hj => ?_
    have hi := law.alike_mono hi left.toExtends right.toExtends
    have slice : T.Agree w w' (fun t t' => Gives (T.AllAlike t t'))
        (Eval.readStore fun s => s.slice a i j) (Eval.readStore fun s => s.slice a i' j') :=
      .readStore tied (tied.slice a hi hj)
    refine slice.bind fun t t' _ _ tied _ _ h => ?_
    refine (agree_ofExcept tied (fun f => law.diag_refl _) h).bind fun _ _ _ _ tied _ _ h => ?_
    exact law.agree_newArray tied h
  | logical hd op he =>
    refine (sim _ _ _ _ tied hd).bind fun t t' v v' tied left right hv => ?_
    refine .ite (by rw [Value.Alike.isTruthy hv]) (fun _ => .pure tied hv) fun _ => ?_
    exact sim _ _ _ _ tied (law.ready_mono he left right)
  | «match» keyword scrutinee cases =>
    refine (sim _ _ _ _ tied scrutinee).bind fun t t' v v' tied left right hv => ?_
    refine law.agree_choose sim tied (cases.imp fun c c' h => ?_) hv
    obtain ⟨arrow, condition, body⟩ := h
    exact ⟨arrow, law.ready_mono condition left right, law.ready_mono body left right⟩
  | orPattern hd pipe he => exact .throw tied (.failed (law.diag_refl _))
  | anyPattern wildcard => exact .throw tied (.failed (law.diag_refl _))
  | ternary condition yes no op =>
    refine (sim _ _ _ _ tied condition).bind fun t t' v v' tied left right hv => ?_
    refine .ite (by rw [Value.Alike.isTruthy hv]) (fun _ => ?_) fun _ => ?_
    · exact sim _ _ _ _ tied (law.ready_mono yes left right)
    · exact sim _ _ _ _ tied (law.ready_mono no left right)
  | unary op operand =>
    refine (sim _ _ _ _ tied operand).bind fun t t' v v' tied _ _ hv => ?_
    exact law.agree_unary tied op hv
  | declare binds =>
    exact (law.agree_define tied binds .null).bind fun _ _ _ _ tied _ _ _ => .pure tied .null
  | declareAs binds value =>
    refine (sim _ _ _ _ tied value).bind fun t t' v v' tied left right hv => ?_
    refine (law.agree_define tied (law.binds_mono binds left right) hv).bind
      fun _ _ _ _ tied left right _ => ?_
    exact .pure tied (law.alike_mono hv left.toExtends right.toExtends)
  | loop keyword body =>
    exact law.agree_iterate sim tied (fun _ _ tied _ _ => .pure tied rfl) body rounds .null
  | loopWhile keyword condition body =>
    refine law.agree_iterate sim tied (fun t t' tied left right => ?_) body rounds .null
    exact agree_condition sim tied (law.ready_mono condition left right)

/-! ### Evaluation of any depth -/

omit sim in
/-- Expressions that are ready can be evaluated side by side, within any budget. If all of them pass
a check, the left evaluation can be watched, and the alarm is never raised. -/
theorem simulates {check : Session → Expr → Prop}
    (passes : ∀ s s' e e', T.Tied s s' → T.ready s s' e e' → check s e) (alarm : Exit) (n : Nat) :
    T.Simulates (Eval.watched check alarm n) (Eval.evaluate n) := by
  induction n with
  | zero => exact fun s s' e e' tied _ => .throw tied .exhausted
  | succ n ih =>
    intro s s' e e' tied ready
    have step : T.Agree s s' T.Alike (Eval.step (Eval.watched check alarm n) n e)
        (Eval.evaluate (n + 1) e') := law.agree_step ih n tied ready
    rw [Agree, Eval.watched_of_check (passes s s' e e' tied ready)]
    exact step

omit sim in
theorem simulates_evaluate (n : Nat) : T.Simulates (Eval.evaluate n) (Eval.evaluate n) := by
  rw [← Eval.watched_true .crashed n]
  have sim : T.Simulates (Eval.watched (fun _ _ => True) .crashed n) (Eval.evaluate n) :=
    law.simulates (fun _ _ _ _ _ _ => trivial) .crashed n
  rwa [Eval.watched_true] at sim ⊢

/-- Programs that are ready can be run side by side. -/
theorem interpretBy {program program' : List Expr} (tied : T.Tied s s')
    (ready : List.Forall₂ (T.ready s s') program program') :
    T.Tied (s.interpretBy eval program).2 (s'.interpretBy eval' program').2 ∧
      s.Grows (s.interpretBy eval program).2 ∧ s'.Grows (s'.interpretBy eval' program').2 ∧
      T.Concluded (s.interpretBy eval program).2 (s'.interpretBy eval' program').2
        (s.interpretBy eval program).1 (s'.interpretBy eval' program').1 := by
  have ends := law.agree_interpret sim tied ready
  simp only [Agree, Session.interpretBy] at ends ⊢
  generalize Eval.interpret eval program s = r, Eval.interpret eval' program' s' = r' at ends ⊢
  cases ends with
  | ok tied left right h => exact ⟨tied, left, right, .value h⟩
  | error tied left right h =>
    cases h with
    | broke keyword => exact ⟨tied, left, right, .failed (.cons (law.diag_refl _) .nil)⟩
    | failed h => exact ⟨tied, left, right, .failed (.cons h .nil)⟩
    | crashed => exact ⟨tied, left, right, .crashed⟩
    | exhausted => exact ⟨tied, left, right, .exhausted⟩

end

end Lawful

end Tie

end FoxScript
