import FoxScript.Proofs.Session.Nested

/-!
# Builtin functions in tied sessions

A builtin function that is called with arguments that correspond ends alike on both sides.

## Main statements

* `Tie.Lawful.agree_builtin`: calls with as many arguments as the builtin has parameters.
-/
namespace FoxScript

theorem forall₂_one {α α' : Type} {R : α → α' → Prop} {xs : List α} {xs' : List α'}
    (h : List.Forall₂ R xs xs') (length : xs.length = 1) :
    ∃ x x', R x x' ∧ xs = [x] ∧ xs' = [x'] := by
  cases h with
  | nil => simp at length
  | cons hx h =>
    cases h with
    | nil => exact ⟨_, _, hx, rfl, rfl⟩
    | cons => simp at length

theorem forall₂_succ {α α' : Type} {R : α → α' → Prop} {xs : List α} {xs' : List α'} {n : Nat}
    (h : List.Forall₂ R xs xs') (length : xs.length = n + 1) :
    ∃ x x' ys ys', R x x' ∧ List.Forall₂ R ys ys' ∧ ys.length = n ∧ xs = x :: ys ∧
      xs' = x' :: ys' := by
  cases h with
  | nil => simp at length
  | cons hx h => exact ⟨_, _, _, _, hx, h, by simpa using length, rfl, rfl⟩

namespace Tie

variable {T : Tie} {s s' : Session}

namespace Lawful

variable (law : T.Lawful)

include law

/-! ### Arguments -/

theorem agree_textArg (tied : T.Tied s s') (x : Token) (b : Builtin) {v v' : Value}
    (h : T.Alike s s' v v') :
    T.Agree s s' Same (Eval.textArg x b v) (Eval.textArg x b v') := by
  cases h with
  | text t => exact .pure tied rfl
  | _ => exact law.agree_builtinFault tied x _

theorem agree_arrayArg (tied : T.Tied s s') (x : Token) (b : Builtin) {v v' : Value}
    (h : T.Alike s s' v v') :
    T.Agree s s' T.AllAlike (Eval.arrayArg x b v) (Eval.arrayArg x b v') := by
  cases h with
  | array a => exact .ok tied (.refl s) (.refl s') (tied.elements a)
  | _ => exact law.agree_builtinFault tied x _

theorem agree_patternArg (tied : T.Tied s s') (x : Token) (b : Builtin) {v v' : Value}
    (h : T.Alike s s' v v') :
    T.Agree s s' Same (Eval.patternArg x b v) (Eval.patternArg x b v') := by
  refine .bind_same (law.agree_textArg tied x b h) fun t t' pattern tied _ _ => ?_
  split
  · exact .pure tied rfl
  · exact law.agree_builtinFault tied x _

/-! ### Functions -/

theorem agree_readLine (tied : T.Tied s s') (x : Token) :
    T.Agree s s' T.Alike (Eval.readLine x) (Eval.readLine x) := by
  refine .bind_same (law.agree_read tied Input.readLine) fun t t' line tied _ _ => ?_
  cases line with
  | ok cs => exact .pure tied (.text _)
  | error cause => exact law.agree_builtinFault tied x _

theorem agree_readByte (tied : T.Tied s s') :
    T.Agree s s' T.Alike Eval.readByte Eval.readByte := by
  refine .bind_same (law.agree_read tied Input.readByte) fun t t' byte tied _ _ => ?_
  cases byte with
  | some b => exact .pure tied (.number _)
  | none => exact .pure tied .null

theorem agree_charOfCode (tied : T.Tied s s') (x : Token) {v v' : Value}
    (h : T.Alike s s' v v') :
    T.Agree s s' T.Alike (Eval.charOfCode x v) (Eval.charOfCode x v') := by
  cases h with
  | number y =>
    simp only [Eval.charOfCode]
    split
    · exact .pure tied (.text _)
    · exact law.agree_builtinFault tied x _
  | _ => exact law.agree_builtinFault tied x _

theorem agree_lengthOf (tied : T.Tied s s') (x : Token) {v v' : Value}
    (h : T.Alike s s' v v') :
    T.Agree s s' T.Alike (Eval.lengthOf x v) (Eval.lengthOf x v') := by
  cases h with
  | text t => exact .pure tied (.number _)
  | array a =>
    refine .bind_same (.readStore tied (tied.size_elements a).symm) fun t t' size tied _ _ => ?_
    exact .pure tied (.number _)
  | _ => exact law.agree_builtinFault tied x _

theorem agree_arrayOfLength (tied : T.Tied s s') (x : Token) {v v' : Value}
    (h : T.Alike s s' v v') :
    T.Agree s s' T.Alike (Eval.arrayOfLength x v) (Eval.arrayOfLength x v') := by
  have invalid : T.Agree s s' T.Alike
      (do Eval.builtinFault x (.badCapacity (← Eval.readStore fun s => v.render s)))
      (do Eval.builtinFault x (.badCapacity (← Eval.readStore fun s => v'.render s))) :=
    .bind_same (.readStore tied (tied.render h).symm) fun _ _ _ tied _ _ =>
      law.agree_builtinFault tied x _
  cases h with
  | number y =>
    simp only [Eval.arrayOfLength]
    cases Number.toWhole? y with
    | none => exact invalid
    | some n =>
      refine .get (.ite (by rw [tied.memory]) (fun _ => ?_) fun _ =>
        law.agree_builtinFault tied x _)
      refine law.agree_newArray tied ?_
      rw [AllAlike, Array.toList_replicate]
      exact List.forall₂_same.2 fun v hv => List.eq_of_mem_replicate hv ▸ .null
  | _ => exact invalid

theorem agree_numberOf (tied : T.Tied s s') (x : Token) {v v' : Value}
    (h : T.Alike s s' v v') :
    T.Agree s s' T.Alike (Eval.numberOf x v) (Eval.numberOf x v') := by
  have shown := tied.render h
  cases h with
  | number y => exact .pure tied (.number y)
  | _ =>
    simp only [Eval.numberOf]
    refine .bind_same (.readStore tied shown.symm) fun t t' text tied _ _ => ?_
    split
    · exact .pure tied (.number _)
    · exact law.agree_builtinFault tied x _

omit law in
/-- A value is shown in the same way on both sides. -/
theorem agree_shown (tied : T.Tied s s') {v v' : Value} (h : T.Alike s s' v v') :
    T.Agree s s' Same (Eval.readStore fun s => v.render s) (Eval.readStore fun s => v'.render s) :=
  .readStore tied (tied.render h).symm

/-! ### Calls -/

variable {eval eval' : Expr → Eval Value} (sim : T.Simulates eval eval')

include sim

theorem agree_builtin (tied : T.Tied s s') (x : Token) {b : Builtin} (lends : T.lends b)
    {vs vs' : List Value} (args : List.Forall₂ (T.Alike s s') vs vs') (arity : vs.length = b.arity) :
    T.Agree s s' T.Alike (Eval.builtin eval x b vs) (Eval.builtin eval' x b vs') := by
  cases b with
  | clock =>
    refine .get ?_
    rw [tied.now]
    exact .pure tied (.number _)
  | print =>
    obtain ⟨v, v', h, rfl, rfl⟩ := forall₂_one args arity
    refine .bind_same (agree_shown tied h) fun t t' text tied _ _ => ?_
    exact (law.agree_print tied text).bind fun _ _ _ _ tied _ _ _ => .pure tied (.text text)
  | println =>
    obtain ⟨v, v', h, rfl, rfl⟩ := forall₂_one args arity
    refine .bind_same (agree_shown tied h) fun t t' text tied _ _ => ?_
    exact (law.agree_print tied _).bind fun _ _ _ _ tied _ _ _ => .pure tied (.text text)
  | input =>
    obtain ⟨v, v', h, rfl, rfl⟩ := forall₂_one args arity
    refine .bind_same (agree_shown tied h) fun t t' text tied _ _ => ?_
    exact (law.agree_print tied text).bind fun _ _ _ _ tied _ _ _ => law.agree_readLine tied x
  | getch => exact law.agree_readByte tied
  | charToStr =>
    obtain ⟨v, v', h, rfl, rfl⟩ := forall₂_one args arity
    exact law.agree_charOfCode tied x h
  | len =>
    obtain ⟨v, v', h, rfl, rfl⟩ := forall₂_one args arity
    exact law.agree_lengthOf tied x h
  | eval =>
    obtain ⟨v, v', h, rfl, rfl⟩ := forall₂_one args arity
    refine .bind_same (law.agree_textArg tied x .eval h) fun t t' source tied _ _ => ?_
    refine .get ?_
    rw [tied.baseDirectory]
    refine (law.agree_runNested sim lends tied source _).bind fun t t' r r' tied _ _ h => ?_
    exact agree_settle tied x (fun _ _ => law.diag_eval _) h
  | newArray =>
    obtain ⟨v, v', h, rfl, rfl⟩ := forall₂_one args arity
    exact law.agree_arrayOfLength tied x h
  | set =>
    obtain ⟨target, target', _, _, ht, args₁, arity₁, rfl, rfl⟩ := forall₂_succ args arity
    obtain ⟨i, i', _, _, hi, args₂, arity₂, rfl, rfl⟩ := forall₂_succ args₁ arity₁
    obtain ⟨v, v', hv, rfl, rfl⟩ := forall₂_one args₂ arity₂
    refine (law.agree_setElement tied (fun f => law.diag_refl _) ht hi hv).bind
      fun t t' _ _ tied left right _ => ?_
    exact .pure tied (law.alike_mono ht left.toExtends right.toExtends)
  | merge =>
    obtain ⟨v, v', _, _, hv, args₁, arity₁, rfl, rfl⟩ := forall₂_succ args arity
    obtain ⟨w, w', hw, rfl, rfl⟩ := forall₂_one args₁ arity₁
    refine (law.agree_arrayArg tied x .merge hv).bind fun t t' vs vs' tied left right hvs => ?_
    have hw := law.alike_mono hw left.toExtends right.toExtends
    refine (law.agree_arrayArg tied x .merge hw).bind fun t t' ws ws' tied left right hws => ?_
    refine law.agree_newArray tied ?_
    rw [AllAlike, Array.toList_append, Array.toList_append]
    exact List.rel_append (law.allAlike_mono hvs left.toExtends right.toExtends) hws
  | split =>
    obtain ⟨v, v', _, _, hv, args₁, arity₁, rfl, rfl⟩ := forall₂_succ args arity
    obtain ⟨p, p', hp, rfl, rfl⟩ := forall₂_one args₁ arity₁
    refine .bind_same (law.agree_textArg tied x .split hv) fun t t' text tied left right => ?_
    have hp := law.alike_mono hp left.toExtends right.toExtends
    refine .bind_same (law.agree_patternArg tied x .split hp) fun t t' pattern tied _ _ => ?_
    refine law.agree_newArray tied ?_
    simp only [AllAlike, List.forall₂_map_left_iff, List.forall₂_map_right_iff]
    exact List.forall₂_same.2 fun cs _ => .text _
  | replace =>
    obtain ⟨v, v', _, _, hv, args₁, arity₁, rfl, rfl⟩ := forall₂_succ args arity
    obtain ⟨p, p', _, _, hp, args₂, arity₂, rfl, rfl⟩ := forall₂_succ args₁ arity₁
    obtain ⟨r, r', hr, rfl, rfl⟩ := forall₂_one args₂ arity₂
    refine .bind_same (law.agree_textArg tied x .replace hv) fun t t' text tied left right => ?_
    have hp := law.alike_mono hp left.toExtends right.toExtends
    have hr := law.alike_mono hr left.toExtends right.toExtends
    refine .bind_same (law.agree_patternArg tied x .replace hp)
      fun t t' pattern tied left right => ?_
    have hr := law.alike_mono hr left.toExtends right.toExtends
    exact .bind_same (law.agree_textArg tied x .replace hr) fun t t' _ tied _ _ =>
      .pure tied (.text _)
  | trim =>
    obtain ⟨v, v', h, rfl, rfl⟩ := forall₂_one args arity
    exact .bind_same (law.agree_textArg tied x .trim h) fun t t' _ tied _ _ => .pure tied (.text _)
  | typeOf =>
    obtain ⟨v, v', h, rfl, rfl⟩ := forall₂_one args arity
    simp only [Eval.builtin, Value.Alike.kind h]
    exact .pure tied (.text _)
  | toNumber =>
    obtain ⟨v, v', h, rfl, rfl⟩ := forall₂_one args arity
    exact law.agree_numberOf tied x h
  | host name n => exact .pure tied .null

end Lawful

end Tie

end FoxScript
