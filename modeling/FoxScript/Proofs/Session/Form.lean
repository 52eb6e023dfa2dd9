import FoxScript.Proofs.Scope.Renaming
import FoxScript.Proofs.Session.Tie

/-!
# Expressions side by side with themselves

An expression that runs side by side with itself, or with itself under a renaming, has the same form
on both sides. What is left to be asked is told by its parts, by the use that it is itself and by
the names that it binds.

## Main statements

* `Tie.form_rename`: an expression and the renamed expression.
* `Tie.form_of_parts`: an expression and itself.
-/
namespace FoxScript

/-- The name that an expression binds by itself. -/
def Expr.binding? : Expr → Option Token
  | .function name _ _ => name
  | .declare x | .declareAs x _ => some x
  | _ => none

theorem Expr.mem_bound_of_binding? {e : Expr} {x : Token} (h : x ∈ e.binding?) :
    (x.lexeme, true) ∈ e.bound := by
  cases e <;> simp_all [Expr.binding?, Expr.bound, nameScope]

/-! ### Expressions in turn -/

section

variable {ρ : Renaming} {Γ : Context}

theorem Expr.forall₂_renameInTurn {R : Expr → Expr → Prop} {es : List Expr}
    (h : ∀ names d, (Γ.bind names, d) ∈ Expr.inTurn Γ es → R d (d.rename ρ (Γ.bind names))) :
    List.Forall₂ R es (Expr.renameInTurn ρ Γ es) := by
  induction es generalizing Γ with
  | nil => exact .nil
  | cons e es ih =>
    refine .cons (by simpa using h [] e (by simp [Expr.inTurn])) (ih fun names d mem => ?_)
    rw [Context.bind_bind] at mem ⊢
    exact h _ d (List.mem_cons_of_mem _ mem)

theorem Tie.forall₂_renameInTurn {T : Tie} {s s' : Session} {cs : List Case}
    (h : ∀ names d, (Γ.bind names, d) ∈ Case.inTurn Γ cs →
      T.ready s s' d (d.rename ρ (Γ.bind names))) :
    List.Forall₂ (T.CaseReady s s') cs (Case.renameInTurn ρ Γ cs) := by
  induction cs generalizing Γ with
  | nil => exact .nil
  | cons c cs ih =>
    obtain ⟨arrow, condition, body⟩ := c
    refine .cons (.mk arrow ?_ ?_) (ih fun names d mem => ?_)
    · simpa using h [] condition (by simp [Case.inTurn])
    · exact h condition.bound body (by simp [Case.inTurn])
    · have same : ((Γ.bind condition.bound).bind body.bound).bind names =
          Γ.bind (names ++ (body.bound ++ condition.bound)) := by
        simp [Context.bind_bind]
      rw [same] at mem ⊢
      exact h _ d (List.mem_cons_of_mem _ (List.mem_cons_of_mem _ mem))

end

/-! ### Forms -/

/-- An expression that is ready together with the renamed expression, told by its parts. -/
theorem Tie.form_rename {T : Tie} {s s' : Session} {e : Expr} (ρ : Renaming) (Γ : Context)
    (part : ∀ names d, (Γ.bind names, d) ∈ e.parts Γ →
      T.ready s s' d (d.rename ρ (Γ.bind names)))
    (block : ∀ es, e = .block es →
      T.scoping (s.enter (.block es) s.frame)
        (s'.enter ((Origin.block es).rename ρ Γ) s'.frame) ∧
      ∀ names d, (Γ.enter (.block es) names, d) ∈ e.parts Γ →
        T.ready (s.enter (.block es) s.frame) (s'.enter ((Origin.block es).rename ρ Γ) s'.frame) d
          (d.rename ρ (Γ.enter (.block es) names)))
    (function : ∀ name params body Δ, e = .function name params body →
      Δ = (Γ.bind (nameScope name)).enter (.call params body) (parameterScope params) →
      T.closure s s' ⟨params, body, s.frame⟩
        ⟨params.map (ρ.atBinding Δ), body.rename ρ Δ, s'.frame⟩)
    (shown : ∀ name params body, e = .function (some name) params body →
      ρ.atBinding Γ name = name)
    (use : ∀ u ∈ e.use? Γ, T.uses s s' u.2.id u.2.name u.2.id (ρ.atUse u.1 u.2.name))
    (binds : ∀ x ∈ e.binding?, T.binds s s' x (ρ.atBinding Γ x))
    (lends : ∀ path, e = .import path → T.lends .eval) : T.Form s s' e (e.rename ρ Γ) := by
  have first {d : Expr} {ps : List (Context × Expr)} (h : e.parts Γ = (Γ, d) :: ps) :
      T.ready s s' d (d.rename ρ Γ) := by
    simpa using part [] d (by simp [h])
  have second {d : Expr} {names : Scope} {p : Context × Expr} {ps : List (Context × Expr)}
      (h : e.parts Γ = p :: (Γ.bind names, d) :: ps) :
      T.ready s s' d (d.rename ρ (Γ.bind names)) :=
    part names d (by simp [h])
  have third {d : Expr} {names more : Scope} {p q : Context × Expr} {ps : List (Context × Expr)}
      (h : e.parts Γ = p :: q :: ((Γ.bind names).bind more, d) :: ps) :
      T.ready s s' d (d.rename ρ ((Γ.bind names).bind more)) := by
    rw [Context.bind_bind] at h ⊢
    exact part (more ++ names) d (by simp [h])
  cases e with
  | literal value => exact .literal value
  | «variable» id x => exact .variable (use _ rfl)
  | array es close => exact .array close (Expr.forall₂_renameInTurn part)
  | assign id x value => exact .assign (first rfl) (use _ rfl)
  | assignElement id x i value => exact .assignElement (first rfl) (second rfl) (use _ rfl)
  | binary left op right => exact .binary (first rfl) op (second rfl)
  | block es =>
    obtain ⟨scoping, ready⟩ := block es rfl
    refine .block scoping (Expr.forall₂_renameInTurn fun names d mem => ?_)
    rw [Context.bind_enter] at mem ⊢
    exact ready _ d mem
  | «break» keyword => exact .break keyword
  | call callee args close =>
    refine .call (first rfl) (Expr.forall₂_renameInTurn fun names d mem => ?_) close
    rw [Context.bind_bind] at mem ⊢
    exact part _ d (List.mem_cons_of_mem _ mem)
  | function name params body =>
    have closure := function name params body _ rfl rfl
    cases name with
    | none => exact .function (by simp) closure
    | some name =>
      have same := shown name params body rfl
      have form : T.Form s s' (.function (some name) params body) (.function (some name) _ _) :=
        .function (fun x hx => by
          obtain rfl := Option.some.inj hx
          simpa [same] using binds name rfl) closure
      simpa [Expr.rename, same] using form
  | group inner => exact .group (first rfl)
  | «import» path => exact .import path (lends path rfl)
  | index target i close => exact .index (first rfl) (second rfl) close
  | slice target lower upper close => exact .slice (first rfl) (second rfl) (third rfl) close
  | logical left op right => exact .logical (first rfl) op (second rfl)
  | «match» keyword scrutinee cases =>
    refine .match keyword (first rfl) (Tie.forall₂_renameInTurn fun names d mem => ?_)
    rw [Context.bind_bind] at mem ⊢
    exact part _ d (List.mem_cons_of_mem _ mem)
  | orPattern left pipe right => exact .orPattern (first rfl) pipe (second rfl)
  | anyPattern wildcard => exact .anyPattern wildcard
  | ternary condition yes no op => exact .ternary (first rfl) (second rfl) (third rfl) op
  | unary op operand => exact .unary op (first rfl)
  | declare x => exact .declare (binds x rfl)
  | declareAs x value => exact .declareAs (binds x rfl) (part _ _ List.mem_cons_self)
  | loop keyword body => exact .loop keyword (first rfl)
  | loopWhile keyword condition body => exact .loopWhile keyword (first rfl) (second rfl)

/-- An expression that is ready together with itself, told by its parts. -/
theorem Tie.form_of_parts {T : Tie} {s s' : Session} {e : Expr} (Γ : Context)
    (part : ∀ names d, (Γ.bind names, d) ∈ e.parts Γ → T.ready s s' d d)
    (block : ∀ es, e = .block es →
      T.scoping (s.enter (.block es) s.frame) (s'.enter (.block es) s'.frame) ∧
      ∀ names d, (Γ.enter (.block es) names, d) ∈ e.parts Γ →
        T.ready (s.enter (.block es) s.frame) (s'.enter (.block es) s'.frame) d d)
    (function : ∀ name params body, e = .function name params body →
      T.closure s s' ⟨params, body, s.frame⟩ ⟨params, body, s'.frame⟩)
    (use : ∀ u ∈ e.use? Γ, T.uses s s' u.2.id u.2.name u.2.id u.2.name)
    (binds : ∀ x ∈ e.binding?, T.binds s s' x x)
    (lends : ∀ path, e = .import path → T.lends .eval) : T.Form s s' e e := by
  have form := @Tie.form_rename T s s' e (Renaming.idle ⟨.root, "", ""⟩) Γ
  simp only [Expr.rename_idle, Origin.rename_idle, Renaming.atBinding_idle, Renaming.atUse_idle,
    id_eq, List.map_id] at form
  exact form part block (fun name params body _ h _ => function name params body h)
    (fun _ _ _ _ => trivial) use binds lends

end FoxScript
