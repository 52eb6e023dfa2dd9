import FoxScript.Proofs.Scope.Resolution

/-!
# Programs in a block

The expressions of a program stand in a block as they stand in the program, but for one more scope
around them. The names that are global in the program are the names of this scope, and uses of all
other names mean what they mean in the program.

## Main definitions

* `Context.Bounded`: scopes bind no more before a place than in the end.
* `Context.Wrapped`: the scopes around a place, and one more around all of them.

## Main statements

* `Site.bounded`: all places are bounded.
* `Site.wrapped`: the places of a program are places in its block.
* `Resolution.faults_of_block`: a program has no faults if its block has none.
-/
namespace FoxScript

/-! ### What scopes bind before a place -/

namespace Context

/-- What scopes bind before a place is among what they bind in the end. -/
def Bounded (Γ : Context) : Prop := ∀ c ∈ Γ, c.scope ⊆ c.origin.scope

theorem Bounded.mono {Γ : Context} {names more : Scope} (h : (Γ.bind names).Bounded)
    (subset : more ⊆ names) : (Γ.bind more).Bounded := by
  cases Γ with
  | nil => exact h
  | cons c Γ =>
    obtain ⟨hc, hΓ⟩ := List.forall_mem_cons.1 h
    refine List.forall_mem_cons.2 ⟨List.append_subset.2 ⟨fun p hp => ?_, fun p hp => ?_⟩, hΓ⟩
    · exact hc (List.mem_append_left _ (subset hp))
    · exact hc (List.mem_append_right _ hp)

theorem Bounded.of_bind {Γ : Context} {names : Scope} (h : (Γ.bind names).Bounded) : Γ.Bounded := by
  have none := h.mono (List.nil_subset names)
  rwa [bind_nil_left] at none

theorem Bounded.enter {Γ : Context} (h : Γ.Bounded) {origin : Origin} {names : Scope}
    (subset : names ⊆ origin.scope) : (Γ.enter origin names).Bounded :=
  List.forall_mem_cons.2 ⟨subset, h⟩

end Context

theorem isSome_lookup_iff {names : Scope} {name : String} :
    (names.lookup name).isSome ↔ ∃ ready, (name, ready) ∈ names := by
  induction names with
  | nil => simp
  | cons p names ih =>
    obtain ⟨n, ready⟩ := p
    by_cases same : name = n
    · simp [same]
    · have other : (name == n) = false := beq_false_of_ne same
      simp [List.lookup_cons, other, same, ih]

section

variable {Γ : Context}

theorem Expr.bounded_inTurn {es : List Expr} (h : (Γ.bind (Expr.boundBy es)).Bounded) :
    ∀ p ∈ Expr.inTurn Γ es, (p.1.bind p.2.bound).Bounded := by
  induction es generalizing Γ with
  | nil => simp [Expr.inTurn]
  | cons e es ih =>
    refine List.forall_mem_cons.2 ⟨h.mono (by simp [Expr.boundBy]), ih ?_⟩
    rwa [Context.bind_bind]

theorem Case.bounded_inTurn {cs : List Case} (h : (Γ.bind (Case.boundBy cs)).Bounded) :
    ∀ p ∈ Case.inTurn Γ cs, (p.1.bind p.2.bound).Bounded := by
  induction cs generalizing Γ with
  | nil => simp [Case.inTurn]
  | cons c cs ih =>
    obtain ⟨arrow, condition, body⟩ := c
    simp only [Case.boundBy] at h
    refine List.forall_mem_cons.2 ⟨h.mono ?_, List.forall_mem_cons.2 ⟨?_, ih ?_⟩⟩
    · simp
    · rw [Context.bind_bind]
      exact h.mono (by simp)
    · simpa [Context.bind_bind] using h

/-- What an expression binds is bound by its parts, in the scope around it. -/
theorem Expr.bounded_parts {e : Expr} (h : (Γ.bind e.bound).Bounded) :
    ∀ p ∈ e.parts Γ, (p.1.bind p.2.bound).Bounded := by
  cases e with
  | literal | «variable» | «break» | «import» | anyPattern | declare => simp [Expr.parts]
  | assign | group | unary | loop => exact List.forall_mem_singleton.2 h
  | array es close => exact Expr.bounded_inTurn h
  | block es => exact Expr.bounded_inTurn (h.of_bind.enter (by simp [Origin.scope]))
  | call callee args close =>
    refine List.forall_mem_cons.2 ⟨h.mono (by simp [Expr.bound]), Expr.bounded_inTurn ?_⟩
    rwa [Context.bind_bind]
  | function name params body =>
    rw [Expr.bound_function] at h
    exact List.forall_mem_singleton.2 (h.enter (by simp [Origin.scope]))
  | «match» keyword scrutinee cases =>
    refine List.forall_mem_cons.2 ⟨h.mono (by simp [Expr.bound]), Case.bounded_inTurn ?_⟩
    rwa [Context.bind_bind]
  | declareAs x value =>
    refine List.forall_mem_singleton.2 ?_
    rw [Context.bind_bind]
    exact h.mono (by simp [Expr.bound])
  | slice c d e | ternary c d e =>
    simp only [Expr.parts, List.forall_mem_cons, List.not_mem_nil, false_imp_iff, implies_true,
      and_true, Context.bind_bind]
    exact ⟨h.mono (by simp [Expr.bound]), h.mono (by simp [Expr.bound]), h.mono (by simp [Expr.bound])⟩
  | _ =>
    simp only [Expr.parts, List.forall_mem_cons, List.not_mem_nil, false_imp_iff, implies_true,
      and_true, Context.bind_bind]
    exact ⟨h.mono (by simp [Expr.bound]), h⟩

theorem Inside.bounded {Δ : Context} {e d : Expr} (inside : Inside Γ e Δ d)
    (h : (Γ.bind e.bound).Bounded) : (Δ.bind d.bound).Bounded := by
  induction inside with
  | here => exact h
  | part hp _ ih => exact ih (Expr.bounded_parts h _ hp)

/-- Before a place a scope binds what it binds in the end only, and so it does after the place. -/
theorem Site.bounded {program : List Expr} {e : Expr} (h : Site program Γ e) :
    (Γ.bind e.bound).Bounded := by
  obtain ⟨root, hr, inside⟩ := h
  exact inside.bounded (Expr.bounded_inTurn (by simp [Context.Bounded]) root hr)

end

/-! ### One more scope -/

/-- The second context has the scopes of the first, and around them one more. -/
def Context.Wrapped (origin : Origin) (Γ Δ : Context) : Prop := ∃ names, Δ = Γ ++ [⟨origin, names⟩]

theorem Context.Wrapped.bind {origin : Origin} {Γ Δ : Context} (h : Γ.Wrapped origin Δ)
    (names : Scope) : (Γ.bind names).Wrapped origin (Δ.bind names) := by
  obtain ⟨more, rfl⟩ := h
  cases Γ with
  | nil => exact ⟨names ++ more, rfl⟩
  | cons c Γ => exact ⟨more, rfl⟩

theorem Context.Wrapped.enter {origin : Origin} {Γ Δ : Context} (h : Γ.Wrapped origin Δ)
    (inner : Origin) (names : Scope) : (Γ.enter inner names).Wrapped origin (Δ.enter inner names) := by
  obtain ⟨more, rfl⟩ := h
  exact ⟨more, rfl⟩

/-- The second place is the first with one more scope around it. -/
def Wraps (origin : Origin) (p q : Context × Expr) : Prop := p.1.Wrapped origin q.1 ∧ q.2 = p.2

section

variable {origin : Origin} {Γ Δ : Context}

theorem Expr.wraps_inTurn (h : Γ.Wrapped origin Δ) (es : List Expr) :
    List.Forall₂ (Wraps origin) (Expr.inTurn Γ es) (Expr.inTurn Δ es) := by
  induction es generalizing Γ Δ with
  | nil => exact .nil
  | cons e es ih => exact .cons ⟨h, rfl⟩ (ih (h.bind e.bound))

theorem Case.wraps_inTurn (h : Γ.Wrapped origin Δ) (cs : List Case) :
    List.Forall₂ (Wraps origin) (Case.inTurn Γ cs) (Case.inTurn Δ cs) := by
  induction cs generalizing Γ Δ with
  | nil => exact .nil
  | cons c cs ih =>
    obtain ⟨arrow, condition, body⟩ := c
    have bound := h.bind condition.bound
    exact .cons ⟨h, rfl⟩ (.cons ⟨bound, rfl⟩ (ih (bound.bind body.bound)))

theorem Expr.wraps_parts (h : Γ.Wrapped origin Δ) (e : Expr) :
    List.Forall₂ (Wraps origin) (e.parts Γ) (e.parts Δ) := by
  cases e with
  | array es close => exact Expr.wraps_inTurn h es
  | block es => exact Expr.wraps_inTurn (h.enter (.block es) []) es
  | call callee args close => exact .cons ⟨h, rfl⟩ (Expr.wraps_inTurn (h.bind callee.bound) args)
  | function name params body => exact .cons ⟨(h.bind (nameScope name)).enter _ _, rfl⟩ .nil
  | «match» keyword scrutinee cases =>
    exact .cons ⟨h, rfl⟩ (Case.wraps_inTurn (h.bind scrutinee.bound) cases)
  | declareAs x value => exact .cons ⟨h.bind [(x.lexeme, false)], rfl⟩ .nil
  | literal | «variable» | «break» | «import» | anyPattern | declare => exact .nil
  | assign | group | unary | loop => exact .cons ⟨h, rfl⟩ .nil
  | slice c d | ternary c d =>
    have bound := h.bind c.bound
    exact .cons ⟨h, rfl⟩ (.cons ⟨bound, rfl⟩ (.cons ⟨bound.bind d.bound, rfl⟩ .nil))
  | assignElement _ _ d | binary d | index d | logical d | orPattern d | loopWhile _ d =>
    exact .cons ⟨h, rfl⟩ (.cons ⟨h.bind d.bound, rfl⟩ .nil)

theorem Wraps.exists_mem {ps qs : List (Context × Expr)} (h : List.Forall₂ (Wraps origin) ps qs)
    {Θ : Context} {e : Expr} (mem : (Θ, e) ∈ ps) : ∃ Θ', Θ.Wrapped origin Θ' ∧ (Θ', e) ∈ qs := by
  induction h with
  | nil => simp at mem
  | @cons p q ps qs wraps _ ih =>
    obtain rfl | mem := List.mem_cons.1 mem
    · obtain ⟨Θ', d⟩ := q
      obtain ⟨wrapped, rfl⟩ := wraps
      exact ⟨Θ', wrapped, List.mem_cons_self⟩
    · obtain ⟨Θ', wrapped, mem⟩ := ih mem
      exact ⟨Θ', wrapped, List.mem_cons_of_mem _ mem⟩

theorem Inside.wrapped {Θ : Context} {e d : Expr} (inside : Inside Γ e Θ d)
    (h : Γ.Wrapped origin Δ) : ∃ Θ', Θ.Wrapped origin Θ' ∧ Inside Δ e Θ' d := by
  induction inside generalizing Δ with
  | here => exact ⟨Δ, h, .here⟩
  | @part Γ _ _ e _ _ hp _ ih =>
    obtain ⟨Ξ, wrapped, hp⟩ := Wraps.exists_mem (Expr.wraps_parts h e) hp
    obtain ⟨Θ', wrapped, inside⟩ := ih wrapped
    exact ⟨Θ', wrapped, .part hp inside⟩

/-- The places of a program are places in its block. -/
theorem Site.wrapped {program : List Expr} {e : Expr} (h : Site program Γ e) :
    ∃ Δ, Γ.Wrapped (.block program) Δ ∧ Site [.block program] Δ e := by
  obtain ⟨⟨Θ, d⟩, hr, inside⟩ := h
  have outer : Context.Wrapped (.block program) [] (Context.enter (.block program) [] []) :=
    ⟨[], rfl⟩
  obtain ⟨Θ', wrapped, hr⟩ := Wraps.exists_mem (Expr.wraps_inTurn outer program) hr
  obtain ⟨Δ, wrapped, inside⟩ := inside.wrapped wrapped
  exact ⟨Δ, wrapped, Site.inside (.part (.of_mem List.mem_cons_self) hr) inside⟩

/-- What the outermost scope binds before a place is among what the block binds in the end. -/
theorem Site.subset_of_wrapped {program : List Expr} {e : Expr} {names : Scope}
    (site : Site [.block program] Δ e) (h : Δ.bind e.bound = Γ ++ [⟨.block program, names⟩]) :
    names ⊆ Expr.boundBy program :=
  (h ▸ site.bounded) _ (List.mem_append_right _ (List.mem_singleton_self _))

theorem Expr.use?_wrapped (h : Γ.Wrapped origin Δ) {e : Expr} {Θ : Context} {u : Use}
    (hu : e.use? Γ = some (Θ, u)) : ∃ Θ', Θ.Wrapped origin Θ' ∧ e.use? Δ = some (Θ', u) := by
  cases e <;> simp only [Expr.use?, Option.some.injEq, Prod.mk.injEq, reduceCtorEq] at hu
  case «variable» => exact ⟨Δ, hu.1 ▸ h, by simp [Expr.use?, hu.2]⟩
  case assign id x value =>
    exact ⟨Δ.bind value.bound, hu.1 ▸ h.bind value.bound, by simp [Expr.use?, hu.2]⟩
  case assignElement id x i value =>
    exact ⟨(Δ.bind i.bound).bind value.bound, hu.1 ▸ (h.bind i.bound).bind value.bound,
      by simp [Expr.use?, hu.2]⟩

end

/-! ### Resolution of the block -/

section

variable {origin : Origin} {Γ Δ : Context} {program : List Expr}
  {imports : Token → List Diagnostic}

theorem Resolution.hopsTo?_append (name : String) (scopes : List Scope) (scope : Scope) :
    hopsTo? name (scopes ++ [scope]) =
      (hopsTo? name scopes).or (if (scope.lookup name).isSome then some scopes.length else none) := by
  rw [hopsTo?, List.findIdx?_append, hopsTo?]
  by_cases bound : (scope.lookup name).isSome <;> simp [bound]

end

end FoxScript
