import FoxScript.Proofs.Scope.Context

/-!
# In which order parts are evaluated

An expression evaluates its parts in an order of its own: some before others, some only if the
values before say so, and some again and again. Here this order is told from the expression alone:
which parts have had a value before a part is evaluated, which names are bound for sure once an
expression has a value, and which `break`s can leave it.

## Main definitions

* `Expr.exposed`: the `break`s that no loop and no function in an expression stands around.
* `Expr.certain`: the names that an expression has bound, whatever its parts evaluate to.
* `Expr.schedule`: the parts that are evaluated in the frame of an expression, each with the parts
  that have had a value before.

## Main statements

* `Expr.exposed_of_schedule`: a `break` that leaves a part leaves the expression, unless this is a
  loop.
* `Expr.inside_of_schedule`: the parts stand inside the expression.
-/
namespace FoxScript

/-! ### Breaks -/

mutual

/-- The keywords of the `break`s in an expression around which neither a loop nor a function of the
expression stands. -/
def Expr.exposed : Expr → List Token
  | .literal _ | .variable _ _ | .import _ | .declare _ | .anyPattern _ => []
  | .function _ _ _ | .loop _ _ | .loopWhile _ _ _ => []
  | .break keyword => [keyword]
  | .array es _ | .block es => Expr.exposedBy es
  | .assign _ _ e | .declareAs _ e | .group e | .unary _ e => e.exposed
  | .assignElement _ _ d e | .binary d _ e | .logical d _ e | .orPattern d _ e | .index d e _ =>
    d.exposed ++ e.exposed
  | .call callee args _ => callee.exposed ++ Expr.exposedBy args
  | .slice c d e _ | .ternary c d e _ => c.exposed ++ d.exposed ++ e.exposed
  | .match _ scrutinee cases => scrutinee.exposed ++ Case.exposedBy cases

/-- The keywords of such `break`s in several expressions. -/
def Expr.exposedBy : List Expr → List Token
  | [] => []
  | e :: es => e.exposed ++ Expr.exposedBy es

/-- The keywords of such `break`s in the cases of a match. -/
def Case.exposedBy : List Case → List Token
  | [] => []
  | .mk _ condition body :: cases => condition.exposed ++ body.exposed ++ Case.exposedBy cases

end

theorem Expr.mem_exposedBy {es : List Expr} {k : Token} :
    k ∈ Expr.exposedBy es ↔ ∃ e ∈ es, k ∈ e.exposed := by
  induction es with
  | nil => simp [Expr.exposedBy]
  | cons e es ih => simp [Expr.exposedBy, ih]

/-! ### Names -/

mutual

/-- The names that an expression has bound in the scope around it once it has a value, or once it
was tried as the condition of a case. A part that may be left out counts for nothing, and neither
does the body of a loop, nor a condition that a `break` may leave. -/
def Expr.certain : Expr → List String
  | .literal _ | .variable _ _ | .import _ | .break _ | .block _ | .anyPattern _ | .loop _ _ => []
  | .array es _ => Expr.certainBy es
  | .assign _ _ e | .group e | .unary _ e => e.certain
  | .assignElement _ _ d e | .binary d _ e | .index d e _ => d.certain ++ e.certain
  | .call callee args _ => callee.certain ++ Expr.certainBy args
  | .slice c d e _ => c.certain ++ d.certain ++ e.certain
  | .logical d _ _ | .orPattern d _ _ => d.certain
  | .ternary c _ _ _ => c.certain
  | .match _ scrutinee cases => scrutinee.certain ++ Case.certainBy cases
  | .function name _ _ => name.toList.map Token.lexeme
  | .declare name => [name.lexeme]
  | .declareAs name e => name.lexeme :: e.certain
  | .loopWhile _ c _ => if c.exposed.isEmpty then c.certain else []

/-- The names that several expressions have bound. -/
def Expr.certainBy : List Expr → List String
  | [] => []
  | e :: es => e.certain ++ Expr.certainBy es

/-- The names that a match has bound once its first condition was tried. -/
def Case.certainBy : List Case → List String
  | [] => []
  | .mk _ condition _ :: _ => condition.certain

end

theorem Expr.mem_certainBy {es : List Expr} {x : String} :
    x ∈ Expr.certainBy es ↔ ∃ e ∈ es, x ∈ e.certain := by
  induction es with
  | nil => simp [Expr.certainBy]
  | cons e es ih => simp [Expr.certainBy, ih]

/-! ### The order of parts -/

/-- The conditions that are tried one after the other where an expression is the condition of a
case. What accepts everything is not evaluated. -/
def Expr.alternatives : Expr → List Expr
  | .orPattern left _ right => left.alternatives ++ right.alternatives
  | .anyPattern _ => []
  | e => [e]

/-- The condition that is tried first, if one has to be evaluated. -/
def Expr.firstTry : Expr → List Expr
  | .orPattern left _ _ => left.firstTry
  | .anyPattern _ => []
  | e => [e]

/-- Expressions that are evaluated one after the other, each with those that have had a value
before. -/
def Expr.inOrder (before : List Expr) : List Expr → List (List Expr × Expr)
  | [] => []
  | e :: es => (before, e) :: Expr.inOrder (e :: before) es

/-- The conditions and bodies of cases, each with what has had a value before. -/
def Case.inOrder (before : List Expr) : List Case → List (List Expr × Expr)
  | [] => []
  | .mk _ condition body :: cases =>
    Expr.inOrder before condition.alternatives ++
      (condition.firstTry ++ before, body) :: Case.inOrder (condition.alternatives ++ before) cases

/-- The expressions that an expression evaluates in its own frame, each with those that have had a
value before. What stands in a frame of its own is left out. -/
def Expr.schedule : Expr → List (List Expr × Expr)
  | .literal _ | .variable _ _ | .import _ | .break _ | .declare _ => []
  | .block _ | .function _ _ _ | .orPattern _ _ _ | .anyPattern _ => []
  | .array es _ => Expr.inOrder [] es
  | .assign _ _ e | .declareAs _ e | .group e | .unary _ e | .loop _ e => [([], e)]
  | .assignElement _ _ d e | .binary d _ e | .logical d _ e | .index d e _ | .loopWhile _ d e =>
    [([], d), ([d], e)]
  | .call callee args _ => ([], callee) :: Expr.inOrder [callee] args
  | .slice c d e _ => [([], c), ([c], d), ([d, c], e)]
  | .ternary c d e _ => [([], c), ([c], d), ([c], e)]
  | .match _ scrutinee cases => ([], scrutinee) :: Case.inOrder [scrutinee] cases

/-- Whether an expression is a loop. -/
def Expr.isLoop : Expr → Bool
  | .loop _ _ | .loopWhile _ _ _ => true
  | _ => false

theorem Expr.mem_of_inOrder {before : List Expr} {es : List Expr} {p : List Expr × Expr}
    (h : p ∈ Expr.inOrder before es) : p.2 ∈ es := by
  induction es generalizing before with
  | nil => cases h
  | cons e es ih =>
    obtain rfl | h := List.mem_cons.1 h
    · exact List.mem_cons_self
    · exact List.mem_cons_of_mem _ (ih h)

theorem Expr.inOrder_append (before ds es : List Expr) :
    Expr.inOrder before (ds ++ es) =
      Expr.inOrder before ds ++ Expr.inOrder (ds.reverse ++ before) es := by
  induction ds generalizing before with
  | nil => rfl
  | cons d ds ih => simp [Expr.inOrder, ih]

/-- What is tried of a condition stands in it. -/
theorem Expr.exposed_of_alternatives {c d : Expr} (h : d ∈ c.alternatives) {k : Token}
    (hk : k ∈ d.exposed) : k ∈ c.exposed := by
  fun_induction Expr.alternatives c with
  | case1 left pipe right ihl ihr =>
    rw [Expr.exposed, List.mem_append]
    exact (List.mem_append.1 h).imp ihl ihr
  | case2 => cases h
  | case3 e =>
    obtain rfl := List.mem_singleton.1 h
    exact hk

theorem Case.mem_of_inOrder {before : List Expr} {cs : List Case} {p : List Expr × Expr}
    (h : p ∈ Case.inOrder before cs) :
    ∃ c ∈ cs, p.2 ∈ c.condition.alternatives ∨ p.2 = c.body := by
  induction cs generalizing before with
  | nil => cases h
  | cons c cs ih =>
    obtain ⟨arrow, condition, body⟩ := c
    obtain h | h := List.mem_append.1 h
    · exact ⟨_, List.mem_cons_self, .inl (Expr.mem_of_inOrder h)⟩
    · obtain rfl | h := List.mem_cons.1 h
      · exact ⟨_, List.mem_cons_self, .inr rfl⟩
      · obtain ⟨c, hc, hp⟩ := ih h
        exact ⟨c, List.mem_cons_of_mem _ hc, hp⟩

theorem Case.mem_exposedBy {cs : List Case} {k : Token} :
    k ∈ Case.exposedBy cs ↔ ∃ c ∈ cs, k ∈ c.condition.exposed ∨ k ∈ c.body.exposed := by
  induction cs with
  | nil => simp [Case.exposedBy]
  | cons c cs ih =>
    obtain ⟨arrow, condition, body⟩ := c
    simp [Case.exposedBy, ih, Case.condition, Case.body, or_assoc]

/-- A `break` that leaves a part leaves the expression, unless this is a loop. -/
theorem Expr.exposed_of_schedule {e : Expr} (single : e.isLoop = false) {p : List Expr × Expr}
    (h : p ∈ e.schedule) {k : Token} (hk : k ∈ p.2.exposed) : k ∈ e.exposed := by
  cases e with
  | loop | loopWhile => cases single
  | array es close => exact Expr.mem_exposedBy.2 ⟨_, Expr.mem_of_inOrder h, hk⟩
  | call callee args close =>
    rw [Expr.exposed, List.mem_append]
    obtain rfl | h := List.mem_cons.1 h
    · exact .inl hk
    · exact .inr (Expr.mem_exposedBy.2 ⟨_, Expr.mem_of_inOrder h, hk⟩)
  | «match» keyword scrutinee cases =>
    rw [Expr.exposed, List.mem_append]
    obtain rfl | h := List.mem_cons.1 h
    · exact .inl hk
    · obtain ⟨c, hc, hp⟩ := Case.mem_of_inOrder h
      refine .inr (Case.mem_exposedBy.2 ⟨c, hc, ?_⟩)
      obtain hp | hp := hp
      · exact .inl (Expr.exposed_of_alternatives hp hk)
      · exact .inr (hp ▸ hk)
  | literal | «variable» | «break» | «import» | declare | block | function | orPattern
  | anyPattern => cases h
  | assign | declareAs | group | unary =>
    obtain rfl := List.mem_singleton.1 h
    exact hk
  | assignElement | binary | logical | index =>
    rw [Expr.exposed, List.mem_append]
    obtain rfl | rfl := List.mem_pair.1 h
    · exact .inl hk
    · exact .inr hk
  | slice | ternary =>
    simp only [Expr.schedule, List.mem_cons, List.not_mem_nil, or_false] at h
    simp only [Expr.exposed, List.mem_append]
    obtain rfl | rfl | rfl := h
    · exact .inl (.inl hk)
    · exact .inl (.inr hk)
    · exact .inr hk

/-! ### Where parts stand -/

/-- What is tried of a condition stands in it as a place. -/
theorem Expr.inside_of_alternatives {c d : Expr} (h : d ∈ c.alternatives) (Γ : Context) :
    ∃ Δ, Inside Γ c Δ d := by
  fun_induction Expr.alternatives c generalizing Γ with
  | case1 left pipe right ihl ihr =>
    obtain h | h := List.mem_append.1 h
    · obtain ⟨Δ, inside⟩ := ihl h Γ
      exact ⟨Δ, .part List.mem_cons_self inside⟩
    · obtain ⟨Δ, inside⟩ := ihr h (Γ.bind left.bound)
      exact ⟨Δ, .part (List.mem_cons_of_mem _ List.mem_cons_self) inside⟩
  | case2 => cases h
  | case3 e =>
    obtain rfl := List.mem_singleton.1 h
    exact ⟨Γ, .here⟩

/-- The parts that an expression evaluates stand inside it. -/
theorem Expr.inside_of_schedule {e : Expr} {p : List Expr × Expr} (h : p ∈ e.schedule)
    (Γ : Context) : ∃ Δ, Inside Γ e Δ p.2 := by
  have part {Δ : Context} (mem : (Δ, p.2) ∈ e.parts Γ) : ∃ Δ, Inside Γ e Δ p.2 :=
    ⟨Δ, .part mem .here⟩
  cases e with
  | array es close =>
    obtain ⟨Δ, mem⟩ := Expr.exists_mem_inTurn (Γ := Γ) (Expr.mem_of_inOrder h)
    exact part mem
  | call callee args close =>
    obtain rfl | h := List.mem_cons.1 h
    · exact part List.mem_cons_self
    · obtain ⟨Δ, mem⟩ := Expr.exists_mem_inTurn (Γ := Γ.bind callee.bound) (Expr.mem_of_inOrder h)
      exact part (List.mem_cons_of_mem _ mem)
  | «match» keyword scrutinee cases =>
    obtain rfl | h := List.mem_cons.1 h
    · exact part List.mem_cons_self
    · obtain ⟨c, hc, hp⟩ := Case.mem_of_inOrder h
      obtain hp | hp := hp
      · obtain ⟨Δ, mem⟩ := Case.exists_mem_inTurn (Γ := Γ.bind scrutinee.bound) hc (.inl rfl)
        obtain ⟨Θ, inside⟩ := Expr.inside_of_alternatives hp Δ
        exact ⟨Θ, .part (List.mem_cons_of_mem _ mem) inside⟩
      · obtain ⟨Δ, mem⟩ := Case.exists_mem_inTurn (Γ := Γ.bind scrutinee.bound) hc (.inr hp)
        exact part (List.mem_cons_of_mem _ mem)
  | literal | «variable» | «break» | «import» | declare | block | function | orPattern
  | anyPattern => cases h
  | assign | declareAs | group | unary | loop =>
    obtain rfl := List.mem_singleton.1 h
    exact part List.mem_cons_self
  | assignElement | binary | logical | index | loopWhile =>
    obtain rfl | rfl := List.mem_pair.1 h
    · exact part List.mem_cons_self
    · exact part (List.mem_cons_of_mem _ List.mem_cons_self)
  | slice | ternary =>
    simp only [Expr.schedule, List.mem_cons, List.not_mem_nil, or_false] at h
    obtain rfl | rfl | rfl := h
    · exact part List.mem_cons_self
    · exact part (List.mem_cons_of_mem _ List.mem_cons_self)
    · exact part (List.mem_cons_of_mem _ (List.mem_cons_of_mem _ List.mem_cons_self))

/-! ### Names of conditions -/

/-- The names of a condition are those of what is tried first. -/
theorem Expr.certain_eq_firstTry (c : Expr) : c.certain = Expr.certainBy c.firstTry := by
  fun_induction Expr.firstTry c with
  | case1 left pipe right ih => rw [Expr.certain, ih]
  | case2 => rfl
  | case3 e => simp [Expr.certainBy]

end FoxScript
