import FoxScript.Expr.Uses
import FoxScript.Scope.Resolution
import FoxScript.Value.Store
import Mathlib.Data.List.Forall2
import Mathlib.Data.List.Nodup
import Mathlib.Data.List.Pairwise

/-!
# Places in a program

A place of a program has a context: the scopes around it, innermost first, each with what opens it
and with the names that it binds before the place. `Expr.parts` lists the expressions that stand
directly inside an expression, each with its context; `Inside` and `Site` follow the parts downward.

## Main definitions

* `Expr.bound`: what an expression binds in the scope around it.
* `Context`, `Expr.parts`: scopes around a place, and the parts of an expression.
* `Inside`, `Site`: the places inside an expression and inside a program.

## Main statements

* `Site.eq_of_id_eq`: where uses are numbered apart, a number stands at one place only.
-/
namespace FoxScript

/-! ### What an expression binds -/

mutual

/-- What an expression binds in the scope around it, the latest first, with whether the name has
got its value. What stands in a scope of its own is not counted. -/
def Expr.bound : Expr → Scope
  | .literal _ | .break _ | .anyPattern _ | .variable _ _ | .block _ | .import _ => []
  | .array elements _ => Expr.boundBy elements
  | .assign _ _ value => value.bound
  | .assignElement _ _ i value => value.bound ++ i.bound
  | .binary left _ right | .logical left _ right | .orPattern left _ right =>
    right.bound ++ left.bound
  | .call callee args _ => Expr.boundBy args ++ callee.bound
  | .function (some name) _ _ => [(name.lexeme, true), (name.lexeme, false)]
  | .function none _ _ => []
  | .group inner | .unary _ inner => inner.bound
  | .index target i _ => i.bound ++ target.bound
  | .slice target lower upper _ => upper.bound ++ (lower.bound ++ target.bound)
  | .match _ scrutinee cases => Case.boundBy cases ++ scrutinee.bound
  | .ternary condition yes no _ => no.bound ++ (yes.bound ++ condition.bound)
  | .declare name => [(name.lexeme, true), (name.lexeme, false)]
  | .declareAs name value => (name.lexeme, true) :: (value.bound ++ [(name.lexeme, false)])
  | .loop _ body => body.bound
  | .loopWhile _ condition body => body.bound ++ condition.bound

/-- What several expressions bind. -/
def Expr.boundBy : List Expr → Scope
  | [] => []
  | e :: es => Expr.boundBy es ++ e.bound

/-- What the cases of a match bind. -/
def Case.boundBy : List Case → Scope
  | [] => []
  | .mk _ condition body :: cases => Case.boundBy cases ++ (body.bound ++ condition.bound)

end

/-- What the parameters of a function bind in the scope of the call. -/
def parameterScope (params : List Token) : Scope := (params.map fun p => (p.lexeme, true)).reverse

/-- What the name of a function binds in the scope around it. -/
def nameScope : Option Token → Scope
  | some name => [(name.lexeme, true), (name.lexeme, false)]
  | none => []

@[simp] theorem Expr.bound_function (name : Option Token) (params : List Token) (body : Expr) :
    (Expr.function name params body).bound = nameScope name := by
  cases name <;> rfl

/-- All that a scope binds in the end. -/
def Origin.scope : Origin → Scope
  | .root => []
  | .block members => Expr.boundBy members
  | .call params body => body.bound ++ parameterScope params

/-! ### Contexts -/

/-- A scope around a place. -/
structure Enclosure where
  /-- What opens the scope. -/
  origin : Origin
  /-- What it binds before the place. -/
  scope : Scope

/-- The scopes around a place, innermost first. Around the scopes lie the global names. -/
abbrev Context := List Enclosure

namespace Context

/-- The scopes as resolution knows them. -/
def scopes (Γ : Context) : List Scope := Γ.map Enclosure.scope

/-- What opens the scopes. -/
def origins (Γ : Context) : List Origin := Γ.map Enclosure.origin

/-- The context after some names are bound in the innermost scope. Where there is no scope the names
are global, and nothing is kept. -/
def bind (names : Scope) : Context → Context
  | [] => []
  | c :: Γ => ⟨c.origin, names ++ c.scope⟩ :: Γ

/-- The context inside a new scope. -/
def enter (origin : Origin) (names : Scope) (Γ : Context) : Context := ⟨origin, names⟩ :: Γ

@[simp] theorem scopes_nil : scopes [] = [] := rfl

@[simp] theorem scopes_cons (c : Enclosure) (Γ : Context) :
    scopes (c :: Γ) = c.scope :: scopes Γ := rfl

@[simp] theorem origins_nil : origins [] = [] := rfl

@[simp] theorem origins_cons (c : Enclosure) (Γ : Context) :
    origins (c :: Γ) = c.origin :: origins Γ := rfl

@[simp] theorem bind_nil_left (Γ : Context) : Γ.bind [] = Γ := by
  cases Γ <;> rfl

@[simp] theorem bind_nil (names : Scope) : bind names [] = [] := rfl

@[simp] theorem bind_enter (origin : Origin) (names more : Scope) (Γ : Context) :
    bind more (Γ.enter origin names) = Γ.enter origin (more ++ names) := rfl

theorem bind_bind (first second : Scope) (Γ : Context) :
    (Γ.bind first).bind second = Γ.bind (second ++ first) := by
  cases Γ <;> simp [bind]

@[simp] theorem origins_bind (names : Scope) (Γ : Context) :
    (Γ.bind names).origins = Γ.origins := by
  cases Γ <;> rfl

@[simp] theorem origins_enter (origin : Origin) (names : Scope) (Γ : Context) :
    (Γ.enter origin names).origins = origin :: Γ.origins := rfl

@[simp] theorem scopes_enter (origin : Origin) (names : Scope) (Γ : Context) :
    (Γ.enter origin names).scopes = names :: Γ.scopes := rfl

end Context

/-! ### Parts -/

/-- Expressions that are met one after the other, each with its context. -/
def Expr.inTurn (Γ : Context) : List Expr → List (Context × Expr)
  | [] => []
  | e :: es => (Γ, e) :: Expr.inTurn (Γ.bind e.bound) es

/-- The conditions and bodies of cases, each with its context. -/
def Case.inTurn (Γ : Context) : List Case → List (Context × Expr)
  | [] => []
  | .mk _ condition body :: cases =>
    (Γ, condition) :: (Γ.bind condition.bound, body) ::
      Case.inTurn ((Γ.bind condition.bound).bind body.bound) cases

/-- The expressions directly inside an expression, each with its context. -/
def Expr.parts (Γ : Context) : Expr → List (Context × Expr)
  | .literal _ | .break _ | .anyPattern _ | .variable _ _ | .import _ | .declare _ => []
  | .array elements _ => Expr.inTurn Γ elements
  | .assign _ _ value => [(Γ, value)]
  | .assignElement _ _ i value => [(Γ, i), (Γ.bind i.bound, value)]
  | .binary left _ right | .logical left _ right | .orPattern left _ right =>
    [(Γ, left), (Γ.bind left.bound, right)]
  | .block members => Expr.inTurn (Γ.enter (.block members) []) members
  | .call callee args _ => (Γ, callee) :: Expr.inTurn (Γ.bind callee.bound) args
  | .function name params body =>
    [((Γ.bind (nameScope name)).enter (.call params body) (parameterScope params), body)]
  | .group inner | .unary _ inner => [(Γ, inner)]
  | .index target i _ => [(Γ, target), (Γ.bind target.bound, i)]
  | .slice target lower upper _ =>
    [(Γ, target), (Γ.bind target.bound, lower), ((Γ.bind target.bound).bind lower.bound, upper)]
  | .match _ scrutinee cases => (Γ, scrutinee) :: Case.inTurn (Γ.bind scrutinee.bound) cases
  | .ternary condition yes no _ =>
    [(Γ, condition), (Γ.bind condition.bound, yes),
      ((Γ.bind condition.bound).bind yes.bound, no)]
  | .declareAs name value => [(Γ.bind [(name.lexeme, false)], value)]
  | .loop _ body => [(Γ, body)]
  | .loopWhile _ condition body => [(Γ, condition), (Γ.bind condition.bound, body)]

/-- The use that an expression itself is, with the context in which its name is looked up: an
assignment looks its name up after its parts. -/
def Expr.use? (Γ : Context) : Expr → Option (Context × Use)
  | .variable id name => some (Γ, ⟨false, id, name⟩)
  | .assign id name value => some (Γ.bind value.bound, ⟨true, id, name⟩)
  | .assignElement id name i value =>
    some ((Γ.bind i.bound).bind value.bound, ⟨true, id, name⟩)
  | _ => none

/-- The name of a use is looked up after all that the expression binds is bound. -/
theorem Expr.eq_bind_of_use? {Γ : Context} {e : Expr} {u : Context × Use} (h : u ∈ e.use? Γ) :
    u.1 = Γ.bind e.bound := by
  cases e <;> simp only [Expr.use?, Option.mem_def, Option.some.injEq, reduceCtorEq] at h <;>
    subst h <;> simp [Expr.bound, Context.bind_bind]

theorem Expr.origins_use? {Γ : Context} {e : Expr} {u : Context × Use} (h : u ∈ e.use? Γ) :
    u.1.origins = Γ.origins := by
  rw [Expr.eq_bind_of_use? h, Context.origins_bind]

theorem Expr.mem_of_mem_inTurn {Γ : Context} {es : List Expr} {p : Context × Expr}
    (h : p ∈ Expr.inTurn Γ es) : p.2 ∈ es := by
  induction es generalizing Γ with
  | nil => simp [Expr.inTurn] at h
  | cons e es ih =>
    simp only [Expr.inTurn, List.mem_cons] at h
    obtain rfl | h := h
    · simp
    · exact List.mem_cons_of_mem _ (ih h)

theorem Expr.exists_mem_inTurn {Γ : Context} {es : List Expr} {e : Expr} (h : e ∈ es) :
    ∃ Δ, (Δ, e) ∈ Expr.inTurn Γ es := by
  induction es generalizing Γ with
  | nil => simp at h
  | cons d es ih =>
    obtain rfl | h := List.mem_cons.1 h
    · exact ⟨Γ, List.mem_cons_self⟩
    · obtain ⟨Δ, h⟩ := @ih (Γ.bind d.bound) h
      exact ⟨Δ, List.mem_cons_of_mem _ h⟩

theorem Case.exists_mem_inTurn {Γ : Context} {cs : List Case} {c : Case} {e : Expr} (h : c ∈ cs)
    (he : e = c.condition ∨ e = c.body) : ∃ Δ, (Δ, e) ∈ Case.inTurn Γ cs := by
  induction cs generalizing Γ with
  | nil => simp at h
  | cons d cs ih =>
    obtain ⟨arrow, condition, body⟩ := d
    obtain rfl | h := List.mem_cons.1 h
    · obtain rfl | rfl := he
      · exact ⟨Γ, List.mem_cons_self⟩
      · exact ⟨_, List.mem_cons_of_mem _ List.mem_cons_self⟩
    · obtain ⟨Δ, h⟩ := ih h
      exact ⟨Δ, List.mem_cons_of_mem _ (List.mem_cons_of_mem _ h)⟩

theorem Case.mem_of_mem_inTurn {Γ : Context} {cs : List Case} {p : Context × Expr}
    (h : p ∈ Case.inTurn Γ cs) : ∃ c ∈ cs, p.2 = c.condition ∨ p.2 = c.body := by
  induction cs generalizing Γ with
  | nil => simp [Case.inTurn] at h
  | cons c cs ih =>
    obtain ⟨arrow, condition, body⟩ := c
    simp only [Case.inTurn, List.mem_cons] at h
    obtain rfl | rfl | h := h
    · exact ⟨_, List.mem_cons_self, .inl rfl⟩
    · exact ⟨_, List.mem_cons_self, .inr rfl⟩
    · obtain ⟨c, hc, hp⟩ := ih h
      exact ⟨c, List.mem_cons_of_mem _ hc, hp⟩

theorem Expr.sizeOf_part_lt {Γ Δ : Context} {e d : Expr} (h : (Δ, d) ∈ e.parts Γ) :
    sizeOf d < sizeOf e := by
  have member {es : List Expr} {Γ : Context} (h : (Δ, d) ∈ Expr.inTurn Γ es) :
      sizeOf d < sizeOf es := List.sizeOf_lt_of_mem (Expr.mem_of_mem_inTurn h)
  have case {cs : List Case} {Γ : Context} (h : (Δ, d) ∈ Case.inTurn Γ cs) :
      sizeOf d < sizeOf cs := by
    obtain ⟨⟨arrow, condition, body⟩, hc, hd⟩ := Case.mem_of_mem_inTurn h
    have := List.sizeOf_lt_of_mem hc
    obtain rfl | rfl := hd <;> simp at * <;> omega
  cases e <;> simp only [Expr.parts, List.mem_cons, List.not_mem_nil, or_false, Prod.mk.injEq] at h
  case array => have := member h; simp; omega
  case block => have := member h; simp; omega
  case call =>
    obtain ⟨-, rfl⟩ | h := h
    · simp; omega
    · have := member h; simp; omega
  case «match» =>
    obtain ⟨-, rfl⟩ | h := h
    · simp; omega
    · have := case h; simp; omega
  all_goals grind [Expr.assign.sizeOf_spec, Expr.assignElement.sizeOf_spec, Expr.binary.sizeOf_spec,
    Expr.logical.sizeOf_spec, Expr.orPattern.sizeOf_spec, Expr.function.sizeOf_spec,
    Expr.group.sizeOf_spec, Expr.unary.sizeOf_spec, Expr.index.sizeOf_spec,
    Expr.slice.sizeOf_spec, Expr.ternary.sizeOf_spec, Expr.declareAs.sizeOf_spec,
    Expr.loop.sizeOf_spec, Expr.loopWhile.sizeOf_spec]

/-- What holds of an expression if it holds of its parts, in whatever context, holds of all. -/
theorem Expr.induction_parts {motive : Expr → Prop}
    (step : ∀ e, (∀ Γ Δ d, (Δ, d) ∈ e.parts Γ → motive d) → motive e) (e : Expr) : motive e :=
  step e fun _ _ d h =>
    have : sizeOf d < sizeOf e := Expr.sizeOf_part_lt h
    Expr.induction_parts step d
termination_by sizeOf e

/-! ### Names that are written -/

/-- The names that are written in an expression itself, not in its parts. -/
def Expr.spelled : Expr → List Token
  | .variable _ x | .assign _ x _ | .assignElement _ x _ _ | .declare x | .declareAs x _ => [x]
  | .function name params _ => name.toList ++ params
  | _ => []

theorem Expr.mem_boundBy {Γ : Context} {es : List Expr} {p : String × Bool}
    (h : p ∈ Expr.boundBy es) : ∃ q ∈ Expr.inTurn Γ es, p ∈ q.2.bound := by
  induction es generalizing Γ with
  | nil => simp [Expr.boundBy] at h
  | cons e es ih =>
    obtain h | h := List.mem_append.1 h
    · obtain ⟨q, mem, hq⟩ := ih h
      exact ⟨q, List.mem_cons_of_mem _ mem, hq⟩
    · exact ⟨_, List.mem_cons_self, h⟩

theorem Case.mem_boundBy {Γ : Context} {cs : List Case} {p : String × Bool}
    (h : p ∈ Case.boundBy cs) : ∃ q ∈ Case.inTurn Γ cs, p ∈ q.2.bound := by
  induction cs generalizing Γ with
  | nil => simp [Case.boundBy] at h
  | cons c cs ih =>
    obtain ⟨arrow, condition, body⟩ := c
    simp only [Case.boundBy, List.mem_append] at h
    obtain h | h | h := h
    · obtain ⟨q, mem, hq⟩ := ih h
      exact ⟨q, List.mem_cons_of_mem _ (List.mem_cons_of_mem _ mem), hq⟩
    · exact ⟨_, List.mem_cons_of_mem _ List.mem_cons_self, h⟩
    · exact ⟨_, List.mem_cons_self, h⟩

/-- What an expression binds is written in it or bound by one of its parts. -/
theorem Expr.mem_bound (Γ : Context) {e : Expr} {p : String × Bool} (h : p ∈ e.bound) :
    (∃ x ∈ e.spelled, x.lexeme = p.1) ∨ ∃ q ∈ e.parts Γ, p ∈ q.2.bound := by
  cases e with
  | array es close => exact .inr (Expr.mem_boundBy h)
  | call callee args close =>
    obtain h | h := List.mem_append.1 h
    · obtain ⟨q, mem, hq⟩ := Expr.mem_boundBy h
      exact .inr ⟨q, List.mem_cons_of_mem _ mem, hq⟩
    · exact .inr ⟨_, List.mem_cons_self, h⟩
  | «match» keyword scrutinee cases =>
    obtain h | h := List.mem_append.1 h
    · obtain ⟨q, mem, hq⟩ := Case.mem_boundBy h
      exact .inr ⟨q, List.mem_cons_of_mem _ mem, hq⟩
    · exact .inr ⟨_, List.mem_cons_self, h⟩
  | function name params body =>
    cases name with
    | none => simp [Expr.bound] at h
    | some name =>
      refine .inl ⟨name, by simp [Expr.spelled], ?_⟩
      simp only [Expr.bound, List.mem_cons, List.not_mem_nil, or_false] at h
      obtain rfl | rfl := h <;> rfl
  | declare x =>
    refine .inl ⟨x, by simp [Expr.spelled], ?_⟩
    simp only [Expr.bound, List.mem_cons, List.not_mem_nil, or_false] at h
    obtain rfl | rfl := h <;> rfl
  | declareAs x value =>
    simp only [Expr.bound, List.mem_cons, List.mem_append, List.not_mem_nil, or_false] at h
    obtain rfl | h | rfl := h
    · exact .inl ⟨x, by simp [Expr.spelled], rfl⟩
    · exact .inr ⟨_, List.mem_cons_self, h⟩
    · exact .inl ⟨x, by simp [Expr.spelled], rfl⟩
  | literal | «variable» | block | «break» | «import» | anyPattern => simp [Expr.bound] at h
  | _ =>
    right
    simp only [Expr.bound, Expr.parts, List.mem_append, List.mem_cons, List.not_mem_nil, or_false,
      exists_eq_or_imp, exists_eq_left] at h ⊢
    grind

/-! ### Places -/

/-- A place inside an expression that has a context of its own. -/
inductive Inside : Context → Expr → Context → Expr → Prop
  /-- The expression itself. -/
  | here {Γ : Context} {e : Expr} : Inside Γ e Γ e
  /-- A place inside a part. -/
  | part {Γ Δ Θ : Context} {e d f : Expr} (h : (Δ, d) ∈ e.parts Γ) (inside : Inside Δ d Θ f) :
      Inside Γ e Θ f

theorem Inside.trans {Γ Δ Θ : Context} {e d f : Expr} (h : Inside Γ e Δ d)
    (g : Inside Δ d Θ f) : Inside Γ e Θ f := by
  induction h with
  | here => exact g
  | part h _ ih => exact .part h (ih g)

theorem Inside.forall_iff {P : Context → Expr → Prop} {Γ : Context} {e : Expr} :
    (∀ Δ d, Inside Γ e Δ d → P Δ d) ↔
      P Γ e ∧ ∀ p ∈ e.parts Γ, ∀ Δ d, Inside p.1 p.2 Δ d → P Δ d := by
  constructor
  · intro h
    exact ⟨h _ _ .here, fun p hp Δ d hd => h _ _ (.part hp hd)⟩
  · rintro ⟨here, parts⟩ Δ d hd
    cases hd with
    | here => exact here
    | part h hd => exact parts _ h _ _ hd

/-- A place in a program. -/
def Site (program : List Expr) (Γ : Context) (e : Expr) : Prop :=
  ∃ root ∈ Expr.inTurn [] program, Inside root.1 root.2 Γ e

theorem Expr.inTurn_nil (es : List Expr) : Expr.inTurn [] es = es.map fun e => ([], e) := by
  induction es with
  | nil => rfl
  | cons e es ih => simp [Expr.inTurn, ih]

/-- The expressions of a program stand in no scope. -/
theorem Site.of_mem {program : List Expr} {e : Expr} (h : e ∈ program) : Site program [] e :=
  ⟨([], e), by simp [Expr.inTurn_nil, h], .here⟩

theorem Site.inside {program : List Expr} {Γ Δ : Context} {e d : Expr} (h : Site program Γ e)
    (g : Inside Γ e Δ d) : Site program Δ d := by
  obtain ⟨root, hr, h⟩ := h
  exact ⟨root, hr, h.trans g⟩

theorem Site.part {program : List Expr} {Γ Δ : Context} {e d : Expr} (h : Site program Γ e)
    (g : (Δ, d) ∈ e.parts Γ) : Site program Δ d :=
  h.inside (.part g .here)

/-- The places of a block in which a name is declared and used. -/
theorem Site.of_declare_variable {x y : Token} {id : NodeId} {Γ : Context} {e : Expr}
    (h : Site [.block [.declare x, .variable id y]] Γ e) :
    e = .block [.declare x, .variable id y] ∨ e = .declare x ∨ e = .variable id y := by
  obtain ⟨root, hr, inside⟩ := h
  obtain rfl : root = ([], .block [.declare x, .variable id y]) := List.mem_singleton.1 hr
  cases inside with
  | here => exact .inl rfl
  | part member inside =>
    simp only [Expr.parts, Expr.inTurn, List.mem_cons, List.not_mem_nil, or_false,
      Prod.mk.injEq] at member
    obtain ⟨-, rfl⟩ | ⟨-, rfl⟩ := member <;> cases inside with
    | here => simp
    | part member => simp [Expr.parts] at member

/-! ### Names that are not written -/

/-- No scope binds the name. -/
def Context.Avoids (name : String) (Γ : Context) : Prop := ∀ c ∈ Γ, ∀ p ∈ c.scope, p.1 ≠ name

theorem Context.Avoids.bind {name : String} {Γ : Context} (h : Γ.Avoids name) {names : Scope}
    (hn : ∀ p ∈ names, p.1 ≠ name) : (Γ.bind names).Avoids name := by
  cases Γ with
  | nil => exact h
  | cons c Γ =>
    obtain ⟨hc, hΓ⟩ := List.forall_mem_cons.1 h
    exact List.forall_mem_cons.2 ⟨List.forall_mem_append.2 ⟨hn, hc⟩, hΓ⟩

theorem Context.Avoids.enter {name : String} {Γ : Context} (h : Γ.Avoids name) (origin : Origin)
    {names : Scope} (hn : ∀ p ∈ names, p.1 ≠ name) : (Γ.enter origin names).Avoids name :=
  List.forall_mem_cons.2 ⟨hn, h⟩

theorem Expr.avoids_inTurn {name : String} {Γ : Context} (h : Γ.Avoids name) {es : List Expr}
    (bound : ∀ p ∈ Expr.inTurn Γ es, ∀ q ∈ p.2.bound, q.1 ≠ name) :
    ∀ p ∈ Expr.inTurn Γ es, p.1.Avoids name := by
  induction es generalizing Γ with
  | nil => simp [Expr.inTurn]
  | cons e es ih =>
    obtain ⟨first, rest⟩ := List.forall_mem_cons.1 bound
    exact List.forall_mem_cons.2 ⟨h, ih (h.bind first) rest⟩

theorem Case.avoids_inTurn {name : String} {Γ : Context} (h : Γ.Avoids name) {cs : List Case}
    (bound : ∀ p ∈ Case.inTurn Γ cs, ∀ q ∈ p.2.bound, q.1 ≠ name) :
    ∀ p ∈ Case.inTurn Γ cs, p.1.Avoids name := by
  induction cs generalizing Γ with
  | nil => simp [Case.inTurn]
  | cons c cs ih =>
    obtain ⟨arrow, condition, body⟩ := c
    obtain ⟨first, rest⟩ := List.forall_mem_cons.1 bound
    obtain ⟨second, rest⟩ := List.forall_mem_cons.1 rest
    exact List.forall_mem_cons.2 ⟨h, List.forall_mem_cons.2 ⟨h.bind first,
      ih ((h.bind first).bind second) rest⟩⟩

/-- The scopes around the parts of an expression do not bind a name that neither the scopes around
the expression nor the expression nor its parts bind. -/
theorem Expr.avoids_parts {name : String} {Γ : Context} {e : Expr} (h : Γ.Avoids name)
    (own : ∀ x ∈ e.spelled, x.lexeme ≠ name)
    (bound : ∀ p ∈ e.parts Γ, ∀ q ∈ p.2.bound, q.1 ≠ name) :
    ∀ p ∈ e.parts Γ, p.1.Avoids name := by
  cases e with
  | array es close => exact Expr.avoids_inTurn h bound
  | block es => exact Expr.avoids_inTurn (h.enter (.block es) (by simp)) bound
  | call callee args close =>
    obtain ⟨first, rest⟩ := List.forall_mem_cons.1 bound
    exact List.forall_mem_cons.2 ⟨h, Expr.avoids_inTurn (h.bind first) rest⟩
  | «match» keyword scrutinee cases =>
    obtain ⟨first, rest⟩ := List.forall_mem_cons.1 bound
    exact List.forall_mem_cons.2 ⟨h, Case.avoids_inTurn (h.bind first) rest⟩
  | function f params body =>
    refine List.forall_mem_singleton.2 ((h.bind ?_).enter _ ?_)
    · cases f with
      | none => simp [nameScope]
      | some f => simpa [nameScope, Expr.spelled] using own f (by simp [Expr.spelled])
    · simp only [parameterScope, List.mem_reverse, List.mem_map]
      rintro _ ⟨x, hx, rfl⟩
      exact own x (List.mem_append_right _ hx)
  | declareAs x value =>
    exact List.forall_mem_singleton.2 (h.bind (by simpa [Expr.spelled] using own))
  | literal | «variable» | «break» | «import» | anyPattern | declare => simp [Expr.parts]
  | assign | group | unary | loop => exact List.forall_mem_singleton.2 h
  | slice | ternary =>
    obtain ⟨first, rest⟩ := List.forall_mem_cons.1 bound
    obtain ⟨second, -⟩ := List.forall_mem_cons.1 rest
    simpa [Expr.parts] using ⟨h, h.bind first, (h.bind first).bind second⟩
  | _ =>
    obtain ⟨first, -⟩ := List.forall_mem_cons.1 bound
    simpa [Expr.parts] using ⟨h, h.bind first⟩

/-- What an expression binds is written inside it. -/
theorem Inside.exists_of_mem_bound (Γ : Context) {e : Expr} {p : String × Bool} (h : p ∈ e.bound) :
    ∃ Δ d, Inside Γ e Δ d ∧ ∃ x ∈ d.spelled, x.lexeme = p.1 := by
  induction e using Expr.induction_parts generalizing Γ with
  | step e ih =>
    obtain own | ⟨q, hq, hp⟩ := Expr.mem_bound Γ h
    · exact ⟨Γ, e, .here, own⟩
    · obtain ⟨Δ, d, inside, own⟩ := ih Γ q.1 q.2 hq q.1 hp
      exact ⟨Δ, d, .part hq inside, own⟩

theorem Inside.avoids {name : String} {Γ Δ : Context} {e d : Expr} (h : Inside Γ e Δ d)
    (avoids : Γ.Avoids name)
    (spelled : ∀ Θ f, Inside Γ e Θ f → ∀ x ∈ f.spelled, x.lexeme ≠ name) : Δ.Avoids name := by
  induction h with
  | here => exact avoids
  | @part Γ Δ Θ e d f hp inside ih =>
    refine ih ?_ fun Θ f hf => spelled Θ f (.part hp hf)
    refine Expr.avoids_parts avoids (spelled _ _ .here) (fun p hp q hq => ?_) _ hp
    obtain ⟨Θ, f, hf, x, hx, same⟩ := Inside.exists_of_mem_bound p.1 hq
    exact same ▸ spelled Θ f (.part hp hf) x hx

/-- No scope in a program binds a name that is not written in the program. -/
theorem Site.avoids {name : String} {program : List Expr} {Γ : Context} {e : Expr}
    (h : Site program Γ e)
    (spelled : ∀ Δ d, Site program Δ d → ∀ x ∈ d.spelled, x.lexeme ≠ name) : Γ.Avoids name := by
  obtain ⟨root, hr, inside⟩ := h
  refine inside.avoids ?_ fun Θ f hf => spelled Θ f ⟨root, hr, hf⟩
  refine Expr.avoids_inTurn (by simp [Context.Avoids]) (fun p hp q hq => ?_) root hr
  obtain ⟨Θ, f, hf, x, hx, same⟩ := Inside.exists_of_mem_bound p.1 hq
  exact same ▸ spelled Θ f ⟨p, hp, hf⟩ x hx

/-! ### Uses -/

/-- The numbers of the uses in an expression. -/
def Expr.ids (e : Expr) : List NodeId := e.uses.map Use.id

/-- The numbers of the uses in several expressions. -/
def Expr.idsOf (es : List Expr) : List NodeId := (Expr.usesOf es).map Use.id

theorem Expr.idsOf_append (es ds : List Expr) :
    Expr.idsOf (es ++ ds) = Expr.idsOf es ++ Expr.idsOf ds := by
  induction es with
  | nil => rfl
  | cons e es ih => simpa [Expr.idsOf] using ih

theorem Expr.usesOf_eq_flatMap (Γ : Context) (es : List Expr) :
    Expr.usesOf es = (Expr.inTurn Γ es).flatMap fun p => p.2.uses := by
  induction es generalizing Γ with
  | nil => rfl
  | cons e es ih => simp [Expr.inTurn, ← ih]

theorem Case.usesOf_eq_flatMap (Γ : Context) (cs : List Case) :
    Case.usesOf cs = (Case.inTurn Γ cs).flatMap fun p => p.2.uses := by
  induction cs generalizing Γ with
  | nil => rfl
  | cons c cs ih =>
    obtain ⟨arrow, condition, body⟩ := c
    simp [Case.inTurn, ← ih]

/-- The uses of an expression are the use that it is itself and those of its parts. -/
theorem Expr.uses_eq (Γ : Context) (e : Expr) :
    e.uses = ((e.use? Γ).map Prod.snd).toList ++ (e.parts Γ).flatMap fun p => p.2.uses := by
  cases e <;>
    simp [Expr.use?, Expr.parts, ← Expr.usesOf_eq_flatMap, ← Case.usesOf_eq_flatMap]

theorem Expr.ids_eq (Γ : Context) (e : Expr) :
    e.ids = ((e.use? Γ).map fun u => u.2.id).toList ++ (e.parts Γ).flatMap fun p => p.2.ids := by
  rw [Expr.ids, Expr.uses_eq Γ, List.map_append, List.map_flatMap]
  cases e.use? Γ <;> rfl

theorem Expr.idsOf_eq_flatMap (Γ : Context) (es : List Expr) :
    Expr.idsOf es = (Expr.inTurn Γ es).flatMap fun p => p.2.ids := by
  rw [Expr.idsOf, Expr.usesOf_eq_flatMap Γ, List.map_flatMap]
  rfl

theorem Expr.ids_part_subset {Γ Δ : Context} {e d : Expr} (h : (Δ, d) ∈ e.parts Γ) :
    d.ids ⊆ e.ids := by
  intro id hid
  rw [Expr.ids_eq Γ e]
  exact List.mem_append_right _ (List.mem_flatMap.2 ⟨_, h, hid⟩)

theorem Inside.ids_subset {Γ Δ : Context} {e d : Expr} (h : Inside Γ e Δ d) : d.ids ⊆ e.ids := by
  induction h with
  | here => exact List.Subset.refl _
  | part h _ ih => exact fun id hid => Expr.ids_part_subset h (ih hid)

theorem Expr.id_mem_ids {Γ Δ : Context} {e : Expr} {u : Use} (h : e.use? Γ = some (Δ, u)) :
    u.id ∈ e.ids := by
  rw [Expr.ids_eq Γ e, h]
  simp

/-- Of lists without repetitions that lie one after the other, an element is in one only. -/
theorem eq_of_nodup_flatMap {α β : Type} {f : α → List β} {as : List α} {a b : α} {x : β}
    (h : (as.flatMap f).Nodup) (ha : a ∈ as) (hb : b ∈ as) (hxa : x ∈ f a) (hxb : x ∈ f b) :
    a = b := by
  have disjoint := (List.nodup_flatMap.1 h).2
  have : Std.Symm (Function.onFun List.Disjoint f) := ⟨fun _ _ h _ hx hy => h hy hx⟩
  by_contra hab
  exact disjoint.forall ha hb hab hxa hxb

theorem Site.id_mem_idsOf {program : List Expr} {Γ Δ : Context} {e : Expr} {u : Use}
    (h : Site program Γ e) (hu : e.use? Γ = some (Δ, u)) : u.id ∈ Expr.idsOf program := by
  obtain ⟨root, hr, h⟩ := h
  rw [Expr.idsOf_eq_flatMap []]
  exact List.mem_flatMap.2 ⟨_, hr, h.ids_subset (Expr.id_mem_ids hu)⟩

theorem Inside.exists_of_mem_ids (Γ : Context) {e : Expr} {id : NodeId} (h : id ∈ e.ids) :
    ∃ Δ d Θ u, Inside Γ e Δ d ∧ d.use? Δ = some (Θ, u) ∧ u.id = id := by
  induction e using Expr.induction_parts generalizing Γ with
  | step e ih =>
    rw [Expr.ids_eq Γ e, List.mem_append, List.mem_flatMap] at h
    obtain h | ⟨p, hp, h⟩ := h
    · simp only [Option.mem_toList, Option.map_eq_some_iff] at h
      obtain ⟨⟨Θ, u⟩, hu, rfl⟩ := h
      exact ⟨Γ, e, Θ, u, .here, hu, rfl⟩
    · obtain ⟨Δ, d, Θ, u, inside, hu, rfl⟩ := ih Γ p.1 p.2 hp p.1 h
      exact ⟨Δ, d, Θ, u, .part hp inside, hu, rfl⟩

/-- A number of a program stands at a place. -/
theorem Site.exists_of_mem_idsOf {program : List Expr} {id : NodeId}
    (h : id ∈ Expr.idsOf program) :
    ∃ Γ e Δ u, Site program Γ e ∧ e.use? Γ = some (Δ, u) ∧ u.id = id := by
  rw [Expr.idsOf_eq_flatMap []] at h
  obtain ⟨root, hr, h⟩ := List.mem_flatMap.1 h
  obtain ⟨Γ, e, Δ, u, inside, hu, rfl⟩ := Inside.exists_of_mem_ids root.1 h
  exact ⟨Γ, e, Δ, u, ⟨root, hr, inside⟩, hu, rfl⟩

end FoxScript
