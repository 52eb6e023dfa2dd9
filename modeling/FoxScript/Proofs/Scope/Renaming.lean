import FoxScript.Proofs.Scope.Twin

/-!
# Renaming

A name that a scope binds gets a new spelling: where the scope binds it, and at all uses that mean
this binding. Nothing else of the program changes. Where the new name stands nowhere in the program,
resolution finds out about the renamed program what it finds out about the program.

## Main definitions

* `Renaming`, `Expr.rename`: one name of one scope and its new spelling; what becomes of a program.
* `Renaming.Fits`: what is asked of a renaming.

## Main statements

* `Expr.parts_rename`: the places of the renamed program are the places of the program, renamed.
* `Renaming.Fits.faults`, `Renaming.Fits.hops`: the renamed program has no faults either, and the
  same hop counts.
-/
namespace FoxScript

/-- A name that a scope binds, and its new spelling. -/
structure Renaming where
  /-- What opens the scope. -/
  scope : Origin
  /-- The name. -/
  old : String
  /-- Its new spelling. -/
  new : String

namespace Renaming

variable (ρ : Renaming)

/-- Whether the name means the binding of the scope where it is looked up in a context. -/
def Reaches (Γ : Context) : Prop :=
  ∃ h, Resolution.hopsTo? ρ.old Γ.scopes = some h ∧ Γ.origins[h]? = some ρ.scope

open scoped Classical in
/-- The spelling of a name that is bound in a scope. -/
noncomputable def nameIn (origin : Option Origin) (name : String) : String :=
  if origin = some ρ.scope ∧ name = ρ.old then ρ.new else name

open scoped Classical in
/-- The spelling of a name that is looked up in a context. -/
noncomputable def nameAt (Γ : Context) (name : String) : String :=
  if ρ.Reaches Γ ∧ name = ρ.old then ρ.new else name

/-- A token that binds a name in the innermost scope. It stays at its place. -/
noncomputable def atBinding (Γ : Context) (t : Token) : Token :=
  { t with lexeme := ρ.nameIn Γ.origins.head? t.lexeme }

/-- A token that uses a name. It stays at its place. -/
noncomputable def atUse (Γ : Context) (t : Token) : Token :=
  { t with lexeme := ρ.nameAt Γ t.lexeme }

/-- What a scope binds. -/
noncomputable def scopeIn (origin : Option Origin) (names : Scope) : Scope :=
  names.map fun p => (ρ.nameIn origin p.1, p.2)

end Renaming

/-! ### Renamed programs -/

mutual

/-- An expression in a context after a renaming. -/
noncomputable def Expr.rename (ρ : Renaming) (Γ : Context) : Expr → Expr
  | .literal value => .literal value
  | .variable id x => .variable id (ρ.atUse Γ x)
  | .array es close => .array (Expr.renameInTurn ρ Γ es) close
  | .assign id x value =>
    .assign id (ρ.atUse (Γ.bind value.bound) x) (value.rename ρ Γ)
  | .assignElement id x i value =>
    .assignElement id (ρ.atUse ((Γ.bind i.bound).bind value.bound) x) (i.rename ρ Γ)
      (value.rename ρ (Γ.bind i.bound))
  | .binary left op right => .binary (left.rename ρ Γ) op (right.rename ρ (Γ.bind left.bound))
  | .block members => .block (Expr.renameInTurn ρ (Γ.enter (.block members) []) members)
  | .break keyword => .break keyword
  | .call callee args close =>
    .call (callee.rename ρ Γ) (Expr.renameInTurn ρ (Γ.bind callee.bound) args) close
  | .function name params body =>
    let Δ := (Γ.bind (nameScope name)).enter (.call params body) (parameterScope params)
    .function (name.map (ρ.atBinding Γ)) (params.map (ρ.atBinding Δ)) (body.rename ρ Δ)
  | .group inner => .group (inner.rename ρ Γ)
  | .import path => .import path
  | .index target i close => .index (target.rename ρ Γ) (i.rename ρ (Γ.bind target.bound)) close
  | .slice target lower upper close =>
    .slice (target.rename ρ Γ) (lower.rename ρ (Γ.bind target.bound))
      (upper.rename ρ ((Γ.bind target.bound).bind lower.bound)) close
  | .logical left op right => .logical (left.rename ρ Γ) op (right.rename ρ (Γ.bind left.bound))
  | .match keyword scrutinee cases =>
    .match keyword (scrutinee.rename ρ Γ) (Case.renameInTurn ρ (Γ.bind scrutinee.bound) cases)
  | .orPattern left pipe right =>
    .orPattern (left.rename ρ Γ) pipe (right.rename ρ (Γ.bind left.bound))
  | .anyPattern wildcard => .anyPattern wildcard
  | .ternary condition yes no op =>
    .ternary (condition.rename ρ Γ) (yes.rename ρ (Γ.bind condition.bound))
      (no.rename ρ ((Γ.bind condition.bound).bind yes.bound)) op
  | .unary op operand => .unary op (operand.rename ρ Γ)
  | .declare x => .declare (ρ.atBinding Γ x)
  | .declareAs x value =>
    .declareAs (ρ.atBinding Γ x) (value.rename ρ (Γ.bind [(x.lexeme, false)]))
  | .loop keyword body => .loop keyword (body.rename ρ Γ)
  | .loopWhile keyword condition body =>
    .loopWhile keyword (condition.rename ρ Γ) (body.rename ρ (Γ.bind condition.bound))

/-- Expressions that are met one after the other after a renaming. -/
noncomputable def Expr.renameInTurn (ρ : Renaming) (Γ : Context) : List Expr → List Expr
  | [] => []
  | e :: es => e.rename ρ Γ :: Expr.renameInTurn ρ (Γ.bind e.bound) es

/-- The cases of a match after a renaming. -/
noncomputable def Case.renameInTurn (ρ : Renaming) (Γ : Context) : List Case → List Case
  | [] => []
  | .mk arrow condition body :: cases =>
    .mk arrow (condition.rename ρ Γ) (body.rename ρ (Γ.bind condition.bound)) ::
      Case.renameInTurn ρ ((Γ.bind condition.bound).bind body.bound) cases

end

/-- What opens a scope inside others after a renaming. -/
noncomputable def Origin.rename (ρ : Renaming) (Γ : Context) : Origin → Origin
  | .root => .root
  | .block members => .block (Expr.renameInTurn ρ (Γ.enter (.block members) []) members)
  | .call params body =>
    let Δ := Γ.enter (.call params body) (parameterScope params)
    .call (params.map (ρ.atBinding Δ)) (body.rename ρ Δ)

/-- The scopes around a place after a renaming. -/
noncomputable def Context.rename (ρ : Renaming) : Context → Context
  | [] => []
  | c :: Γ =>
    ⟨c.origin.rename ρ Γ, ρ.scopeIn (some c.origin) c.scope⟩ :: Context.rename ρ Γ

namespace Renaming

/-- A program after a renaming. -/
noncomputable def program (ρ : Renaming) (es : List Expr) : List Expr := Expr.renameInTurn ρ [] es

/-- A place after a renaming. -/
noncomputable def place (ρ : Renaming) (p : Context × Expr) : Context × Expr :=
  (p.1.rename ρ, p.2.rename ρ p.1)

variable (ρ : Renaming)

@[simp] theorem lexeme_atBinding (Γ : Context) (t : Token) :
    (ρ.atBinding Γ t).lexeme = ρ.nameIn Γ.origins.head? t.lexeme := rfl

@[simp] theorem lexeme_atUse (Γ : Context) (t : Token) :
    (ρ.atUse Γ t).lexeme = ρ.nameAt Γ t.lexeme := rfl

@[simp] theorem nameIn_none (name : String) : ρ.nameIn none name = name := by
  simp [nameIn]

@[simp] theorem scopeIn_nil (origin : Option Origin) : ρ.scopeIn origin [] = [] := rfl

@[simp] theorem scopeIn_cons (origin : Option Origin) (p : String × Bool) (names : Scope) :
    ρ.scopeIn origin (p :: names) = (ρ.nameIn origin p.1, p.2) :: ρ.scopeIn origin names := rfl

@[simp] theorem scopeIn_append (origin : Option Origin) (names more : Scope) :
    ρ.scopeIn origin (names ++ more) = ρ.scopeIn origin names ++ ρ.scopeIn origin more := by
  simp [scopeIn]

theorem nameScope_map (Γ : Context) (name : Option Token) :
    nameScope (name.map (ρ.atBinding Γ)) = ρ.scopeIn Γ.origins.head? (nameScope name) := by
  cases name <;> simp [nameScope]

theorem parameterScope_map (Γ : Context) (params : List Token) :
    parameterScope (params.map (ρ.atBinding Γ)) =
      ρ.scopeIn Γ.origins.head? (parameterScope params) := by
  simp [parameterScope, scopeIn, Function.comp_def]

end Renaming

/-! ### What renamed expressions bind -/

section

variable (ρ : Renaming)

mutual

/-- A renamed expression binds the names of the expression, renamed. -/
theorem Expr.bound_rename : ∀ (Γ : Context) (e : Expr),
    (e.rename ρ Γ).bound = ρ.scopeIn Γ.origins.head? e.bound
  | _, .literal _ | _, .break _ | _, .anyPattern _ | _, .variable _ _ | _, .block _
  | _, .import _ => by simp [Expr.rename, Expr.bound]
  | Γ, .array es _ => by simp [Expr.rename, Expr.bound, Expr.boundBy_renameInTurn Γ es]
  | Γ, .assign _ _ value => by simp [Expr.rename, Expr.bound, Expr.bound_rename Γ value]
  | Γ, .assignElement _ _ d e | Γ, .binary d _ e | Γ, .logical d _ e | Γ, .orPattern d _ e
  | Γ, .index d e _ | Γ, .loopWhile _ d e => by
    simp [Expr.rename, Expr.bound, Expr.bound_rename Γ d, Expr.bound_rename (Γ.bind d.bound) e]
  | Γ, .call callee args _ => by
    simp [Expr.rename, Expr.bound, Expr.bound_rename Γ callee,
      Expr.boundBy_renameInTurn (Γ.bind callee.bound) args]
  | Γ, .function name params body => by
    simp [Expr.rename, ρ.nameScope_map]
  | Γ, .group e | Γ, .unary _ e | Γ, .loop _ e => by
    simp [Expr.rename, Expr.bound, Expr.bound_rename Γ e]
  | Γ, .slice c d e _ | Γ, .ternary c d e _ => by
    simp [Expr.rename, Expr.bound, Expr.bound_rename Γ c, Expr.bound_rename (Γ.bind c.bound) d,
      Expr.bound_rename ((Γ.bind c.bound).bind d.bound) e]
  | Γ, .match _ scrutinee cases => by
    simp [Expr.rename, Expr.bound, Expr.bound_rename Γ scrutinee,
      Case.boundBy_renameInTurn (Γ.bind scrutinee.bound) cases]
  | Γ, .declare x => by simp [Expr.rename, Expr.bound]
  | Γ, .declareAs x value => by
    simp [Expr.rename, Expr.bound, Expr.bound_rename (Γ.bind [(x.lexeme, false)]) value]

theorem Expr.boundBy_renameInTurn : ∀ (Γ : Context) (es : List Expr),
    Expr.boundBy (Expr.renameInTurn ρ Γ es) = ρ.scopeIn Γ.origins.head? (Expr.boundBy es)
  | _, [] => rfl
  | Γ, e :: es => by
    simp [Expr.renameInTurn, Expr.boundBy, Expr.bound_rename Γ e,
      Expr.boundBy_renameInTurn (Γ.bind e.bound) es]

theorem Case.boundBy_renameInTurn : ∀ (Γ : Context) (cs : List Case),
    Case.boundBy (Case.renameInTurn ρ Γ cs) = ρ.scopeIn Γ.origins.head? (Case.boundBy cs)
  | _, [] => rfl
  | Γ, .mk _ condition body :: cs => by
    simp [Case.renameInTurn, Case.boundBy, Expr.bound_rename Γ condition,
      Expr.bound_rename (Γ.bind condition.bound) body,
      Case.boundBy_renameInTurn ((Γ.bind condition.bound).bind body.bound) cs]

end

theorem Origin.scope_rename (Γ : Context) (origin : Origin) :
    (origin.rename ρ Γ).scope = ρ.scopeIn (some origin) origin.scope := by
  cases origin with
  | root => rfl
  | block es => exact Expr.boundBy_renameInTurn ρ (Γ.enter (.block es) []) es
  | call params body =>
    simp [Origin.rename, Origin.scope, Expr.bound_rename, ρ.parameterScope_map]

/-! ### Places of renamed programs -/

@[simp] theorem Context.rename_bind (names : Scope) (Γ : Context) :
    (Γ.bind names).rename ρ = (Γ.rename ρ).bind (ρ.scopeIn Γ.origins.head? names) := by
  cases Γ <;> simp [Context.bind, Context.rename]

@[simp] theorem Context.length_rename (Γ : Context) : (Γ.rename ρ).length = Γ.length := by
  induction Γ with
  | nil => rfl
  | cons c Γ ih => simp [Context.rename, ih]

theorem Context.drop_origins_rename (Γ : Context) (n : Nat) :
    (Γ.rename ρ).origins.drop n = (Context.rename ρ (Γ.drop n)).origins := by
  induction Γ generalizing n with
  | nil => simp [Context.rename]
  | cons c Γ ih =>
    cases n with
    | zero => rfl
    | succ n => exact ih n

theorem Expr.inTurn_rename (Γ : Context) (es : List Expr) :
    Expr.inTurn (Γ.rename ρ) (Expr.renameInTurn ρ Γ es) = (Expr.inTurn Γ es).map ρ.place := by
  induction es generalizing Γ with
  | nil => rfl
  | cons e es ih =>
    simp [Expr.renameInTurn, Expr.inTurn, Expr.bound_rename, ← ih, Renaming.place]

theorem Case.inTurn_rename (Γ : Context) (cs : List Case) :
    Case.inTurn (Γ.rename ρ) (Case.renameInTurn ρ Γ cs) = (Case.inTurn Γ cs).map ρ.place := by
  induction cs generalizing Γ with
  | nil => rfl
  | cons c cs ih =>
    obtain ⟨arrow, condition, body⟩ := c
    simp [Case.renameInTurn, Case.inTurn, Expr.bound_rename, ← ih, Renaming.place]

/-- The parts of a renamed expression are the parts of the expression, renamed. -/
theorem Expr.parts_rename (Γ : Context) (e : Expr) :
    (e.rename ρ Γ).parts (Γ.rename ρ) = (e.parts Γ).map ρ.place := by
  have enter (origin : Origin) (names : Scope) (Γ : Context) :
      (Γ.enter origin names).rename ρ =
        (Γ.rename ρ).enter (origin.rename ρ Γ) (ρ.scopeIn (some origin) names) := rfl
  cases e with
  | array es close => simp [Expr.rename, Expr.parts, Expr.inTurn_rename]
  | block es =>
    have members := Expr.inTurn_rename ρ (Γ.enter (.block es) []) es
    simpa [Expr.rename, Expr.parts, enter, Origin.rename] using members
  | call callee args close =>
    have rest := Expr.inTurn_rename ρ (Γ.bind callee.bound) args
    simpa [Expr.rename, Expr.parts, Expr.bound_rename, Renaming.place] using rest
  | function name params body =>
    simp [Expr.rename, Expr.parts, Renaming.place, enter, Origin.rename, ρ.nameScope_map,
      ρ.parameterScope_map]
  | «match» keyword scrutinee cases =>
    have rest := Case.inTurn_rename ρ (Γ.bind scrutinee.bound) cases
    simpa [Expr.rename, Expr.parts, Expr.bound_rename, Renaming.place] using rest
  | _ => simp [Expr.rename, Expr.parts, Expr.bound_rename, Renaming.place]

/-- The use that a renamed expression is itself. -/
theorem Expr.use?_rename (Γ : Context) (e : Expr) :
    (e.rename ρ Γ).use? (Γ.rename ρ) =
      (e.use? Γ).map fun u => (u.1.rename ρ, { u.2 with name := ρ.atUse u.1 u.2.name }) := by
  cases e <;> simp [Expr.rename, Expr.use?, Expr.bound_rename]

theorem Inside.rename {Γ Δ : Context} {e d : Expr} (h : Inside Γ e Δ d) :
    Inside (Γ.rename ρ) (e.rename ρ Γ) (Δ.rename ρ) (d.rename ρ Δ) := by
  induction h with
  | here => exact .here
  | part h _ ih =>
    refine .part ?_ ih
    rw [Expr.parts_rename]
    exact List.mem_map_of_mem h

theorem Inside.of_rename {Γ Θ : Context} {e f : Expr}
    (h : Inside (Γ.rename ρ) (e.rename ρ Γ) Θ f) :
    ∃ Δ d, Inside Γ e Δ d ∧ Θ = Δ.rename ρ ∧ f = d.rename ρ Δ := by
  induction e using Expr.induction_parts generalizing Γ with
  | step e ih =>
    cases h with
    | here => exact ⟨Γ, e, .here, rfl, rfl⟩
    | part h inside =>
      rw [Expr.parts_rename] at h
      obtain ⟨⟨Δ, d⟩, hp, same⟩ := List.mem_map.1 h
      obtain ⟨rfl, rfl⟩ := Prod.mk.inj same
      obtain ⟨Δ', d', inside', rest⟩ := ih Γ Δ d hp inside
      exact ⟨Δ', d', .part hp inside', rest⟩

theorem Renaming.inTurn_program (program : List Expr) :
    Expr.inTurn [] (ρ.program program) = (Expr.inTurn [] program).map ρ.place :=
  Expr.inTurn_rename ρ [] program

/-- The places of a renamed program are those of the program, renamed. -/
theorem Site.rename_iff {program : List Expr} {Θ : Context} {f : Expr} :
    Site (ρ.program program) Θ f ↔
      ∃ Γ e, Site program Γ e ∧ Θ = Γ.rename ρ ∧ f = e.rename ρ Γ := by
  rw [Site, ρ.inTurn_program]
  constructor
  · rintro ⟨_, mem, inside⟩
    obtain ⟨root, hr, rfl⟩ := List.mem_map.1 mem
    obtain ⟨Γ, e, inside, same⟩ := Inside.of_rename ρ inside
    exact ⟨Γ, e, ⟨root, hr, inside⟩, same⟩
  · rintro ⟨Γ, e, ⟨root, hr, inside⟩, rfl, rfl⟩
    exact ⟨_, List.mem_map_of_mem hr, inside.rename ρ⟩

theorem Expr.ids_rename (Γ : Context) (e : Expr) : (e.rename ρ Γ).ids = e.ids := by
  induction e using Expr.induction_parts generalizing Γ with
  | step e ih =>
    have parts : ((e.parts Γ).map ρ.place).flatMap (fun p => p.2.ids) =
        (e.parts Γ).flatMap fun p => p.2.ids := by
      rw [List.flatMap_map]
      exact List.flatMap_congr fun p hp => ih Γ p.1 p.2 hp p.1
    rw [Expr.ids_eq (Γ.rename ρ), Expr.use?_rename, Expr.parts_rename, parts, Expr.ids_eq Γ e,
      Option.map_map]
    rfl

/-- The uses of a renamed program have the numbers that they had. -/
theorem Renaming.idsOf_program (program : List Expr) :
    Expr.idsOf (ρ.program program) = Expr.idsOf program := by
  rw [Expr.idsOf_eq_flatMap [], Expr.idsOf_eq_flatMap [], ρ.inTurn_program, List.flatMap_map]
  exact List.flatMap_congr fun p _ => Expr.ids_rename ρ p.1 p.2

end

/-! ### Renamings that change nothing -/

/-- The name keeps its spelling. -/
def Renaming.idle (ρ : Renaming) : Renaming := ⟨ρ.scope, ρ.old, ρ.old⟩

section

variable (ρ : Renaming)

@[simp] theorem Renaming.nameIn_idle (origin : Option Origin) (z : String) :
    ρ.idle.nameIn origin z = z := by
  grind [Renaming.nameIn, Renaming.idle]

@[simp] theorem Renaming.nameAt_idle (Γ : Context) (z : String) : ρ.idle.nameAt Γ z = z := by
  grind [Renaming.nameAt, Renaming.idle]

@[simp] theorem Renaming.atBinding_idle (Γ : Context) : ρ.idle.atBinding Γ = id := by
  funext t
  simp [Renaming.atBinding]

@[simp] theorem Renaming.atUse_idle (Γ : Context) (t : Token) : ρ.idle.atUse Γ t = t := by
  simp [Renaming.atUse]

mutual

@[simp] theorem Expr.rename_idle : ∀ (Γ : Context) (e : Expr), e.rename ρ.idle Γ = e
  | _, .literal _ | _, .break _ | _, .anyPattern _ | _, .variable _ _ | _, .import _
  | _, .declare _ => by simp [Expr.rename]
  | _, .array es _ | _, .block es => by simp [Expr.rename, Expr.renameInTurn_idle _ es]
  | _, .assign _ _ e | _, .group e | _, .unary _ e | _, .loop _ e | _, .declareAs _ e => by
    simp [Expr.rename, Expr.rename_idle _ e]
  | _, .assignElement _ _ d e | _, .binary d _ e | _, .logical d _ e | _, .orPattern d _ e
  | _, .index d e _ | _, .loopWhile _ d e => by
    simp [Expr.rename, Expr.rename_idle _ d, Expr.rename_idle _ e]
  | _, .call e es _ => by
    simp [Expr.rename, Expr.rename_idle _ e, Expr.renameInTurn_idle _ es]
  | _, .function name params body => by
    simp [Expr.rename, Expr.rename_idle _ body]
  | _, .slice c d e _ | _, .ternary c d e _ => by
    simp [Expr.rename, Expr.rename_idle _ c, Expr.rename_idle _ d, Expr.rename_idle _ e]
  | _, .match _ e cs => by
    simp [Expr.rename, Expr.rename_idle _ e, Case.renameInTurn_idle _ cs]

@[simp] theorem Expr.renameInTurn_idle : ∀ (Γ : Context) (es : List Expr),
    Expr.renameInTurn ρ.idle Γ es = es
  | _, [] => rfl
  | _, e :: es => by
    simp [Expr.renameInTurn, Expr.rename_idle _ e, Expr.renameInTurn_idle _ es]

@[simp] theorem Case.renameInTurn_idle : ∀ (Γ : Context) (cs : List Case),
    Case.renameInTurn ρ.idle Γ cs = cs
  | _, [] => rfl
  | _, .mk _ condition body :: cs => by
    simp [Case.renameInTurn, Expr.rename_idle _ condition, Expr.rename_idle _ body,
      Case.renameInTurn_idle _ cs]

end

@[simp] theorem Origin.rename_idle (Γ : Context) (origin : Origin) :
    origin.rename ρ.idle Γ = origin := by
  cases origin <;> simp [Origin.rename]

@[simp] theorem Context.rename_idle (Γ : Context) : Γ.rename ρ.idle = Γ := by
  induction Γ with
  | nil => rfl
  | cons c Γ ih => simp [Context.rename, ih, Renaming.scopeIn]

end

/-! ### Look-ups of renamed names -/

namespace Renaming

variable {ρ : Renaming} {origin : Option Origin} {names : Scope} {z w : String} {Γ : Context}

/-- Different names that can be written in the program stay different. -/
theorem nameIn_inj (hz : z ≠ ρ.new) (hw : w ≠ ρ.new) :
    ρ.nameIn origin z = ρ.nameIn origin w ↔ z = w := by
  grind [nameIn]

theorem lookup_scopeIn (hz : z ≠ ρ.new) (avoids : ∀ p ∈ names, p.1 ≠ ρ.new) :
    (ρ.scopeIn origin names).lookup (ρ.nameIn origin z) = names.lookup z := by
  induction names with
  | nil => rfl
  | cons p names ih =>
    obtain ⟨hp, avoids⟩ := List.forall_mem_cons.1 avoids
    have same : (ρ.nameIn origin z == ρ.nameIn origin p.1) = (z == p.1) := by
      rw [Bool.eq_iff_iff, beq_iff_eq, beq_iff_eq, nameIn_inj hz hp]
    rw [scopeIn_cons, List.lookup_cons, List.lookup_cons, same, ih avoids]

/-- A scope that does not bind a name does not bind it in any spelling. -/
theorem lookup_scopeIn_nameAt (hz : z ≠ ρ.new) (avoids : ∀ p ∈ names, p.1 ≠ ρ.new)
    (unbound : names.lookup z = none) (Γ : Context) :
    (ρ.scopeIn origin names).lookup (ρ.nameAt Γ z) = none := by
  rw [List.lookup_eq_none_iff] at unbound ⊢
  intro p hp
  obtain ⟨q, hq, rfl⟩ := List.mem_map.1 hp
  have differs : z ≠ q.1 := by simpa using unbound q hq
  have written := avoids q hq
  grind [nameIn, nameAt]

/-- The scope whose binding is renamed does not bind the old name any more. -/
theorem lookup_scopeIn_old (differs : ρ.new ≠ ρ.old) (names : Scope) :
    (ρ.scopeIn (some ρ.scope) names).lookup ρ.old = none := by
  rw [List.lookup_eq_none_iff]
  intro p hp
  obtain ⟨q, -, rfl⟩ := List.mem_map.1 hp
  grind [nameIn]

theorem nameAt_eq_or (ρ : Renaming) (Γ : Context) (z : String) :
    ρ.nameAt Γ z = z ∨ z = ρ.old ∧ ρ.nameAt Γ z = ρ.new := by
  grind [nameAt]

/-- The scope that binds a name decides how it is spelled. -/
theorem nameAt_cons (ρ : Renaming) (c : Enclosure) (Γ : Context) (z : String) :
    ρ.nameAt (c :: Γ) z =
      if (c.scope.lookup z).isSome then ρ.nameIn (some c.origin) z else ρ.nameAt Γ z := by
  classical
  by_cases old : z = ρ.old
  · subst old
    by_cases bound : (c.scope.lookup ρ.old).isSome
    · have here : ρ.Reaches (c :: Γ) ↔ some c.origin = some ρ.scope := by
        simp [Reaches, Resolution.hopsTo?_cons, bound]
      rw [if_pos bound]
      exact if_congr (and_congr here Iff.rfl) rfl rfl
    · have outside : ρ.Reaches (c :: Γ) ↔ ρ.Reaches Γ := by
        simp [Reaches, Resolution.hopsTo?_cons, bound]
      rw [if_neg bound]
      exact if_congr (and_congr outside Iff.rfl) rfl rfl
  · simp [nameAt, nameIn, old]

/-- A use of a name is as far from its binding as it was. -/
theorem hopsTo?_rename (avoids : Γ.Avoids ρ.new) (hz : z ≠ ρ.new) :
    Resolution.hopsTo? (ρ.nameAt Γ z) (Γ.rename ρ).scopes = Resolution.hopsTo? z Γ.scopes := by
  induction Γ with
  | nil => rfl
  | cons c Γ ih =>
    obtain ⟨hc, avoids⟩ := List.forall_mem_cons.1 avoids
    rw [Context.rename, Context.scopes_cons, Context.scopes_cons, Resolution.hopsTo?_cons, Resolution.hopsTo?_cons,
      nameAt_cons]
    by_cases bound : (c.scope.lookup z).isSome
    · simp only [if_pos bound, lookup_scopeIn hz hc]
    · have unbound := Option.not_isSome_iff_eq_none.1 bound
      simp only [if_neg bound, lookup_scopeIn_nameAt hz hc unbound, ih avoids]
      rfl

theorem awaits_rename (avoids : Γ.Avoids ρ.new) (hz : z ≠ ρ.new)
    (awaits : (Γ.rename ρ).Awaits (ρ.nameAt Γ z)) : Γ.Awaits z := by
  cases Γ with
  | nil => exact awaits
  | cons c Γ =>
    obtain ⟨hc, -⟩ := List.forall_mem_cons.1 avoids
    simp only [Context.rename, Context.Awaits, nameAt_cons] at awaits ⊢
    by_cases bound : (c.scope.lookup z).isSome
    · rwa [if_pos bound, lookup_scopeIn hz hc] at awaits
    · have unbound := Option.not_isSome_iff_eq_none.1 bound
      rw [if_neg bound, lookup_scopeIn_nameAt hz hc unbound] at awaits
      cases awaits

theorem isFree_rename (avoids : Γ.Avoids ρ.new) (hz : z ≠ ρ.new) (free : Γ.IsFree z) :
    (Γ.rename ρ).IsFree (ρ.nameIn Γ.origins.head? z) := by
  cases Γ with
  | nil => trivial
  | cons c Γ =>
    obtain ⟨hc, -⟩ := List.forall_mem_cons.1 avoids
    exact (lookup_scopeIn hz hc).trans free

/-- The scope that binds a use decides how it is spelled. -/
theorem nameAt_of_hopsTo? (ρ : Renaming) {h : Nat}
    (found : Resolution.hopsTo? z Γ.scopes = some h) {o : Origin} (ho : Γ.origins[h]? = some o) :
    ρ.nameAt Γ z = ρ.nameIn (some o) z := by
  classical
  by_cases old : z = ρ.old
  · subst old
    have reaches : ρ.Reaches Γ ↔ some o = some ρ.scope := by simp [Reaches, found, ho]
    exact if_congr (and_congr reaches Iff.rfl) rfl rfl
  · simp [nameAt, nameIn, old]

/-- A use that no scope binds is of a global name, and is spelled as before. -/
theorem nameAt_of_hopsTo?_eq_none (ρ : Renaming)
    (unbound : Resolution.hopsTo? z Γ.scopes = none) : ρ.nameAt Γ z = z := by
  by_cases old : z = ρ.old
  · subst old
    have outside : ¬ρ.Reaches Γ := by simp [Reaches, unbound]
    simp [nameAt, outside]
  · simp [nameAt, old]

/-- What opens the scope whose binding is renamed does not stay the same. -/
theorem rename_scope_ne (bound : (ρ.scope.scope.lookup ρ.old).isSome) (differs : ρ.new ≠ ρ.old)
    (Γ : Context) : ρ.scope.rename ρ Γ ≠ ρ.scope := by
  intro same
  have unbound := lookup_scopeIn_old differs ρ.scope.scope
  rw [← Origin.scope_rename ρ Γ, same] at unbound
  simp [unbound] at bound

/-! ### Resolution of renamed programs -/

/-- A name that a scope binds, by `var` or as a parameter, can be renamed to a name that is not
written in the program. -/
structure Fits (ρ : Renaming) (program : List Expr) : Prop where
  /-- The scope binds the name. -/
  bound : (ρ.scope.scope.lookup ρ.old).isSome
  /-- It does not bind it as the name of a function, with which the function would be shown. -/
  «variable» : ∀ Γ name params body, Site program Γ (.function (some name) params body) →
    Γ.origins.head? = some ρ.scope → name.lexeme ≠ ρ.old
  /-- The new name is not written in the program. -/
  unwritten : ∀ Γ e, Site program Γ e → ∀ x ∈ e.spelled, x.lexeme ≠ ρ.new
  /-- It is another name. -/
  differs : ρ.new ≠ ρ.old

namespace Fits

variable {program : List Expr} {imports : Token → List Diagnostic} (fits : ρ.Fits program)

include fits

theorem avoids {e : Expr} (site : Site program Γ e) : Γ.Avoids ρ.new :=
  site.avoids fits.unwritten

theorem use_ne {Δ : Context} {e : Expr} {u : Use} (site : Site program Γ e)
    (hu : e.use? Γ = some (Δ, u)) : u.name.lexeme ≠ ρ.new := by
  have spelled := fits.unwritten Γ e site
  cases e <;> simp only [Expr.use?, Option.some.injEq, reduceCtorEq] at hu <;> cases hu <;>
    exact spelled _ (by simp [Expr.spelled])

theorem bound_ne {e : Expr} (site : Site program Γ e) : ∀ p ∈ e.bound, p.1 ≠ ρ.new := by
  intro p hp
  obtain ⟨Δ, d, inside, x, hx, same⟩ := Inside.exists_of_mem_bound Γ hp
  exact same ▸ fits.unwritten Δ d (site.inside inside) x hx

theorem avoids_use {Δ : Context} {e : Expr} {u : Use} (site : Site program Γ e)
    (hu : e.use? Γ = some (Δ, u)) : Δ.Avoids ρ.new := by
  obtain rfl : Δ = Γ.bind e.bound := Expr.eq_bind_of_use? hu
  exact (fits.avoids site).bind (fits.bound_ne site)

/-- A place stays sound. -/
theorem isSound {e : Expr} (site : Site program Γ e) (sound : e.IsSound imports Γ) :
    (e.rename ρ Γ).IsSound imports (Γ.rename ρ) := by
  have avoids := fits.avoids site
  have spelled := fits.unwritten Γ e site
  cases e with
  | «variable» id x =>
    intro awaits
    exact sound (awaits_rename avoids (spelled x (by simp [Expr.spelled])) awaits)
  | function name params body =>
    obtain ⟨free, nodup⟩ := sound
    refine ⟨fun n hn => ?_, ?_⟩
    · obtain ⟨x, rfl, rfl⟩ := Option.map_eq_some_iff.1 hn
      exact isFree_rename avoids (spelled x (by simp [Expr.spelled])) (free x rfl)
    · have written (x : Token) (hx : x ∈ params) : x.lexeme ≠ ρ.new :=
        spelled x (List.mem_append_right _ hx)
      rw [List.map_map]
      refine List.Nodup.map_on (fun x hx y hy same => ?_) nodup.of_map
      exact List.inj_on_of_nodup_map nodup hx hy ((nameIn_inj (written x hx) (written y hy)).1 same)
  | declare x => exact isFree_rename avoids (spelled x (by simp [Expr.spelled])) sound
  | declareAs x value => exact isFree_rename avoids (spelled x (by simp [Expr.spelled])) sound
  | «import» path => exact sound
  | _ => trivial

/-- A renamed program has no faults if the program has none. -/
theorem faults (sound : (Resolution.ofProgram imports program).faults = []) :
    (Resolution.ofProgram imports (ρ.program program)).faults = [] := by
  rw [Resolution.faults_ofProgram] at sound ⊢
  intro Θ f site
  obtain ⟨Γ, e, stands, rfl, rfl⟩ := (Site.rename_iff ρ).1 site
  exact fits.isSound stands (sound Γ e stands)

/-- In a renamed program the hop counts are what they were. -/
theorem hops (nodup : (Expr.idsOf program).Nodup)
    (sound : (Resolution.ofProgram imports program).faults = []) (id : NodeId) :
    (Resolution.ofProgram imports (ρ.program program)).hops[id]? =
      (Resolution.ofProgram imports program).hops[id]? := by
  have same := ρ.idsOf_program program
  by_cases mem : id ∈ Expr.idsOf program
  · obtain ⟨Γ, e, Δ, u, site, hu, rfl⟩ := Site.exists_of_mem_idsOf mem
    have site' := (Site.rename_iff ρ).2 ⟨Γ, e, site, rfl, rfl⟩
    have hu' := Expr.use?_rename ρ Γ e
    rw [hu, Option.map_some] at hu'
    have hops' := Resolution.hops_ofProgram (same ▸ nodup) (fits.faults sound) site' hu'
    rw [Resolution.hops_ofProgram nodup sound site hu]
    exact hops'.trans (hopsTo?_rename (fits.avoids_use site hu) (fits.use_ne site hu))
  · rw [Resolution.hops_ofProgram_of_not_mem mem,
      Resolution.hops_ofProgram_of_not_mem (same ▸ mem)]

end Fits

end Renaming

end FoxScript
