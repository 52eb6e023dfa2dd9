import FoxScript.Proofs.Expr.Schedule
import FoxScript.Proofs.Scope.Resolution

/-!
# The declarations of a scope

A scope gets its names from the parameters of its function and from declarations that stand directly
in it, wherever in its expressions: in arguments, first values, conditions, patterns or loops. What
stands in a scope of its own belongs to that scope. In a program that is accepted all declarations
of a scope have different names.

## Main definitions

* `Declaration`: a parameter, or an expression that declares a name.
* `Expr.declarations`, `Origin.declarations`: the declarations of a scope.
* `Origin.declaring`: those that give it a certain name.
* `Context.Takes`: the innermost scope can take certain declarations.

## Main statements

* `Expr.takes`: the scope around an accepted expression can take its declarations.
* `Site.nodup_block`, `Site.nodup_call`: the declarations of a scope have different names.
-/
namespace FoxScript

/-- What gives a scope a name: a parameter, or an expression that declares the name. -/
structure Declaration where
  /-- The name. -/
  name : Token
  /-- The expression that declares it. A parameter has none. -/
  node : Option Expr

/-- The name as it is written. -/
def Declaration.lexeme (d : Declaration) : String := d.name.lexeme

mutual

/-- The declarations in an expression that give names to the scope around it, in the order in which
the names get their values. What stands in a scope of its own is not counted. -/
def Expr.declarations : Expr → List Declaration
  | .literal _ | .break _ | .anyPattern _ | .variable _ _ | .block _ | .import _ => []
  | .array elements _ => Expr.declarationsOf elements
  | .assign _ _ value => value.declarations
  | .assignElement _ _ i value => i.declarations ++ value.declarations
  | .binary left _ right | .logical left _ right | .orPattern left _ right =>
    left.declarations ++ right.declarations
  | .call callee args _ => callee.declarations ++ Expr.declarationsOf args
  | .function (some name) params body => [⟨name, some (.function (some name) params body)⟩]
  | .function none _ _ => []
  | .group inner | .unary _ inner => inner.declarations
  | .index target i _ => target.declarations ++ i.declarations
  | .slice target lower upper _ =>
    (target.declarations ++ lower.declarations) ++ upper.declarations
  | .match _ scrutinee cases => scrutinee.declarations ++ Case.declarationsOf cases
  | .ternary condition yes no _ =>
    (condition.declarations ++ yes.declarations) ++ no.declarations
  | .declare name => [⟨name, some (.declare name)⟩]
  | .declareAs name value => value.declarations ++ [⟨name, some (.declareAs name value)⟩]
  | .loop _ body => body.declarations
  | .loopWhile _ condition body => condition.declarations ++ body.declarations

/-- The declarations in several expressions. -/
def Expr.declarationsOf : List Expr → List Declaration
  | [] => []
  | e :: es => e.declarations ++ Expr.declarationsOf es

/-- The declarations in the cases of a match. -/
def Case.declarationsOf : List Case → List Declaration
  | [] => []
  | .mk _ condition body :: cases =>
    (condition.declarations ++ body.declarations) ++ Case.declarationsOf cases

end

/-- The declarations of a scope. -/
def Origin.declarations : Origin → List Declaration
  | .root => []
  | .block members => Expr.declarationsOf members
  | .call params body => params.map (⟨·, none⟩) ++ body.declarations

mutual

/-- What an expression binds is what it declares. -/
theorem Expr.bound_declarations : ∀ e : Expr,
    e.bound.filter Prod.snd = (e.declarations.map fun d => (d.lexeme, true)).reverse
  | .literal _ | .break _ | .anyPattern _ | .variable _ _ | .block _ | .import _ => rfl
  | .array elements _ => Expr.boundBy_declarations elements
  | .assign _ _ value => value.bound_declarations
  | .assignElement _ _ left right | .binary left _ right | .logical left _ right
  | .orPattern left _ right | .index left right _ | .loopWhile _ left right => by
    simp [Expr.bound, Expr.declarations, left.bound_declarations, right.bound_declarations]
  | .call callee args _ => by
    simp [Expr.bound, Expr.declarations, callee.bound_declarations,
      Expr.boundBy_declarations args]
  | .function (some name) params body => rfl
  | .function none _ _ => rfl
  | .group inner | .unary _ inner | .loop _ inner => inner.bound_declarations
  | .slice first second third _ | .ternary first second third _ => by
    simp [Expr.bound, Expr.declarations, first.bound_declarations, second.bound_declarations,
      third.bound_declarations]
  | .match _ scrutinee cases => by
    simp [Expr.bound, Expr.declarations, scrutinee.bound_declarations,
      Case.boundBy_declarations cases]
  | .declare name => rfl
  | .declareAs name value => by
    simp [Expr.bound, Expr.declarations, value.bound_declarations, Declaration.lexeme]

theorem Expr.boundBy_declarations : ∀ es : List Expr,
    (Expr.boundBy es).filter Prod.snd =
      ((Expr.declarationsOf es).map fun d => (d.lexeme, true)).reverse
  | [] => rfl
  | e :: es => by
    simp [Expr.boundBy, Expr.declarationsOf, e.bound_declarations, Expr.boundBy_declarations es]

theorem Case.boundBy_declarations : ∀ cs : List Case,
    (Case.boundBy cs).filter Prod.snd =
      ((Case.declarationsOf cs).map fun d => (d.lexeme, true)).reverse
  | [] => rfl
  | .mk _ condition body :: cs => by
    simp [Case.boundBy, Case.declarationsOf, condition.bound_declarations,
      body.bound_declarations, Case.boundBy_declarations cs]

end

theorem Expr.mem_bound_of_declarations {e : Expr} {d : Declaration} (h : d ∈ e.declarations) :
    (d.lexeme, true) ∈ e.bound := by
  have mem : (d.lexeme, true) ∈ e.bound.filter Prod.snd := by
    rw [e.bound_declarations, List.mem_reverse]
    exact List.mem_map_of_mem h
  exact (List.mem_filter.1 mem).1

/-! ### Declarations one after the other -/

namespace Context

theorem isFree_bind {Γ : Context} (inside : Γ ≠ []) {names : Scope} {x : String} :
    (Γ.bind names).IsFree x ↔ names.lookup x = none ∧ Γ.IsFree x := by
  cases Γ with
  | nil => exact absurd rfl inside
  | cons c Γ => simp [bind, IsFree, List.lookup_append]

theorem bind_ne_nil {Γ : Context} (inside : Γ ≠ []) (names : Scope) : Γ.bind names ≠ [] := by
  cases Γ with
  | nil => exact absurd rfl inside
  | cons c Γ => exact List.cons_ne_nil _ _

/-- The innermost scope can take declarations: they have different names, and none of these is bound
there yet. -/
structure Takes (Γ : Context) (ds : List Declaration) : Prop where
  /-- The names differ. -/
  nodup : (ds.map Declaration.lexeme).Nodup
  /-- They are not bound yet. -/
  free : ∀ d ∈ ds, Γ.IsFree d.lexeme

variable {Γ : Context} {ds ds' : List Declaration}

theorem Takes.nil : Γ.Takes [] := ⟨List.nodup_nil, nofun⟩

theorem Takes.single {d : Declaration} (free : Γ.IsFree d.lexeme) : Γ.Takes [d] :=
  ⟨List.nodup_singleton _, List.forall_mem_singleton.2 free⟩

theorem Takes.perm (h : Γ.Takes ds) (p : ds.Perm ds') : Γ.Takes ds' :=
  ⟨(p.map _).nodup_iff.1 h.nodup, fun d hd => h.free d (p.mem_iff.2 hd)⟩

/-- Declarations come after others whose names are bound by then. -/
theorem Takes.append (inside : Γ ≠ []) {names : Scope} (h : Γ.Takes ds)
    (h' : (Γ.bind names).Takes ds') (bound : ∀ d ∈ ds, ∃ ready, (d.lexeme, ready) ∈ names) :
    Γ.Takes (ds ++ ds') := by
  have free (d : Declaration) (hd : d ∈ ds') : names.lookup d.lexeme = none ∧ Γ.IsFree d.lexeme :=
    (isFree_bind inside).1 (h'.free d hd)
  refine ⟨?_, List.forall_mem_append.2 ⟨h.free, fun d hd => (free d hd).2⟩⟩
  rw [List.map_append]
  refine h.nodup.append h'.nodup fun x hx hx' => ?_
  obtain ⟨d, hd, rfl⟩ := List.mem_map.1 hx
  obtain ⟨d', hd', same⟩ := List.mem_map.1 hx'
  obtain ⟨ready, mem⟩ := bound d hd
  have other := List.lookup_eq_none_iff.1 (free d' hd').1 _ mem
  simp [same] at other

/-- The declarations of an expression come before others. -/
theorem Takes.before (inside : Γ ≠ []) {e : Expr} (h : Γ.Takes e.declarations)
    (h' : (Γ.bind e.bound).Takes ds') : Γ.Takes (e.declarations ++ ds') :=
  h.append inside h' fun _ hd => ⟨true, Expr.mem_bound_of_declarations hd⟩

end Context

section

variable {imports : Token → List Diagnostic} {Γ : Context}

theorem Expr.takes_inTurn {es : List Expr} (inside : Γ ≠ [])
    (takes : ∀ e ∈ es, ∀ Γ : Context, Γ ≠ [] → Accepted imports Γ e → Γ.Takes e.declarations)
    (accepted : ∀ p ∈ Expr.inTurn Γ es, Accepted imports p.1 p.2) :
    Γ.Takes (Expr.declarationsOf es) := by
  induction es generalizing Γ with
  | nil => exact .nil
  | cons e es ih =>
    obtain ⟨first, rest⟩ := List.forall_mem_cons.1 accepted
    obtain ⟨here, there⟩ := List.forall_mem_cons.1 takes
    exact (here Γ inside first).before inside (ih (Context.bind_ne_nil inside _) there rest)

theorem Case.takes_inTurn {cs : List Case} (inside : Γ ≠ [])
    (takes : ∀ c ∈ cs, ∀ e, e = c.condition ∨ e = c.body → ∀ Γ : Context, Γ ≠ [] →
      Accepted imports Γ e → Γ.Takes e.declarations)
    (accepted : ∀ p ∈ Case.inTurn Γ cs, Accepted imports p.1 p.2) :
    Γ.Takes (Case.declarationsOf cs) := by
  induction cs generalizing Γ with
  | nil => exact .nil
  | cons c cs ih =>
    obtain ⟨arrow, condition, body⟩ := c
    obtain ⟨first, others⟩ := List.forall_mem_cons.1 accepted
    obtain ⟨second, rest⟩ := List.forall_mem_cons.1 others
    obtain ⟨here, there⟩ := List.forall_mem_cons.1 takes
    have next := Context.bind_ne_nil inside condition.bound
    have remaining := ih (Context.bind_ne_nil next body.bound) there rest
    rw [Case.declarationsOf, List.append_assoc]
    exact (here _ (.inl rfl) Γ inside first).before inside
      ((here _ (.inr rfl) _ next second).before next remaining)

/-- The scope around an expression that is accepted can take its declarations. -/
theorem Expr.takes (e : Expr) (inside : Γ ≠ []) (accepted : Accepted imports Γ e) :
    Γ.Takes e.declarations := by
  induction e using Expr.induction_parts generalizing Γ with
  | step e ih =>
  obtain ⟨sound, parts⟩ := accepted_iff.1 accepted
  have part {d : Expr} (h : ∃ Δ, (Δ, d) ∈ e.parts Γ) (Δ : Context) (inside : Δ ≠ [])
      (accepted : Accepted imports Δ d) : Δ.Takes d.declarations :=
    h.elim fun _ hd => ih _ _ _ hd inside accepted
  cases e with
  | literal | «variable» | block | «break» | «import» | anyPattern => exact .nil
  | array es close =>
    exact Expr.takes_inTurn inside (fun d hd => part (Expr.exists_mem_inTurn hd)) parts
  | call callee args close =>
    obtain ⟨first, rest⟩ := List.forall_mem_cons.1 parts
    refine (part ⟨_, List.mem_cons_self⟩ Γ inside first).before inside ?_
    exact Expr.takes_inTurn (Context.bind_ne_nil inside _) (fun d hd => part
      ((Expr.exists_mem_inTurn hd).imp fun _ => List.mem_cons_of_mem _)) rest
  | «match» keyword scrutinee cases =>
    obtain ⟨first, rest⟩ := List.forall_mem_cons.1 parts
    refine (part ⟨_, List.mem_cons_self⟩ Γ inside first).before inside ?_
    exact Case.takes_inTurn (Context.bind_ne_nil inside _) (fun c hc d hd => part
      ((Case.exists_mem_inTurn hc hd).imp fun _ => List.mem_cons_of_mem _)) rest
  | function name params body =>
    cases name with
    | none => exact .nil
    | some name => exact .single (sound.1 name rfl)
  | declare name => exact .single sound
  | declareAs name value =>
    have free : Γ.IsFree name.lexeme := sound
    have own : Γ.Takes [⟨name, some (.declareAs name value)⟩] := .single free
    have value := part ⟨_, List.mem_cons_self⟩ _ (Context.bind_ne_nil inside _)
      (parts _ List.mem_cons_self)
    have bound : ∃ ready, (name.lexeme, ready) ∈ [(name.lexeme, false)] :=
      ⟨false, List.mem_singleton_self _⟩
    exact (own.append inside value (List.forall_mem_singleton.2 bound)).perm
      List.perm_append_comm
  | assign | group | unary | loop =>
    exact part ⟨_, List.mem_cons_self⟩ Γ inside (parts _ List.mem_cons_self)
  | slice c d e | ternary c d e =>
    obtain ⟨first, others⟩ := List.forall_mem_cons.1 parts
    obtain ⟨second, others⟩ := List.forall_mem_cons.1 others
    have next := Context.bind_ne_nil inside c.bound
    rw [Expr.declarations, List.append_assoc]
    refine (part ⟨_, List.mem_cons_self⟩ Γ inside first).before inside ?_
    refine (part ⟨_, List.mem_cons_of_mem _ List.mem_cons_self⟩ _ next second).before next ?_
    exact part ⟨_, List.mem_cons_of_mem _ (List.mem_cons_of_mem _ List.mem_cons_self)⟩ _
      (Context.bind_ne_nil next _) (others _ List.mem_cons_self)
  | assignElement | binary | logical | orPattern | index | loopWhile =>
    obtain ⟨first, others⟩ := List.forall_mem_cons.1 parts
    refine (part ⟨_, List.mem_cons_self⟩ Γ inside first).before inside ?_
    exact part ⟨_, List.mem_cons_of_mem _ List.mem_cons_self⟩ _ (Context.bind_ne_nil inside _)
      (others _ List.mem_cons_self)

end

/-! ### The scopes of a program -/

namespace Origin

/-- The names of the declarations of a scope. -/
def names (origin : Origin) : List String := origin.declarations.map Declaration.lexeme

/-- The declarations of a scope that give it a certain name. -/
def declaring (origin : Origin) (x : String) : List Declaration :=
  origin.declarations.filter fun d => d.lexeme = x

variable {origin : Origin}

/-- If the declarations have different names, each is the only one of its name. -/
theorem declaring_eq_singleton (nodup : origin.names.Nodup) {d : Declaration}
    (h : d ∈ origin.declarations) : origin.declaring d.lexeme = [d] := by
  rw [names] at nodup
  rw [declaring]
  generalize origin.declarations = ds at nodup h ⊢
  induction ds with
  | nil => cases h
  | cons c ds ih =>
    obtain ⟨other, nodup⟩ := List.nodup_cons.1 nodup
    obtain rfl | h := List.mem_cons.1 h
    · rw [List.filter_cons_of_pos (by simp), List.filter_eq_nil_iff.2]
      intro e he same
      exact other (List.mem_map.2 ⟨e, he, of_decide_eq_true same⟩)
    · have differs : c.lexeme ≠ d.lexeme := fun same => other (same ▸ List.mem_map_of_mem h)
      rw [List.filter_cons_of_neg (by simpa using differs), ih nodup h]

end Origin

section

variable {imports : Token → List Diagnostic} {program : List Expr} {Γ : Context}

theorem Site.accepted (sound : (Resolution.ofProgram imports program).faults = []) {e : Expr}
    (site : Site program Γ e) : Accepted imports Γ e :=
  fun Δ d inside => Resolution.faults_ofProgram.1 sound Δ d (site.inside inside)

/-- The declarations of a block have different names. -/
theorem Site.nodup_block (sound : (Resolution.ofProgram imports program).faults = [])
    {es : List Expr} (site : Site program Γ (.block es)) : (Origin.block es).names.Nodup := by
  have members := (accepted_iff.1 (site.accepted sound)).2
  exact (Expr.takes_inTurn (List.cons_ne_nil _ _) (fun e _ Γ => e.takes) members).nodup

/-- The parameters and the declarations of a function have different names. -/
theorem Site.nodup_call (sound : (Resolution.ofProgram imports program).faults = [])
    {name : Option Token} {params : List Token} {body : Expr}
    (site : Site program Γ (.function name params body)) :
    (Origin.call params body).names.Nodup := by
  obtain ⟨here, parts⟩ := accepted_iff.1 (site.accepted sound)
  obtain ⟨nodup, free⟩ := body.takes (List.cons_ne_nil _ _) (parts _ List.mem_cons_self)
  have names : (params.map fun x => (⟨x, none⟩ : Declaration)).map Declaration.lexeme =
      params.map Token.lexeme := by simp [Declaration.lexeme]
  rw [Origin.names, Origin.declarations, List.map_append, names]
  refine here.2.append nodup fun x hx hx' => ?_
  obtain ⟨p, hp, rfl⟩ := List.mem_map.1 hx
  obtain ⟨d, hd, same⟩ := List.mem_map.1 hx'
  have mem : (p.lexeme, true) ∈ parameterScope params :=
    List.mem_reverse.2 (List.mem_map_of_mem hp)
  have other := List.lookup_eq_none_iff.1 (free d hd) _ mem
  simp [same] at other

end

/-! ### What is evaluated in one frame -/

theorem Expr.declarations_of_alternatives {c d : Expr} (h : d ∈ c.alternatives) :
    d.declarations ⊆ c.declarations := by
  fun_induction Expr.alternatives c with
  | case1 left pipe right ihl ihr =>
    obtain h | h := List.mem_append.1 h
    · exact List.subset_append_of_subset_left _ (ihl h)
    · exact List.subset_append_of_subset_right _ (ihr h)
  | case2 => cases h
  | case3 e =>
    obtain rfl := List.mem_singleton.1 h
    exact List.Subset.refl _

theorem Expr.declarations_of_mem {es : List Expr} {e : Expr} (h : e ∈ es) :
    e.declarations ⊆ Expr.declarationsOf es := by
  induction es with
  | nil => cases h
  | cons d es ih =>
    obtain rfl | h := List.mem_cons.1 h
    · exact List.subset_append_left _ _
    · exact List.subset_append_of_subset_right _ (ih h)

theorem Case.declarations_of_mem {cs : List Case} {c : Case} (h : c ∈ cs) :
    c.condition.declarations ++ c.body.declarations ⊆ Case.declarationsOf cs := by
  induction cs with
  | nil => cases h
  | cons c' cs ih =>
    obtain ⟨arrow, condition, body⟩ := c'
    obtain rfl | h := List.mem_cons.1 h
    · exact List.subset_append_left _ _
    · exact List.subset_append_of_subset_right _ (ih h)

/-- The parts that an expression evaluates in its frame declare names of its scope. -/
theorem Expr.declarations_of_schedule {e : Expr} {p : List Expr × Expr} (h : p ∈ e.schedule) :
    p.2.declarations ⊆ e.declarations := by
  cases e with
  | array es close => exact Expr.declarations_of_mem (Expr.mem_of_inOrder h)
  | call callee args close =>
    obtain rfl | h := List.mem_cons.1 h
    · exact List.subset_append_left _ _
    · exact List.subset_append_of_subset_right _
        (Expr.declarations_of_mem (Expr.mem_of_inOrder h))
  | «match» keyword scrutinee cases =>
    obtain rfl | h := List.mem_cons.1 h
    · exact List.subset_append_left _ _
    · obtain ⟨c, hc, hp⟩ := Case.mem_of_inOrder h
      refine List.subset_append_of_subset_right _ ?_
      refine List.Subset.trans ?_ (Case.declarations_of_mem hc)
      obtain hp | hp := hp
      · exact List.subset_append_of_subset_left _ (Expr.declarations_of_alternatives hp)
      · exact hp ▸ List.subset_append_right _ _
  | literal | «variable» | «break» | «import» | declare | block | function | orPattern
  | anyPattern => cases h
  | declareAs =>
    obtain rfl := List.mem_singleton.1 h
    exact List.subset_append_left _ _
  | assign | group | unary | loop =>
    obtain rfl := List.mem_singleton.1 h
    exact List.Subset.refl _
  | assignElement | binary | logical | index | loopWhile =>
    obtain rfl | rfl := List.mem_pair.1 h
    · exact List.subset_append_left _ _
    · exact List.subset_append_right _ _
  | slice | ternary =>
    simp only [Expr.schedule, List.mem_cons, List.not_mem_nil, or_false] at h
    obtain rfl | rfl | rfl := h
    · exact List.subset_append_of_subset_left _ (List.subset_append_left _ _)
    · exact List.subset_append_of_subset_left _ (List.subset_append_right _ _)
    · exact List.subset_append_right _ _

end FoxScript
