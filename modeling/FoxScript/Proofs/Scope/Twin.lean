import FoxScript.Proofs.Scope.Resolution

/-!
# Resolutions side by side

No step of resolution looks at anything but the scopes, and each leaves as many of them as there
were before. So two resolutions of the same expressions that start with the same scopes do the same,
whatever was reported and found out before and whatever imports report to either, and what is found
out about a program does not depend on the programs before it.

## Main definitions

* `Resolution.Step.Twin`: two steps that do the same but for the faults of imports.
* `Resolution.Tracks`: what each step keeps of two resolutions.
* `Resolution.Follows`: a state after something else was resolved.

## Main statements

* `Resolution.Tracks.ofProgram`: two resolutions of a program keep what each step keeps.
* `Resolution.follows_append`: two programs that are resolved as one.
-/
namespace FoxScript

namespace Resolution

/-! ### Two resolutions of a program -/

/-- Two steps that do the same, but for what imports report to each of them. They look at the scopes
only, and keep something for uses only of which `own` holds. -/
inductive Step.Twin (imports imports' : Token → List Diagnostic) (own : NodeId → Prop) :
    Step Unit → Step Unit → Prop
  /-- Nothing is done. -/
  | nil : Twin imports imports' own (pure ()) (pure ())
  /-- A step after another. -/
  | append {a a' b b' : Step Unit} (ha : Twin imports imports' own a a')
    (hb : Twin imports imports' own b b') :
    Twin imports imports' own (a >>= fun _ => b) (a' >>= fun _ => b')
  /-- A step that depends on the scopes. -/
  | look {next next' : Resolution → Step Unit}
    (h : ∀ r, Twin imports imports' own (next r) (next' r))
    (blind : ∀ r r', r'.scopes = r.scopes → next' r' = next' r) :
    Twin imports imports' own (get >>= next) (get >>= next')
  /-- A fault of scopes. -/
  | reportAt (t : Token) (f : ScopeFault) :
    Twin imports imports' own (reportAt t f) (reportAt t f)
  /-- A name that is bound. -/
  | bindName (name : String) (ready : Bool) :
    Twin imports imports' own (bindName name ready) (bindName name ready)
  /-- A use of a name. -/
  | locate {id : NodeId} (h : own id) (name : Token) :
    Twin imports imports' own (locate id name) (locate id name)
  /-- A step in a scope of its own. -/
  | inScope (initial : Scope) {a a' : Step Unit} (h : Twin imports imports' own a a') :
    Twin imports imports' own (inScope initial a) (inScope initial a')
  /-- An import. -/
  | imported (path : Token) : Twin imports imports' own
    (for d in imports path do report d) (for d in imports' path do report d)

namespace Step.Twin

variable {imports imports' : Token → List Diagnostic} {own : NodeId → Prop}

theorem define (name : Token) : Twin imports imports' own (define name) (define name) :=
  .bindName _ _

theorem declare (name : Token) : Twin imports imports' own (declare name) (declare name) := by
  refine .look (fun r => ?_) fun r r' same => by rw [same]
  split
  · exact .nil
  · split
    · exact .reportAt name _
    · exact .bindName _ _

theorem use {id : NodeId} (h : own id) (name : Token) :
    Twin imports imports' own (use id name) (use id name) := by
  refine .look (fun r => ?_) fun r r' same => by rw [same]
  split
  · split
    · exact .reportAt name _
    · exact .locate h name
  · exact .locate h name

theorem parameters (seen : List String) (params : List Token) :
    Twin imports imports' own (parameters seen params) (parameters seen params) := by
  induction params generalizing seen with
  | nil => exact .nil
  | cons p params ih =>
    rw [Resolution.parameters]
    split
    · exact .append (.reportAt p _) (.append (.define p) (ih _))
    · exact .append (.define p) (ih _)

variable (imports imports') in
mutual

/-- Resolving an expression does the same on both sides: one case for each form of expression. -/
theorem expr : ∀ e : Expr, (∀ u ∈ e.uses, own u.id) →
    Twin imports imports' own (Resolution.expr imports e) (Resolution.expr imports' e)
  | .literal _, _ | .break _, _ | .anyPattern _, _ => .nil
  | .variable _ name, h => .use (h _ (List.mem_singleton_self _)) name
  | .array elements _, h => exprs elements h
  | .assign _ name value, h =>
    have ⟨here, inside⟩ := List.forall_mem_cons.1 h
    .append (expr value inside) (.locate here name)
  | .assignElement _ name i value, h =>
    have ⟨here, inside⟩ := List.forall_mem_cons.1 h
    have ⟨first, second⟩ := List.forall_mem_append.1 inside
    .append (expr i first) (.append (expr value second) (.locate here name))
  | .binary left _ right, h | .logical left _ right, h | .orPattern left _ right, h =>
    have ⟨first, second⟩ := List.forall_mem_append.1 h
    .append (expr left first) (expr right second)
  | .block members, h => .inScope [] (exprs members h)
  | .call callee args _, h =>
    have ⟨first, second⟩ := List.forall_mem_append.1 h
    .append (expr callee first) (exprs args second)
  | .function none params body, h =>
    .inScope [] (.append (.parameters [] params) (expr body h))
  | .function (some name) params body, h =>
    .append (.declare name) (.append (.define name)
      (.inScope [] (.append (.parameters [] params) (expr body h))))
  | .group inner, h | .unary _ inner, h => expr inner h
  | .import path, _ => .imported path
  | .index target i _, h =>
    have ⟨first, second⟩ := List.forall_mem_append.1 h
    .append (expr target first) (expr i second)
  | .slice target lower upper _, h =>
    have ⟨others, third⟩ := List.forall_mem_append.1 h
    have ⟨first, second⟩ := List.forall_mem_append.1 others
    .append (expr target first) (.append (expr lower second) (expr upper third))
  | .match _ scrutinee branches, h =>
    have ⟨first, second⟩ := List.forall_mem_append.1 h
    .append (expr scrutinee first) (cases branches second)
  | .ternary condition yes no _, h =>
    have ⟨others, third⟩ := List.forall_mem_append.1 h
    have ⟨first, second⟩ := List.forall_mem_append.1 others
    .append (expr condition first) (.append (expr yes second) (expr no third))
  | .declare name, _ => .append (.declare name) (.define name)
  | .declareAs name value, h => .append (.declare name) (.append (expr value h) (.define name))
  | .loop _ body, h => expr body h
  | .loopWhile _ condition body, h =>
    have ⟨first, second⟩ := List.forall_mem_append.1 h
    .append (expr condition first) (expr body second)

theorem exprs : ∀ es : List Expr, (∀ u ∈ Expr.usesOf es, own u.id) →
    Twin imports imports' own (Resolution.exprs imports es) (Resolution.exprs imports' es)
  | [], _ => .nil
  | e :: es, h =>
    have ⟨first, rest⟩ := List.forall_mem_append.1 h
    .append (expr e first) (exprs es rest)

theorem cases : ∀ cs : List Case, (∀ u ∈ Case.usesOf cs, own u.id) →
    Twin imports imports' own (Resolution.cases imports cs) (Resolution.cases imports' cs)
  | [], _ => .nil
  | .mk _ condition body :: cs, h =>
    have ⟨others, rest⟩ := List.forall_mem_append.1 h
    have ⟨first, second⟩ := List.forall_mem_append.1 others
    .append (expr condition first) (.append (expr body second) (cases cs rest))

end

end Step.Twin

/-- A relation between the states of two resolutions of a program that each step keeps. -/
structure Tracks (imports imports' : Token → List Diagnostic) (own : NodeId → Prop)
    (R : Resolution → Resolution → Prop) : Prop where
  /-- The scopes are the same. -/
  scopes : ∀ {r r'}, R r r' → r'.scopes = r.scopes
  /-- The scopes change in the same way. -/
  rescope : ∀ {r r'} scopes, R r r' → R { r with scopes := scopes } { r' with scopes := scopes }
  /-- The same is found out about a use. -/
  located : ∀ {r r'} {id : NodeId} n, own id → R r r' →
    R { r with hops := r.hops.insert id n } { r' with hops := r'.hops.insert id n }
  /-- A fault of scopes is reported to both sides. -/
  scoping : ∀ {r r'} l f, R r r' → R { r with faults := r.faults ++ [.scoping l f] }
    { r' with faults := r'.faults ++ [.scoping l f] }
  /-- The faults of an import are reported. -/
  imported : ∀ {r r'} t, R r r' → R { r with faults := r.faults ++ imports t }
    { r' with faults := r'.faults ++ imports' t }

section

variable {imports imports' : Token → List Diagnostic} {own : NodeId → Prop}
  {R : Resolution → Resolution → Prop}

theorem Tracks.of_twin (tracks : Tracks imports imports' own R) {a a' : Step Unit}
    (twin : Step.Twin imports imports' own a a') {r r' : Resolution} (h : R r r') :
    R (a.after r) (a'.after r') := by
  induction twin generalizing r r' with
  | nil => exact h
  | append _ _ iha ihb => exact ihb (iha h)
  | look _ blind ih =>
    rw [after_get, after_get, blind r r' (tracks.scopes h)]
    exact ih r h
  | reportAt t f => exact tracks.scoping t.location f h
  | bindName name ready =>
    have same := tracks.scopes h
    rw [after_bindName, after_bindName, same]
    cases scopes : r.scopes with
    | nil => exact h
    | cons scope outer => exact tracks.rescope _ h
  | locate own name =>
    rw [Resolution.locate, after_modify, after_modify, tracks.scopes h]
    cases hopsTo? name.lexeme r.scopes with
    | none => exact h
    | some n =>
      have located := tracks.located n own h
      rwa [tracks.scopes h] at located
  | inScope initial _ ih =>
    have inside := ih (tracks.rescope (initial :: r.scopes) h)
    rw [after_inScope, after_inScope, tracks.scopes h, tracks.scopes inside]
    exact tracks.rescope _ inside
  | imported path =>
    rw [after_reports, after_reports]
    exact tracks.imported path h

/-- Two resolutions of a program keep what each step keeps. -/
theorem Tracks.ofProgram (tracks : Tracks imports imports' own R) (program : List Expr)
    (h : ∀ id ∈ Expr.idsOf program, own id) {r r' : Resolution} (start : R r r') :
    R ((exprs imports program).after r) ((exprs imports' program).after r') :=
  tracks.of_twin (.exprs imports imports' program (List.forall_mem_map.1 h)) start

/-- After a step there are as many scopes as before. -/
theorem Step.Twin.length_scopes {a a' : Step Unit} (twin : Step.Twin imports imports' own a a')
    (r : Resolution) : (a.after r).scopes.length = r.scopes.length := by
  induction twin generalizing r with
  | nil => rfl
  | append _ _ iha ihb => exact (ihb _).trans (iha r)
  | look _ _ ih => exact ih r r
  | reportAt => rfl
  | bindName =>
    rw [after_bindName]
    cases h : r.scopes <;> simp [h]
  | locate _ name =>
    rw [Resolution.locate, after_modify]
    split <;> rfl
  | inScope _ _ ih =>
    rw [after_inScope, List.length_drop, ih]
    rfl
  | imported =>
    rw [after_reports]

end

/-! ### Programs in pieces -/

section

variable {imports : Token → List Diagnostic}

/-- What is kept about uses that are not of a program stays. -/
theorem hops_after_of_not_mem {program : List Expr} {id : NodeId} (h : id ∉ Expr.idsOf program)
    (r : Resolution) : ((exprs imports program).after r).hops[id]? = r.hops[id]? := by
  have tracks : Tracks imports imports (fun id' => id' ≠ id) fun t t' =>
      t'.scopes = t.scopes ∧ t.hops[id]? = r.hops[id]? := by
    refine ⟨fun h => h.1, ?_, ?_, ?_, ?_⟩
    · rintro t t' scopes ⟨-, same⟩
      exact ⟨rfl, same⟩
    · rintro t t' id' n other ⟨scopes, same⟩
      exact ⟨scopes, by simpa [Std.HashMap.getElem?_insert, other] using same⟩
    · rintro t t' l f same
      exact same
    · rintro t t' path same
      exact same
  have begun : r.scopes = r.scopes ∧ r.hops[id]? = r.hops[id]? := ⟨rfl, rfl⟩
  exact (tracks.ofProgram program (fun id' mem same => h (same ▸ mem)) begun).2

/-- Nothing is kept for uses that are not of the program. -/
theorem hops_ofProgram_of_not_mem {program : List Expr} {id : NodeId}
    (h : id ∉ Expr.idsOf program) : (ofProgram imports program).hops[id]? = none :=
  (hops_after_of_not_mem h start).trans (by simp [start])

/-- A state after something else was resolved: what was reported comes first, and what was found out
counts where nothing else is. -/
structure Follows (first r r' : Resolution) : Prop where
  /-- The scopes are the same. -/
  scopes : r'.scopes = r.scopes
  /-- What was found out counts where nothing else is. -/
  hops : ∀ id : NodeId, r'.hops[id]? = (r.hops[id]?).or first.hops[id]?
  /-- What was reported comes first. -/
  faults : r'.faults = first.faults ++ r.faults

theorem tracks_follows (first : Resolution) :
    Tracks imports imports (fun _ => True) (Follows first) where
  scopes h := h.scopes
  rescope scopes h := ⟨rfl, h.hops, h.faults⟩
  located n _ h := by
    refine ⟨h.scopes, fun id' => ?_, h.faults⟩
    rw [Std.HashMap.getElem?_insert, Std.HashMap.getElem?_insert]
    split
    · rfl
    · exact h.hops id'
  scoping l f h := ⟨h.scopes, h.hops, by rw [h.faults, List.append_assoc]⟩
  imported t h := ⟨h.scopes, h.hops, by rw [h.faults, List.append_assoc]⟩

theorem exprs_append (F G : List Expr) (r : Resolution) :
    (exprs imports (F ++ G)).after r = (exprs imports G).after ((exprs imports F).after r) := by
  induction F generalizing r with
  | nil => rfl
  | cons e F ih => exact ih _

/-- A program that is resolved after another, with which it makes up one. -/
theorem follows_append (F G : List Expr) :
    Follows (ofProgram imports F) (ofProgram imports G) (ofProgram imports (F ++ G)) := by
  have scopes : (ofProgram imports F).scopes = [] := by
    have twin : Step.Twin imports imports (fun _ => True) (exprs imports F) (exprs imports F) :=
      .exprs imports imports F fun _ _ => trivial
    exact List.eq_nil_of_length_eq_zero (twin.length_scopes start)
  have begun : Follows (ofProgram imports F) start (ofProgram imports F) :=
    ⟨scopes, by simp [start], by simp [start]⟩
  have tracks : Tracks imports imports (fun _ => True) (Follows (ofProgram imports F)) :=
    tracks_follows _
  have joined : ofProgram imports (F ++ G) = (exprs imports G).after (ofProgram imports F) :=
    exprs_append F G start
  rw [joined]
  exact tracks.ofProgram G (fun _ _ => trivial) begun

end

end Resolution

end FoxScript
