import FoxScript.Proofs.Scope.Context
import Mathlib.Data.List.Infix

/-!
# What resolution finds out

Resolution walks through a program and keeps scopes on the way. Here its walk is compared with the
contexts of places: at each place the scopes that it keeps are those of the context, a use gets the
number of scopes up to the first that binds its name, and no fault is reported just if each place
is sound by itself.

## Main definitions

* `Expr.IsSound`: what resolution asks of an expression in its context.
* `Accepted`, `Located`: all places inside an expression are sound; all uses inside it are known.
* `Walk`: what a step of resolution does, told by the places that it passes.

## Main statements

* `walk_expr`: resolving an expression passes the places inside it.
* `Resolution.faults_ofProgram`: a program has no faults just if all its places are sound.
* `Resolution.hops_ofProgram`: what is kept for the uses of a program without faults.
-/
namespace FoxScript

/-! ### Sound places -/

namespace Context

/-- Whether a name can be declared in the innermost scope: it is not bound there yet. Global names
can be declared again. -/
def IsFree (name : String) : Context → Prop
  | [] => True
  | c :: _ => c.scope.lookup name = none

/-- Whether a name of the innermost scope is about to get its first value. -/
def Awaits (name : String) : Context → Prop
  | [] => False
  | c :: _ => c.scope.lookup name = some false

end Context

/-- What resolution asks of an expression itself: names are declared once in a scope, parameters
differ, an expression that gives a name its first value does not read it, and imports are sound. -/
def Expr.IsSound (imports : Token → List Diagnostic) (Γ : Context) : Expr → Prop
  | .variable _ name => ¬Γ.Awaits name.lexeme
  | .function name params _ =>
    (∀ n ∈ name, Γ.IsFree n.lexeme) ∧ (params.map Token.lexeme).Nodup
  | .import path => imports path = []
  | .declare name | .declareAs name _ => Γ.IsFree name.lexeme
  | _ => True

/-- All places inside an expression are sound. -/
def Accepted (imports : Token → List Diagnostic) (Γ : Context) (e : Expr) : Prop :=
  ∀ Δ d, Inside Γ e Δ d → d.IsSound imports Δ

/-- For all uses inside an expression the number of scopes up to the first that binds the name is
known, if there is one. -/
def Located (hops : HopTable) (Γ : Context) (e : Expr) : Prop :=
  ∀ Δ d, Inside Γ e Δ d → ∀ u ∈ d.use? Δ,
    hops[u.2.id]? = Resolution.hopsTo? u.2.name.lexeme u.1.scopes

theorem accepted_iff {imports : Token → List Diagnostic} {Γ : Context} {e : Expr} :
    Accepted imports Γ e ↔ e.IsSound imports Γ ∧ ∀ p ∈ e.parts Γ, Accepted imports p.1 p.2 :=
  Inside.forall_iff

theorem located_iff {hops : HopTable} {Γ : Context} {e : Expr} :
    Located hops Γ e ↔
      (∀ u ∈ e.use? Γ, hops[u.2.id]? = Resolution.hopsTo? u.2.name.lexeme u.1.scopes) ∧
        ∀ p ∈ e.parts Γ, Located hops p.1 p.2 :=
  Inside.forall_iff

theorem Located.congr {hops hops' : HopTable} {Γ : Context} {e : Expr} (h : Located hops Γ e)
    (same : ∀ id ∈ e.ids, hops'[id]? = hops[id]?) : Located hops' Γ e := by
  intro Δ d hd u hu
  rw [same _ (hd.ids_subset (Expr.id_mem_ids hu))]
  exact h Δ d hd u hu

/-! ### Binders -/

theorem Resolution.hopsTo?_cons (name : String) (scope : Scope) (scopes : List Scope) :
    Resolution.hopsTo? name (scope :: scopes) =
      if (scope.lookup name).isSome then some 0
      else (Resolution.hopsTo? name scopes).map (· + 1) := by
  simp [Resolution.hopsTo?, List.findIdx?_cons]

/-- The innermost scope that binds a name, so many scopes outward. -/
def Context.Binder (Γ : Context) (name : String) (h : Nat) (c : Enclosure) : Prop :=
  Γ[h]? = some c ∧ (c.scope.lookup name).isSome ∧
    ∀ k < h, ∀ c', Γ[k]? = some c' → c'.scope.lookup name = none

theorem Context.hopsTo?_eq_some {Γ : Context} {name : String} {h : Nat}
    (found : Resolution.hopsTo? name Γ.scopes = some h) : ∃ c, Γ.Binder name h c := by
  rw [Resolution.hopsTo?, Context.scopes, List.findIdx?_map,
    List.findIdx?_eq_some_iff_getElem] at found
  obtain ⟨lt, binds, before⟩ := found
  refine ⟨Γ[h], List.getElem?_eq_getElem lt, binds, fun k hk c hc => ?_⟩
  have unbound := before k hk
  obtain ⟨_, rfl⟩ := List.getElem?_eq_some_iff.1 hc
  exact Option.not_isSome_iff_eq_none.1 unbound

namespace Resolution

/-- The state after a step. -/
def Step.after (step : Step Unit) (r : Resolution) : Resolution := (step.run r).2

@[simp] theorem Step.after_pure (r : Resolution) : Step.after (pure ()) r = r := rfl

@[simp] theorem Step.after_bind (a b : Step Unit) (r : Resolution) :
    Step.after (a >>= fun _ => b) r = b.after (a.after r) := rfl

@[simp] theorem after_modify (f : Resolution → Resolution) (r : Resolution) :
    Step.after (modify f) r = f r := rfl

@[simp] theorem after_reportAt (t : Token) (f : ScopeFault) (r : Resolution) :
    Step.after (reportAt t f) r = { r with faults := r.faults ++ [.scoping t.location f] } := rfl

theorem after_bindName (name : String) (ready : Bool) (r : Resolution) :
    Step.after (bindName name ready) r =
      match r.scopes with
      | scope :: outer => { r with scopes := ((name, ready) :: scope) :: outer }
      | [] => r := rfl

/-- Faults are added at the end. -/
theorem after_reports (ds : List Diagnostic) (r : Resolution) :
    Step.after (for d in ds do report d) r = { r with faults := r.faults ++ ds } := by
  induction ds generalizing r with
  | nil => simp
  | cons d ds ih =>
    rw [List.forIn_cons]
    exact (ih _).trans (by simp)

theorem after_inScope (initial : Scope) (a : Step Unit) (r : Resolution) :
    (inScope initial a).after r =
      { a.after { r with scopes := initial :: r.scopes } with
        scopes := (a.after { r with scopes := initial :: r.scopes }).scopes.drop 1 } := rfl

@[simp] theorem after_get (k : Resolution → Step Unit) (r : Resolution) :
    Step.after (get >>= k) r = (k r).after r := rfl

end Resolution

namespace Context

variable {Γ : Context} {r : Resolution}

/-! ### Steps at a context -/

open Resolution

theorem after_bindName (h : r.scopes = Γ.scopes) (name : String) (ready : Bool) :
    (bindName name ready).after r = { r with scopes := (Γ.bind [(name, ready)]).scopes } := by
  rw [bindName, after_modify, h]
  cases Γ with
  | nil => cases r; cases h; rfl
  | cons c Γ => rfl

theorem after_declare_of_isFree (h : r.scopes = Γ.scopes) {name : Token}
    (free : Γ.IsFree name.lexeme) :
    (declare name).after r = { r with scopes := (Γ.bind [(name.lexeme, false)]).scopes } := by
  rw [declare, after_get, ← after_bindName h, h]
  cases Γ with
  | nil => cases r; cases h; rfl
  | cons c Γ =>
    have free : c.scope.lookup name.lexeme = none := free
    simp [free]

theorem after_declare_of_not_isFree (h : r.scopes = Γ.scopes) {name : Token}
    (free : ¬Γ.IsFree name.lexeme) :
    (declare name).after r =
      { r with faults := r.faults ++ [.scoping name.location (.alreadyDeclared name.lexeme)] } := by
  rw [declare, after_get, h]
  cases Γ with
  | nil => exact absurd trivial free
  | cons c Γ =>
    have bound : (c.scope.lookup name.lexeme).isSome := Option.isSome_iff_ne_none.2 free
    simpa [bound] using h

theorem after_use_of_not_awaits (h : r.scopes = Γ.scopes) (id : NodeId) {name : Token}
    (ready : ¬Γ.Awaits name.lexeme) : (use id name).after r = (locate id name).after r := by
  rw [use, after_get, h]
  cases Γ with
  | nil => rfl
  | cons c Γ =>
    have ready : ¬c.scope.lookup name.lexeme = some false := ready
    simp [ready]

theorem after_use_of_awaits (h : r.scopes = Γ.scopes) (id : NodeId) {name : Token}
    (awaits : Γ.Awaits name.lexeme) :
    (use id name).after r =
      { r with faults := r.faults ++ [.scoping name.location (.ownInitializer name.lexeme)] } := by
  rw [use, after_get, h]
  cases Γ with
  | nil => exact awaits.elim
  | cons c Γ =>
    have awaits : c.scope.lookup name.lexeme = some false := awaits
    simpa [awaits] using h

end Context

/-! ### Walks -/

/-- The numbers of some uses. -/
def useIds (us : List (Context × Use)) : List NodeId := us.map fun u => u.2.id

/-- The numbers of the uses in expressions. -/
def partIds (ps : List (Context × Expr)) : List NodeId := ps.flatMap fun p => p.2.ids

/-- What a step of resolution does that leads from one context to another: it asks that `ok` holds
and that the places inside `ps` are sound, and finds out about the uses `us` and those in `ps`. -/
structure Walk (imports : Token → List Diagnostic) (step : Resolution.Step Unit) (Γ Γ' : Context)
    (ok : Prop) (us : List (Context × Use)) (ps : List (Context × Expr)) : Prop where
  /-- Faults are only added. -/
  grows : ∀ r, r.faults <+: (step.after r).faults
  /-- No fault is added just if everything is sound. -/
  sound : ∀ r, r.scopes = Γ.scopes →
    ((step.after r).faults = r.faults ↔ ok ∧ ∀ p ∈ ps, Accepted imports p.1 p.2)
  /-- Then the scopes are those of the second context. -/
  scopes : ∀ r, r.scopes = Γ.scopes → (step.after r).faults = r.faults →
    (step.after r).scopes = Γ'.scopes
  /-- What is known about other uses stays. -/
  keeps : ∀ r, r.scopes = Γ.scopes → (step.after r).faults = r.faults →
    ∀ id, id ∉ useIds us → id ∉ partIds ps → (step.after r).hops[id]? = r.hops[id]?
  /-- Where the uses are numbered apart, all that is to be known about them is known. -/
  finds : ∀ r, r.scopes = Γ.scopes → (step.after r).faults = r.faults →
    (useIds us ++ partIds ps).Nodup → (∀ id ∈ useIds us ++ partIds ps, r.hops[id]? = none) →
    (∀ u ∈ us, (step.after r).hops[u.2.id]? =
      Resolution.hopsTo? u.2.name.lexeme u.1.scopes) ∧
    ∀ p ∈ ps, Located (step.after r).hops p.1 p.2

namespace Walk

variable {imports : Token → List Diagnostic} {a b : Resolution.Step Unit} {Γ Γ' Γ'' : Context}
  {ok ok' : Prop} {us us' : List (Context × Use)} {ps ps' : List (Context × Expr)}

theorem nil : Walk imports (pure ()) Γ Γ True [] [] where
  grows r := List.prefix_refl _
  sound r _ := by simp
  scopes r h _ := h
  keeps r _ _ id _ _ := rfl
  finds r _ _ _ _ := by simp

/-- A step after another that grows no faults has no faults before it. -/
theorem faults_split (ha : Walk imports a Γ Γ' ok us ps) (hb : Walk imports b Γ' Γ'' ok' us' ps')
    {r : Resolution} (h : (b.after (a.after r)).faults = r.faults) :
    (a.after r).faults = r.faults ∧ (b.after (a.after r)).faults = (a.after r).faults := by
  have first := ha.grows r
  have second := hb.grows (a.after r)
  rw [h] at second
  have same := (first.eq_of_length_le second.length_le).symm
  exact ⟨same, h.trans same.symm⟩

theorem append (ha : Walk imports a Γ Γ' ok us ps) (hb : Walk imports b Γ' Γ'' ok' us' ps') :
    Walk imports (a >>= fun _ => b) Γ Γ'' (ok ∧ ok') (us ++ us') (ps ++ ps') where
  grows r := (ha.grows r).trans (hb.grows _)
  sound r h := by
    simp only [Resolution.Step.after_bind, List.forall_mem_append]
    constructor
    · intro same
      obtain ⟨hsa, hsb⟩ := ha.faults_split hb same
      have := (ha.sound r h).1 hsa
      have := (hb.sound _ (ha.scopes r h hsa)).1 hsb
      tauto
    · rintro ⟨⟨hok, hok'⟩, hps, hps'⟩
      have hsa := (ha.sound r h).2 ⟨hok, hps⟩
      rw [(hb.sound _ (ha.scopes r h hsa)).2 ⟨hok', hps'⟩, hsa]
  scopes r h same := by
    obtain ⟨hsa, hsb⟩ := ha.faults_split hb same
    exact hb.scopes _ (ha.scopes r h hsa) hsb
  keeps r h same id hus hps := by
    obtain ⟨hsa, hsb⟩ := ha.faults_split hb same
    simp only [useIds, partIds, List.map_append, List.flatMap_append, List.mem_append, not_or]
      at hus hps
    exact (hb.keeps _ (ha.scopes r h hsa) hsb id hus.2 hps.2).trans
      (ha.keeps r h hsa id hus.1 hps.1)
  finds r h same nodup fresh := by
    obtain ⟨hsa, hsb⟩ := ha.faults_split hb same
    have hscopes := ha.scopes r h hsa
    have perm : (useIds (us ++ us') ++ partIds (ps ++ ps')).Perm
        ((useIds us ++ partIds ps) ++ (useIds us' ++ partIds ps')) := by
      simp only [useIds, partIds, List.map_append, List.flatMap_append]
      simp only [List.append_assoc]
      refine List.Perm.append_left _ ?_
      rw [← List.append_assoc, ← List.append_assoc]
      exact List.Perm.append_right _ List.perm_append_comm
    obtain ⟨nodupA, nodupB, disjoint⟩ := List.nodup_append.1 (perm.nodup_iff.1 nodup)
    have fresh' : ∀ id ∈ (useIds us ++ partIds ps) ++ (useIds us' ++ partIds ps'),
        r.hops[id]? = none := fun id hid => fresh id (perm.mem_iff.2 hid)
    obtain ⟨usA, psA⟩ := ha.finds r h hsa nodupA fun id hid =>
      fresh' id (List.mem_append_left _ hid)
    have freshB : ∀ id ∈ useIds us' ++ partIds ps', (a.after r).hops[id]? = none := by
      intro id hid
      have apart : id ∉ useIds us ++ partIds ps := fun hid' => disjoint id hid' id hid rfl
      rw [ha.keeps r h hsa id (fun h => apart (List.mem_append_left _ h))
        (fun h => apart (List.mem_append_right _ h))]
      exact fresh' id (List.mem_append_right _ hid)
    obtain ⟨usB, psB⟩ := hb.finds _ hscopes hsb nodupB freshB
    -- what the first step found out is not touched by the second
    have stays : ∀ id ∈ useIds us ++ partIds ps,
        (b.after (a.after r)).hops[id]? = (a.after r).hops[id]? := by
      intro id hid
      have apart : id ∉ useIds us' ++ partIds ps' := fun hid' => disjoint id hid id hid' rfl
      exact hb.keeps _ hscopes hsb id (fun h => apart (List.mem_append_left _ h))
        (fun h => apart (List.mem_append_right _ h))
    constructor
    · intro u hu
      obtain hu | hu := List.mem_append.1 hu
      · rw [← usA u hu]
        exact stays _ (List.mem_append_left _ (List.mem_map_of_mem hu))
      · exact usB u hu
    · intro p hp
      obtain hp | hp := List.mem_append.1 hp
      · refine (psA p hp).congr fun id hid => stays _ (List.mem_append_right _ ?_)
        exact List.mem_flatMap.2 ⟨p, hp, hid⟩
      · exact psB p hp

/-- A walk through the parts of an expression, with what is asked of the expression itself, is a
walk through the expression. -/
theorem node {e : Expr}
    (h : Walk imports a Γ Γ' (e.IsSound imports Γ) (e.use? Γ).toList (e.parts Γ)) :
    Walk imports a Γ Γ' True [] [(Γ, e)] where
  grows := h.grows
  sound r hr := by
    rw [h.sound r hr]
    simp [accepted_iff (e := e)]
  scopes := h.scopes
  keeps r hr same id _ hps := by
    have hid : id ∉ useIds (e.use? Γ).toList ++ partIds (e.parts Γ) := by
      have hps : id ∉ e.ids := by simpa [partIds] using hps
      rw [Expr.ids_eq Γ e] at hps
      simpa [useIds, partIds] using hps
    exact h.keeps r hr same id (fun h => hid (List.mem_append_left _ h))
      (fun h => hid (List.mem_append_right _ h))
  finds r hr same nodup fresh := by
    have ids : useIds [] ++ partIds [(Γ, e)] = useIds (e.use? Γ).toList ++ partIds (e.parts Γ) := by
      simp only [useIds, partIds, List.map_nil, List.nil_append, List.flatMap_cons,
        List.flatMap_nil, List.append_nil]
      rw [Expr.ids_eq Γ e]
      cases e.use? Γ <;> rfl
    rw [ids] at nodup fresh
    obtain ⟨hus, hps⟩ := h.finds r hr same nodup fresh
    refine ⟨by simp, fun p hp => ?_⟩
    obtain rfl := List.mem_singleton.1 hp
    exact located_iff.2 ⟨fun u hu => hus u (by simpa using hu), hps⟩

/-! ### Steps of their own -/

open Resolution

/-- A step that changes nothing but the scopes. -/
theorem ofScopes (h : ∀ r : Resolution, r.scopes = Γ.scopes →
      a.after r = { r with scopes := Γ'.scopes })
    (grows : ∀ r : Resolution, r.faults <+: (a.after r).faults) :
    Walk imports a Γ Γ' True [] [] where
  grows := grows
  sound r hr := by simp [h r hr]
  scopes r hr _ := by rw [h r hr]
  keeps r hr _ id _ _ := by rw [h r hr]
  finds r hr _ _ _ := by simp

/-- A step that reports a fault or changes nothing but the scopes. -/
theorem ofCheck {d : Diagnostic}
    (h : ∀ r : Resolution, r.scopes = Γ.scopes → ok → a.after r = { r with scopes := Γ'.scopes })
    (fails : ∀ r : Resolution, r.scopes = Γ.scopes → ¬ok →
      a.after r = { r with faults := r.faults ++ [d] })
    (grows : ∀ r : Resolution, r.faults <+: (a.after r).faults) :
    Walk imports a Γ Γ' ok [] [] := by
  have holds (r : Resolution) (hr : r.scopes = Γ.scopes) (same : (a.after r).faults = r.faults) :
      ok := by
    by_contra hok
    rw [fails r hr hok] at same
    simp at same
  refine ⟨grows, fun r hr => ?_, fun r hr same => ?_, fun r hr same id _ _ => ?_, ?_⟩
  · refine ⟨fun same => ⟨holds r hr same, by simp⟩, fun ⟨hok, _⟩ => ?_⟩
    rw [h r hr hok]
  · rw [h r hr (holds r hr same)]
  · rw [h r hr (holds r hr same)]
  · intro r hr same _ _
    simp

theorem bindName (name : String) (ready : Bool) :
    Walk imports (Resolution.bindName name ready) Γ (Γ.bind [(name, ready)]) True [] [] := by
  refine ofScopes (fun r hr => Context.after_bindName hr name ready) fun r => ?_
  rw [Resolution.bindName, after_modify]
  split <;> exact List.prefix_refl _

theorem declare (name : Token) :
    Walk imports (Resolution.declare name) Γ (Γ.bind [(name.lexeme, false)])
      (Γ.IsFree name.lexeme) [] [] := by
  refine ofCheck (fun r hr free => Context.after_declare_of_isFree hr free)
    (fun r hr free => Context.after_declare_of_not_isFree hr free) fun r => ?_
  rw [Resolution.declare, after_get]
  split
  · exact List.prefix_refl _
  · split
    · exact List.prefix_append _ _
    · have walk : Walk imports (Resolution.bindName name.lexeme false) [] [] True [] [] :=
        bindName name.lexeme false
      exact walk.grows r

theorem define (name : Token) :
    Walk imports (Resolution.define name) Γ (Γ.bind [(name.lexeme, true)]) True [] [] :=
  bindName _ _

theorem locate (isAssignment : Bool) (id : NodeId) (name : Token) :
    Walk imports (Resolution.locate id name) Γ Γ True [(Γ, ⟨isAssignment, id, name⟩)] [] := by
  have after (r : Resolution) (hr : r.scopes = Γ.scopes) :
      (Resolution.locate id name).after r =
        (hopsTo? name.lexeme Γ.scopes).elim r fun n => { r with hops := r.hops.insert id n } := by
    cases h : hopsTo? name.lexeme Γ.scopes <;>
      simp only [Resolution.locate, after_modify, hr, h, Option.elim_none, Option.elim_some]
  have grows (r : Resolution) : r.faults = ((Resolution.locate id name).after r).faults := by
    rw [Resolution.locate, after_modify]
    split <;> rfl
  refine ⟨fun r => grows r ▸ List.prefix_refl _, fun r _ => by simp [← grows r],
    fun r hr _ => ?_, fun r hr _ id' hid _ => ?_, fun r hr _ _ fresh => ⟨?_, by simp⟩⟩
  · rw [after r hr]
    cases hopsTo? name.lexeme Γ.scopes <;> exact hr
  · have apart : id ≠ id' := fun h => hid (by simp [useIds, h])
    rw [after r hr]
    cases hopsTo? name.lexeme Γ.scopes with
    | some n => simp [Std.HashMap.getElem?_insert, apart]
    | none => rfl
  · intro u hu
    obtain rfl := List.mem_singleton.1 hu
    rw [after r hr]
    cases found : hopsTo? name.lexeme Γ.scopes with
    | some n => simp
    | none => exact fresh id (by simp [useIds])

theorem use (id : NodeId) (name : Token) :
    Walk imports (Resolution.use id name) Γ Γ (¬Γ.Awaits name.lexeme)
      [(Γ, ⟨false, id, name⟩)] [] := by
  have located : Walk imports (Resolution.locate id name) Γ Γ True [(Γ, ⟨false, id, name⟩)] [] :=
    locate false id name
  have ready (r : Resolution) (hr : r.scopes = Γ.scopes)
      (same : ((Resolution.use id name).after r).faults = r.faults) :
      ¬Γ.Awaits name.lexeme := by
    intro awaits
    rw [Context.after_use_of_awaits hr id awaits] at same
    simp at same
  refine ⟨fun r => ?_, fun r hr => ⟨fun same => ⟨ready r hr same, by simp⟩, fun ⟨h, _⟩ => ?_⟩,
    fun r hr same => ?_, fun r hr same => ?_, fun r hr same => ?_⟩
  · rw [Resolution.use, after_get]
    split
    · split
      · exact List.prefix_append _ _
      · exact located.grows r
    · exact located.grows r
  · rw [Context.after_use_of_not_awaits hr id h]
    exact (located.sound r hr).2 (by simp)
  all_goals
    have after := Context.after_use_of_not_awaits hr id (ready r hr same)
    rw [after] at same ⊢
  · exact located.scopes r hr same
  · exact located.keeps r hr same
  · exact located.finds r hr same

/-- A walk in a scope of its own. -/
theorem inScope {origin : Origin} {names names' : Scope}
    (h : Walk imports a (Γ.enter origin names) (Γ.enter origin names') ok us ps) :
    Walk imports (Resolution.inScope names a) Γ Γ ok us ps := by
  have enter {r : Resolution} (hr : r.scopes = Γ.scopes) :
      ({ r with scopes := names :: r.scopes } : Resolution).scopes =
        (Γ.enter origin names).scopes := by simp [hr]
  refine ⟨fun r => h.grows { r with scopes := names :: r.scopes },
    fun r hr => h.sound _ (enter hr), fun r hr same => ?_,
    fun r hr same => h.keeps _ (enter hr) same, fun r hr same => h.finds _ (enter hr) same⟩
  rw [Resolution.after_inScope]
  simp [h.scopes _ (enter hr) same]

/-- Parameters are bound one after the other; those before are `seen`. -/
theorem parameters {origin : Origin} (seen : List String) (names : Scope) (params : List Token) :
    Walk imports (Resolution.parameters seen params) (Γ.enter origin names)
      (Γ.enter origin (parameterScope params ++ names))
      ((params.map Token.lexeme).Nodup ∧ ∀ p ∈ params, p.lexeme ∉ seen) [] [] := by
  induction params generalizing seen names with
  | nil => simpa [Resolution.parameters, parameterScope] using nil
  | cons p params ih =>
    have check : Walk imports
        (if seen.contains p.lexeme then reportAt p (.duplicateParameter p.lexeme) else pure ())
        (Γ.enter origin names) (Γ.enter origin names) (p.lexeme ∉ seen) [] [] := by
      by_cases hp : p.lexeme ∈ seen
      · simp only [List.contains_eq_mem, hp, decide_true, if_true]
        exact ofCheck (fun _ _ h => absurd trivial h) (fun _ _ _ => rfl)
          fun r => List.prefix_append _ _
      · simpa [hp] using nil
    have walk := (check.append (define p)).append (ih (p.lexeme :: seen) ((p.lexeme, true) :: names))
    have ok : ((p.lexeme ∉ seen ∧ True) ∧ (params.map Token.lexeme).Nodup ∧
        ∀ q ∈ params, q.lexeme ∉ p.lexeme :: seen) ↔
        (((p :: params).map Token.lexeme).Nodup ∧ ∀ q ∈ p :: params, q.lexeme ∉ seen) := by
      grind
    have scope : parameterScope params ++ (p.lexeme, true) :: names =
        parameterScope (p :: params) ++ names := by
      simp [parameterScope]
    rw [scope, propext ok] at walk
    have step : Resolution.parameters seen (p :: params) =
        (((if seen.contains p.lexeme then reportAt p (.duplicateParameter p.lexeme) else pure ())
          >>= fun _ => Resolution.define p) >>= fun _ =>
            Resolution.parameters (p.lexeme :: seen) params) := by
      funext r
      simp only [Resolution.parameters]
      split <;> rfl
    rw [step]
    exact walk

/-- The faults of an import are reported in turn. -/
theorem imported (path : Token) :
    Walk imports (for d in imports path do report d) Γ Γ (imports path = []) [] [] := by
  refine ⟨fun r => ?_, fun r _ => ?_, fun r hr _ => ?_, fun r _ _ id _ _ => ?_, fun r _ _ _ _ => ?_⟩
  · rw [after_reports]
    exact List.prefix_append _ _
  · rw [after_reports]
    simp
  · rw [after_reports]
    exact hr
  · rw [after_reports]
  · simp

end Walk

/-! ### The walk through an expression -/

section

variable {imports : Token → List Diagnostic}

theorem walk_exprs {es : List Expr}
    (ih : ∀ e ∈ es, ∀ Γ, Walk imports (Resolution.expr imports e) Γ (Γ.bind e.bound) True [] [(Γ, e)])
    (Γ : Context) :
    Walk imports (Resolution.exprs imports es) Γ (Γ.bind (Expr.boundBy es)) True []
      (Expr.inTurn Γ es) := by
  induction es generalizing Γ with
  | nil =>
    rw [Resolution.exprs, Expr.boundBy, Context.bind_nil_left]
    exact .nil
  | cons e es ihes =>
    have first := ih e List.mem_cons_self Γ
    have rest := ihes (fun e he => ih e (List.mem_cons_of_mem _ he)) (Γ.bind e.bound)
    rw [Context.bind_bind] at rest
    rw [Resolution.exprs, Expr.boundBy, Expr.inTurn]
    simpa using first.append rest

theorem walk_cases {cs : List Case}
    (ih : ∀ c ∈ cs, ∀ e, e = c.condition ∨ e = c.body → ∀ Γ,
      Walk imports (Resolution.expr imports e) Γ (Γ.bind e.bound) True [] [(Γ, e)])
    (Γ : Context) :
    Walk imports (Resolution.cases imports cs) Γ (Γ.bind (Case.boundBy cs)) True []
      (Case.inTurn Γ cs) := by
  induction cs generalizing Γ with
  | nil =>
    rw [Resolution.cases, Case.boundBy, Context.bind_nil_left]
    exact .nil
  | cons c cs ihcs =>
    obtain ⟨arrow, condition, body⟩ := c
    have first := ih _ List.mem_cons_self condition (.inl rfl) Γ
    have second := ih _ List.mem_cons_self body (.inr rfl) (Γ.bind condition.bound)
    have rest := ihcs (fun c hc => ih c (List.mem_cons_of_mem _ hc))
      ((Γ.bind condition.bound).bind body.bound)
    have whole := first.append (second.append rest)
    rw [Resolution.cases, Case.boundBy, Case.inTurn]
    simpa [Context.bind_bind] using whole

/-- Resolving an expression is a walk through it, which binds what the expression binds. -/
theorem walk_expr (e : Expr) (Γ : Context) :
    Walk imports (Resolution.expr imports e) Γ (Γ.bind e.bound) True [] [(Γ, e)] := by
  induction e using Expr.induction_parts generalizing Γ with
  | step e ih =>
  have declare (name : Token) (Δ : Context) : Walk imports (Resolution.declare name) Δ
      (Δ.bind [(name.lexeme, false)]) (Δ.IsFree name.lexeme) [] [] := .declare name
  have part {d : Expr} (h : ∃ Δ, (Δ, d) ∈ e.parts Γ) (Δ : Context) :
      Walk imports (Resolution.expr imports d) Δ (Δ.bind d.bound) True [] [(Δ, d)] :=
    h.elim fun _ hd => ih _ _ _ hd Δ
  refine Walk.node ?_
  cases e with
  | literal | «break» | anyPattern =>
    simpa [Resolution.expr, Expr.bound, Expr.IsSound, Expr.use?, Expr.parts] using Walk.nil
  | «variable» id name =>
    simpa [Resolution.expr, Expr.bound, Expr.IsSound, Expr.use?, Expr.parts] using
      Walk.use id name
  | array elements close =>
    have walk := walk_exprs (fun d hd => part (Expr.exists_mem_inTurn hd)) Γ
    simpa [Resolution.expr, Expr.bound, Expr.IsSound, Expr.use?, Expr.parts] using walk
  | assign id name value =>
    have walk := (part ⟨_, List.mem_cons_self⟩ Γ).append (.locate true id name)
    simpa [Resolution.expr, Expr.bound, Expr.IsSound, Expr.use?, Expr.parts] using walk
  | assignElement id name i value =>
    have first := part ⟨_, List.mem_cons_self⟩ Γ
    have second := part ⟨_, List.mem_cons_of_mem _ List.mem_cons_self⟩ (Γ.bind i.bound)
    have walk := first.append (second.append (.locate true id name))
    simpa [Resolution.expr, Expr.bound, Expr.IsSound, Expr.use?, Expr.parts, Context.bind_bind]
      using walk
  | binary left op right | logical left op right | orPattern left op right =>
    have first := part ⟨_, List.mem_cons_self⟩ Γ
    have second := part ⟨_, List.mem_cons_of_mem _ List.mem_cons_self⟩ (Γ.bind left.bound)
    simpa [Resolution.expr, Expr.bound, Expr.IsSound, Expr.use?, Expr.parts, Context.bind_bind]
      using first.append second
  | block members =>
    have walk := walk_exprs (fun d hd => part (Expr.exists_mem_inTurn hd))
      (Γ.enter (.block members) [])
    simpa [Resolution.expr, Expr.bound, Expr.IsSound, Expr.use?, Expr.parts] using walk.inScope
  | call callee args close =>
    have first := part ⟨_, List.mem_cons_self⟩ Γ
    have rest := walk_exprs (fun d hd => part
      ((Expr.exists_mem_inTurn hd).imp fun _ => List.mem_cons_of_mem _)) (Γ.bind callee.bound)
    simpa [Resolution.expr, Expr.bound, Expr.IsSound, Expr.use?, Expr.parts, Context.bind_bind]
      using first.append rest
  | function name params body =>
    have inside := part ⟨_, List.mem_cons_self⟩
      ((Γ.bind (nameScope name)).enter (.call params body) (parameterScope params))
    have bound : Walk imports (Resolution.parameters [] params)
        ((Γ.bind (nameScope name)).enter (.call params body) [])
        ((Γ.bind (nameScope name)).enter (.call params body) (parameterScope params ++ []))
        ((params.map Token.lexeme).Nodup ∧ ∀ p ∈ params, p.lexeme ∉ []) [] [] :=
      .parameters [] [] params
    have inner := (bound.append (by simpa using inside)).inScope
    cases name with
    | none =>
      simpa [Resolution.expr, Expr.bound, Expr.IsSound, Expr.use?, Expr.parts, nameScope]
        using inner
    | some name =>
      have walk := ((declare name Γ).append (.define name)).append
        (by simpa [Context.bind_bind, nameScope] using inner)
      simpa [Resolution.expr, Expr.bound, Expr.IsSound, Expr.use?, Expr.parts, nameScope,
        Context.bind_bind] using walk
  | group inner | unary op inner =>
    have walk := part ⟨_, List.mem_cons_self⟩ Γ
    simpa [Resolution.expr, Expr.bound, Expr.IsSound, Expr.use?, Expr.parts] using walk
  | «import» path =>
    simpa [Resolution.expr, Expr.bound, Expr.IsSound, Expr.use?, Expr.parts] using
      Walk.imported path
  | index target i close =>
    have first := part ⟨_, List.mem_cons_self⟩ Γ
    have second := part ⟨_, List.mem_cons_of_mem _ List.mem_cons_self⟩ (Γ.bind target.bound)
    simpa [Resolution.expr, Expr.bound, Expr.IsSound, Expr.use?, Expr.parts, Context.bind_bind]
      using first.append second
  | slice target lower upper close =>
    have first := part ⟨_, List.mem_cons_self⟩ Γ
    have second := part ⟨_, List.mem_cons_of_mem _ List.mem_cons_self⟩ (Γ.bind target.bound)
    have third := part ⟨_, List.mem_cons_of_mem _ (List.mem_cons_of_mem _ List.mem_cons_self)⟩
      ((Γ.bind target.bound).bind lower.bound)
    simpa [Resolution.expr, Expr.bound, Expr.IsSound, Expr.use?, Expr.parts, Context.bind_bind]
      using first.append (second.append third)
  | «match» keyword scrutinee cases =>
    have first := part ⟨_, List.mem_cons_self⟩ Γ
    have rest := walk_cases (fun c hc d hd => part
      ((Case.exists_mem_inTurn hc hd).imp fun _ => List.mem_cons_of_mem _))
      (Γ.bind scrutinee.bound)
    simpa [Resolution.expr, Expr.bound, Expr.IsSound, Expr.use?, Expr.parts, Context.bind_bind]
      using first.append rest
  | ternary condition yes no op =>
    have first := part ⟨_, List.mem_cons_self⟩ Γ
    have second := part ⟨_, List.mem_cons_of_mem _ List.mem_cons_self⟩ (Γ.bind condition.bound)
    have third := part ⟨_, List.mem_cons_of_mem _ (List.mem_cons_of_mem _ List.mem_cons_self)⟩
      ((Γ.bind condition.bound).bind yes.bound)
    simpa [Resolution.expr, Expr.bound, Expr.IsSound, Expr.use?, Expr.parts, Context.bind_bind]
      using first.append (second.append third)
  | declare name =>
    have walk := (declare name Γ).append (.define name)
    simpa [Resolution.expr, Expr.bound, Expr.IsSound, Expr.use?, Expr.parts, Context.bind_bind]
      using walk
  | declareAs name value =>
    have first := part ⟨_, List.mem_cons_self⟩ (Γ.bind [(name.lexeme, false)])
    have walk := ((declare name Γ).append first).append
      (.define name)
    simpa [Resolution.expr, Expr.bound, Expr.IsSound, Expr.use?, Expr.parts, Context.bind_bind]
      using walk
  | loop keyword body =>
    have walk := part ⟨_, List.mem_cons_self⟩ Γ
    simpa [Resolution.expr, Expr.bound, Expr.IsSound, Expr.use?, Expr.parts] using walk
  | loopWhile keyword condition body =>
    have first := part ⟨_, List.mem_cons_self⟩ Γ
    have second := part ⟨_, List.mem_cons_of_mem _ List.mem_cons_self⟩ (Γ.bind condition.bound)
    simpa [Resolution.expr, Expr.bound, Expr.IsSound, Expr.use?, Expr.parts, Context.bind_bind]
      using first.append second

end

/-! ### Programs -/

namespace Resolution

variable {imports : Token → List Diagnostic} {program : List Expr}

theorem walk_program (imports : Token → List Diagnostic) (program : List Expr) :
    Walk imports (exprs imports program) [] [] True [] (Expr.inTurn [] program) :=
  walk_exprs (fun e _ => walk_expr e) []

/-- A program has no faults just if all its places are sound. -/
theorem faults_ofProgram :
    (ofProgram imports program).faults = [] ↔
      ∀ Γ e, Site program Γ e → e.IsSound imports Γ := by
  refine ((walk_program imports program).sound start rfl).trans ?_
  simp only [true_and]
  exact ⟨fun h Γ e ⟨root, hr, inside⟩ => h root hr Γ e inside,
    fun h root hr Γ e inside => h Γ e ⟨root, hr, inside⟩⟩

/-- In a program without faults whose uses are numbered apart, each use gets the number of scopes up
to the first that binds its name, if there is one. -/
theorem hops_ofProgram (nodup : (Expr.idsOf program).Nodup)
    (sound : (ofProgram imports program).faults = []) {Γ Δ : Context} {e : Expr} {u : Use}
    (site : Site program Γ e) (hu : e.use? Γ = some (Δ, u)) :
    (ofProgram imports program).hops[u.id]? = hopsTo? u.name.lexeme Δ.scopes := by
  rw [Expr.idsOf_eq_flatMap []] at nodup
  obtain ⟨root, hr, inside⟩ := site
  have found := (walk_program imports program).finds start rfl sound
    (by simpa [useIds, partIds] using nodup) (by simp [start])
  exact found.2 root hr Γ e inside _ hu

end Resolution

end FoxScript
