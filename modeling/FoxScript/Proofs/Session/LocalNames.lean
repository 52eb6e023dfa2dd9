import FoxScript.Proofs.Scope.Declared
import FoxScript.Proofs.Session.Assurance
import FoxScript.Proofs.Session.Declarations

/-!
# Local names and their declarations

A frame that a block or a call opened gets its names from the declarations of its scope only: from
parameters, and from declarations that stand directly in the block or in the body of the function.
As these have different names in an accepted program, a name has one declaration. It may be
evaluated again and again in a loop, but no other declaration or parameter gives the name of the
frame a value.

## Main definitions

* `Session.Declares`: a declaration that gives a certain name of a certain frame its value.
* `Session.DeclaredOnce`: what the frames of a session have their names from.
* `Discipline.declaring`: all frames have their names from the declarations of their scopes.

## Main statements

* `Discipline.declaring_lawful`: they do so in every step.
* `Session.Reachable.declared_once`: each name of a local frame has one declaration, and nothing but
  this and assignments to the name changes its value.
-/
namespace FoxScript

theorem Expr.declaration_of_binding {e : Expr} {x : Token} (h : x ∈ e.binding?) :
    ⟨x, some e⟩ ∈ e.declarations := by
  cases e with
  | function name params body =>
    obtain rfl : name = some x := h
    exact List.mem_singleton_self _
  | declare name =>
    obtain rfl : name = x := Option.some.inj h
    exact List.mem_singleton_self _
  | declareAs name value =>
    obtain rfl : name = x := Option.some.inj h
    exact List.mem_append_right _ (List.mem_singleton_self _)
  | _ => cases h

namespace Session

/-- The expression binds a name, and evaluated in the session it gives the name `x` of the frame `f`
a value. Unless `f` is the frame of global names, the expression is the only declaration of the name
in the scope for which the frame was opened. -/
structure Declares (s : Session) (f : FrameId) (x : String) (e : Expr) : Prop where
  /-- The frame is that of the session. -/
  frame : s.frame = f
  /-- The name is bound. -/
  binds : ∃ y ∈ e.binding?, y.lexeme = x ∧ (f ≠ Store.root →
    ∃ o, s.store.origin? f = some o ∧ o.declaring x = [⟨y, some e⟩])

/-- All frames but that of global names have their names from the scopes for which they were opened,
and each name has a single declaration there. -/
structure DeclaredOnce (s : Session) : Prop where
  /-- A name is declared in the scope. -/
  declared {f : FrameId} {x : String} : f ≠ Store.root → (s.store.lookup? f x).isSome →
    ∃ o, s.store.origin? f = some o ∧ x ∈ o.names
  /-- A declaration of a scope is the only one of its name. -/
  single {f : FrameId} {o : Origin} : s.store.origin? f = some o →
    ∀ d ∈ o.declarations, o.declaring d.lexeme = [d]

end Session

/-- What a name of a frame is bound to, if it is bound. -/
structure Holding where
  /-- The frame. -/
  frame : FrameId
  /-- The name. -/
  name : String
  /-- The value. -/
  value : Option Value

namespace Discipline

/-- The programs that were accepted have no faults, and frames have their names from the
declarations of the scopes for which they were opened. What is held by the name of a frame, if this
is asked for, stays as it is. -/
structure DeclaringSound (held : Option Holding) (s : Session) : Prop where
  /-- The scopes of a program have no faults. -/
  checked : ∀ q ∈ s.programs, ∃ files policy, (resolve files policy q.1 q.2).faults = []
  /-- The declarations of a scope have different names. -/
  nodup {f : FrameId} {o : Origin} : s.store.origin? f = some o → o.names.Nodup
  /-- A name is declared in the scope. -/
  declared {f : FrameId} {x : String} : f ≠ Store.root → (s.store.lookup? f x).isSome →
    ∃ o, s.store.origin? f = some o ∧ x ∈ o.names
  /-- The frame has its name. -/
  kept : ∀ p ∈ held, s.store.HasFrame p.frame ∧ s.store.lookup? p.frame p.name = p.value

/-- What is evaluated stands in accepted programs, and what it declares belongs to the scope of its
frame. What is held by the name of a frame is not changed where neither an assignment nor a
declaration that gives the name a value is met. -/
def declaring (held : Option Holding) : Discipline where
  sound := DeclaringSound held
  closure s c := ∃ name, s.Includes (.function name c.params c.body)
  ready s e := s.Includes e ∧ (s.frame = Store.root ∨
    ∃ o, s.store.origin? s.frame = some o ∧ e.declarations ⊆ o.declarations)
  watch s e := ∀ p ∈ held, ¬(s.Targets p.frame p.name e ∨ s.Declares p.frame p.name e)
  raises _ _ := True

variable {held : Option Holding} {s t : Session}

namespace DeclaringSound

/-- Soundness is kept where no frame is opened, names that are new in a frame belong to its scope,
and what is to stay does so. -/
theorem of_sameTree (h : DeclaringSound held s)
    (checked : ∀ q ∈ t.programs, ∃ files policy, (resolve files policy q.1 q.2).faults = [])
    (tree : s.store.SameTree t.store)
    (declared : ∀ f x, f ≠ Store.root → (t.store.lookup? f x).isSome →
      (s.store.lookup? f x).isSome ∨ ∃ o, s.store.origin? f = some o ∧ x ∈ o.names)
    (kept : ∀ p ∈ held, t.store.lookup? p.frame p.name = s.store.lookup? p.frame p.name) :
    DeclaringSound held t := by
  refine ⟨checked, fun opened => h.nodup (tree.origin _ ▸ opened), fun inner bound => ?_,
    fun p hp => ⟨tree.extends.hasFrame (h.kept p hp).1, (kept p hp).trans (h.kept p hp).2⟩⟩
  rw [tree.origin]
  exact (declared _ _ inner bound).elim (h.declared inner) id

theorem congr (h : DeclaringSound held s)
    (checked : ∀ q ∈ t.programs, ∃ files policy, (resolve files policy q.1 q.2).faults = [])
    (frames : t.store.frames = s.store.frames) : DeclaringSound held t := by
  have same := Store.lookup?_of_frames_eq frames
  exact h.of_sameTree checked (Store.sameTree_of_frames_eq frames)
    (fun f x _ bound => .inl (same f x ▸ bound)) fun p _ => same _ _

/-- A name that belongs to the scope of the frame is bound. -/
theorem define (h : DeclaringSound held s) {x : String} (v : Value)
    (own : s.frame = Store.root ∨ ∃ o, s.store.origin? s.frame = some o ∧ x ∈ o.names)
    (other : ∀ p ∈ held, ¬(p.frame = s.frame ∧ p.name = x)) :
    DeclaringSound held (s.define x v) := by
  refine h.of_sameTree h.checked (Store.sameTree_define _ _ _ _) (fun f y inner bound => ?_)
    fun p hp => Store.lookup?_define_of_ne v (other p hp)
  obtain ⟨w, found⟩ := Option.isSome_iff_exists.1 bound
  obtain old | ⟨rfl, rfl, -⟩ := Store.lookup?_define_eq_some found
  · exact .inl (Option.isSome_of_eq_some old)
  · exact .inr (own.resolve_left inner)

/-- A name that is bound gets a new value. -/
theorem replace (h : DeclaringSound held s) {f : FrameId} {x : String} (v : Value)
    (other : ∀ p ∈ held, ¬(p.frame = f ∧ p.name = x)) : DeclaringSound held (s.replace f x v) := by
  refine h.of_sameTree h.checked (Store.sameTree_replace _ _ _ _) (fun g y _ bound => .inl ?_)
    fun p hp => ?_
  · rw [Session.replace, Store.lookup?_replace] at bound
    split at bound
    · rename_i same
      obtain ⟨rfl, rfl, held⟩ := same
      exact held
    · exact bound
  · rw [Session.replace, Store.lookup?_replace, if_neg fun same => other p hp ⟨same.1, same.2.1⟩]

/-- The declarations of a scope for which a frame can be opened have different names. -/
theorem nodup_of_opens (h : DeclaringSound held s) {f : FrameId} {origin : Origin}
    (opens : (declaring held).Opens s f origin) : origin.names.Nodup := by
  cases origin with
  | root => exact opens.elim
  | block es =>
    obtain ⟨⟨q, hq, Γ, site⟩, -⟩ := opens
    obtain ⟨files, policy, faultless⟩ := h.checked q hq
    exact site.nodup_block faultless
  | call params body =>
    obtain ⟨name, q, hq, Γ, site⟩ := opens
    obtain ⟨files, policy, faultless⟩ := h.checked q hq
    exact site.nodup_call faultless

theorem enter (h : DeclaringSound held s) {f : FrameId} {origin : Origin}
    (opens : (declaring held).Opens s f origin) : DeclaringSound held (s.enter origin f) := by
  have ext := s.store.extends_branch origin f
  refine ⟨h.checked, fun opened => ?_, fun inner bound => ?_,
    fun p hp => ⟨ext.hasFrame (h.kept p hp).1, ?_⟩⟩
  · obtain old | rfl := Store.origin?_branch_eq_some opened
    · exact h.nodup old
    · exact h.nodup_of_opens opens
  · rw [Session.enter, Store.lookup?_branch] at bound
    obtain ⟨o, opened, mem⟩ := h.declared inner bound
    exact ⟨o, (ext.origin _ (Store.hasFrame_of_origin? opened)).trans opened, mem⟩
  · exact (s.store.lookup?_branch origin f _ _).trans (h.kept p hp).2

end DeclaringSound

/-- Where an expression that is ready binds a name, it is the only declaration of this name in the
scope of its frame. -/
theorem declares_of_ready {e : Expr} (ready : (declaring held).ready s e) (advances : s.Advances t)
    (h : DeclaringSound held t) {x : Token} (hx : x ∈ e.binding?) :
    s.Declares s.frame x.lexeme e := by
  refine ⟨rfl, x, hx, rfl, fun inner => ?_⟩
  obtain ⟨o, opened, own⟩ := ready.2.resolve_left inner
  have later := (advances.store.origin _ (Store.hasFrame_of_origin? opened)).trans opened
  have mem := own (Expr.declaration_of_binding hx)
  exact ⟨o, opened, Origin.declaring_eq_singleton (h.nodup later) mem⟩

theorem declaring_ready_mono {e : Expr} (h : (declaring held).ready s e) (advances : s.Advances t)
    (frame : t.frame = s.frame) : (declaring held).ready t e := by
  refine ⟨h.1.mono advances, ?_⟩
  rw [frame]
  refine h.2.imp id fun ⟨o, opened, own⟩ => ⟨o, ?_, own⟩
  exact (advances.store.origin _ (Store.hasFrame_of_origin? opened)).trans opened

theorem declaring_define {e : Expr} {x : Token} (v : Value) (ready : (declaring held).ready s e)
    (watch : (declaring held).watch s e) (hx : x ∈ e.binding?) (advances : s.Advances t)
    (frame : t.frame = s.frame) (h : DeclaringSound held t) :
    DeclaringSound held (t.define x.lexeme v) := by
  refine h.define v ?_ fun p hp same => ?_
  · refine (declaring_ready_mono ready advances frame).2.imp id fun ⟨o, opened, own⟩ => ?_
    exact ⟨o, opened, List.mem_map.2 ⟨_, own (Expr.declaration_of_binding hx), rfl⟩⟩
  · obtain ⟨here, name⟩ := same
    refine watch p hp (.inr ?_)
    rw [here, name, frame]
    exact declares_of_ready ready advances h hx

/-- Parameters are bound in frames that were not there before. -/
theorem declaring_params {c : Closure} {x : Token} (v : Value) (old : DeclaringSound held s)
    (hx : x ∈ c.params) (advances : (s.enter (.call c.params c.body) c.frame).Advances t)
    (frame : t.frame = (s.enter (.call c.params c.body) c.frame).frame)
    (h : DeclaringSound held t) : DeclaringSound held (t.define x.lexeme v) := by
  refine h.define v (.inr ⟨_, advances.origin_enter frame, ?_⟩) fun p hp same => ?_
  · have mem : (⟨x, none⟩ : Declaration) ∈ (Origin.call c.params c.body).declarations :=
      List.mem_append_left _ (List.mem_map_of_mem hx)
    exact List.mem_map_of_mem mem
  · exact Session.frame_enter_ne (old.kept p hp).1 _ _ (frame.symm.trans same.1.symm)

/-- In a frame that was opened for a scope, what is evaluated declares names of this scope. -/
theorem ready_of_enter {origin : Origin} {f : FrameId} {e : Expr} (includes : s.Includes e)
    (advances : (s.enter origin f).Advances t) (frame : t.frame = (s.enter origin f).frame)
    (own : e.declarations ⊆ origin.declarations) : (declaring held).ready t e :=
  ⟨includes.mono ((s.advances_enter origin f).trans advances),
    .inr ⟨origin, advances.origin_enter frame, own⟩⟩

theorem declaring_lawful : (declaring held).Lawful where
  closure_mono := by
    rintro s t c ⟨name, includes⟩ advances
    exact ⟨name, includes.mono advances⟩
  ready_mono := declaring_ready_mono
  raises_mono _ _ := trivial
  sound_back _ _ h same _ := h.congr (same.programs ▸ h.checked) same.frames
  define := declaring_define
  params v old _ hx advances frame h := declaring_params v old hx advances frame h
  assign watch value owner h := h.replace _ fun p hp same =>
    watch p hp (.inl (.assign value (same.1 ▸ owner) same.2.symm))
  enter h opens := h.enter opens
  nests _ _ _ h u same _ := h.congr (same.programs ▸ h.checked) same.frames
  compile {s t source program} h compiled := by
    obtain ⟨n, -, -, faultless, rfl⟩ := Session.compile_ok compiled
    exact h.congr (List.forall_mem_cons.2 ⟨⟨_, _, faultless⟩, h.checked⟩) rfl
  programs _ root hq he := ⟨.of_mem hq he, .inl root⟩
  parts h hp _ := ⟨h.1.part hp, h.2.imp id fun ⟨o, opened, own⟩ =>
    ⟨o, opened, List.Subset.trans (Expr.declarations_of_schedule hp) own⟩⟩
  members h advances frame hp _ := by
    have mem := Expr.mem_of_inOrder hp
    exact ready_of_enter (h.1.member mem) advances frame (Expr.declarations_of_mem mem)
  makes h advances _ _ := ⟨_, h.1.mono advances⟩
  calls := by
    rintro s t c ⟨name, includes⟩ advances frame -
    exact ready_of_enter includes.body advances frame (List.subset_append_right _ _)
  raises_runtime _ _ _ _ := trivial
  raises_static _ _ _ := trivial
  raises_stray _ _ _ _ _ := trivial
  raises_slip _ _ := trivial

/-- In all sessions that can be reached, frames have their names from the scopes for which they were
opened. -/
theorem tidy_declaring (h : s.Reachable) : (declaring none).Tidy s := by
  refine declaring_lawful.tidy_of_reachable (fun _ _ _ => nofun) ?_ h
  intro files base policy input now
  refine ⟨nofun, fun opened => ?_, fun inner bound => ?_, nofun⟩
  · have root := Store.origin?_empty ((Store.empty.sameTree_addBuiltins.origin _).symm.trans opened)
    rw [root]
    exact List.nodup_nil
  · obtain ⟨v, found⟩ := Option.isSome_iff_exists.1 bound
    obtain old | ⟨-, -, -, root, -⟩ := Store.lookup?_addBuiltins found
    · rw [Store.lookup?_empty] at old
      cases old
    · exact absurd root inner

/-- What the name of a frame holds can be asked to stay. -/
theorem tidy_holding (tidy : (declaring none).Tidy s) {f : FrameId} (hf : s.store.HasFrame f)
    (x : String) : (declaring (some ⟨f, x, s.store.lookup? f x⟩)).Tidy s := by
  obtain ⟨⟨checked, nodup, declared, -⟩, active, values, elements⟩ := tidy
  refine ⟨⟨checked, nodup, declared, fun p hp => ?_⟩, active, values, elements⟩
  obtain rfl := Option.some.inj hp
  exact ⟨hf, rfl⟩

end Discipline

namespace Session

variable {s t : Session} {e : Expr}

theorem declaredOnce_of_tidy (tidy : (Discipline.declaring none).Tidy s) : s.DeclaredOnce where
  declared := tidy.sound.declared
  single opened _ mem := Origin.declaring_eq_singleton (tidy.sound.nodup opened) mem

/-- What a name is bound to changes by an assignment to it, or by its declaration. -/
theorem meets_of_overwriting (tidy : (Discipline.declaring none).Tidy s)
    (ready : (Discipline.declaring none).ready s e) {n : Nat} {f : FrameId} {x : String}
    (hf : s.store.HasFrame f)
    (changes : (Eval.sessionAfter (Eval.evaluate n e s)).store.lookup? f x ≠ s.store.lookup? f x) :
    Eval.Meets (fun u d => u.Targets f x d ∨ u.Declares f x d) n fun eval => eval e s := by
  refine by_contra fun unmet => changes ?_
  have allowed (t : Session) (d : Expr) :
      (Discipline.declaring (some ⟨f, x, s.store.lookup? f x⟩)).watch t d ↔
        ¬(t.Targets f x d ∨ t.Declares f x d) := by
    simp [Discipline.declaring]
  have ends := Discipline.declaring_lawful.ends_evaluate allowed unmet
    (Discipline.tidy_holding tidy hf x) ready
  exact (ends.after.tidy.sound.kept _ rfl).2

/-- Wherever a run evaluates an expression, and when it ends, all frames but that of global names
have names of the scopes for which they were opened only, and each of these has one declaration
there. An expression that binds a name is this declaration. What a name of a frame is bound to, once
the frame is there, changes only by assignments to the name and by its declaration, which may be
evaluated again. -/
theorem Reachable.declared_once (h : s.Reachable) {program : List Expr}
    (accepted : (s.baseDirectory, program) ∈ s.programs) (n : Nat) :
    (s.interpretBy (Eval.evaluate n) program).2.DeclaredOnce ∧
      ∀ t e, s.Visits n program t e →
        t.DeclaredOnce ∧
        (∀ x ∈ e.binding?, t.Declares t.frame x.lexeme e) ∧
        ∀ k f x, t.store.HasFrame f →
          (Eval.sessionAfter (Eval.evaluate k e t)).store.lookup? f x ≠ t.store.lookup? f x →
            Eval.Meets (fun u d => u.Targets f x d ∨ u.Declares f x d) k fun eval => eval e t := by
  refine ⟨declaredOnce_of_tidy (Discipline.tidy_declaring (h.interpret accepted n)),
    fun t e visits => ?_⟩
  have law : (Discipline.declaring none).Lawful := Discipline.declaring_lawful
  obtain ⟨tidy, ready⟩ := law.ready_of_visits (fun _ _ _ => nofun) (Discipline.tidy_declaring h)
    (law.runs_of_accepted h.tied.1 accepted) visits
  exact ⟨declaredOnce_of_tidy tidy,
    fun x hx => Discipline.declares_of_ready ready (.refl t) tidy.sound hx,
    fun k f x hf changes => meets_of_overwriting tidy ready hf changes⟩

/-- A block declares a name, and then uses it. -/
theorem declared_once_in_a_block :
    ∃ (s t : Session) (program : List Expr) (id : NodeId) (x : Token),
      s.Reachable ∧ (s.baseDirectory, program) ∈ s.programs ∧
      s.Visits 3 program t (.variable id x) ∧ t.frame ≠ Store.root ∧ t.Binds x.lexeme ∧
      t.DeclaredOnce := by
  obtain ⟨s, program, compiled, shape⟩ := exists_compiled
    (s := new .empty .current .propagate (.ofBytes []) 0) (r := "\x7b var(x), x \x7d")
    (P := declaresThenUses) (by decide +kernel)
  obtain ⟨x, id, y, rfl, same⟩ := eq_of_declaresThenUses shape
  obtain ⟨reachable, accepted⟩ := (Reachable.new _ _ _ _ _).compiled compiled
  let inner := s.enter (.block [.declare x, .variable id y]) s.frame
  have visits : s.Visits 3 [.block [.declare x, .variable id y]] (inner.define x.lexeme .null)
      (.variable id y) :=
    visits_second (v := .null) (by simp) fun alarm => Eval.watched_of_check (by simp) alarm 1
  have new : inner.frame ≠ Store.root := frame_enter_ne reachable.sound.root.hasFrame _ _
  have active : inner.store.HasFrame inner.frame := s.store.hasFrame_branch _ _
  have bound := binds_define active x.lexeme .null
  exact ⟨s, _, _, id, y, reachable, accepted, visits, new, same ▸ bound,
    ((reachable.declared_once accepted 3).2 _ _ visits).1⟩

end Session

end FoxScript
