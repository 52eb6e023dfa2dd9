import FoxScript.Proofs.Session.Placement
import Mathlib

/-!
# Runs of renamed programs

A program in which a name of one scope has a new spelling runs like the program itself. The
invariant is a tie: frames that the renamed scope opened hold the name under its new spelling, all
others are the same, and what is evaluated on the right is the renamed expression, while all other
programs are evaluated as they are.

## Main definitions

* `Diagnostic.Respelled`: failures that differ in the spelling of one name.
* `Renaming.tie`, `Renaming.Corresponds`: sessions before and after a renaming.

## Main statements

* `Renaming.tie_lawful`: the invariant is kept by every step.
* `Session.Reachable.renamed`: a renaming changes neither what resolution finds out nor what a run
  does.
-/
namespace FoxScript

/-- Failures that differ in the spelling of one name. -/
inductive Diagnostic.Respelled (old new : String) : Diagnostic → Diagnostic → Prop
  /-- The failure is the same. -/
  | refl (d : Diagnostic) : Respelled old new d d
  /-- A failure at the name. -/
  | sample (p : Position) (f : Fault) :
    Respelled old new (.runtime ⟨old, p⟩ f) (.runtime ⟨new, p⟩ f)
  /-- The name has no value. -/
  | undefined (p : Position) :
    Respelled old new (.runtime ⟨old, p⟩ (.undefinedVariable old))
      (.runtime ⟨new, p⟩ (.undefinedVariable new))
  /-- A failure of an import. -/
  | import {ds ds' : List Diagnostic} (l : Location) (path : String)
    (h : List.Forall₂ (Respelled old new) ds ds') :
    Respelled old new (.runtime l (.failedImport path (.nested ds)))
      (.runtime l (.failedImport path (.nested ds')))
  /-- A failure of an evaluated text. -/
  | eval {ds ds' : List Diagnostic} (l : Location)
    (h : List.Forall₂ (Respelled old new) ds ds') :
    Respelled old new (.runtime l (.failedEval ds)) (.runtime l (.failedEval ds'))

namespace Renaming

variable (ρ : Renaming) (P : List Expr) (s s' : Session)

/-! ### The tie -/

/-- What happens to a program: `P` is renamed, and all others stay as they are. -/
def Applies (σ : Renaming) (program : List Expr) : Prop := σ = ρ ∧ program = P ∨ σ = ρ.idle

/-- The renamed scope opened the frame. -/
def Marks (f : FrameId) : Prop :=
  s.store.origin? f = some ρ.scope ∧ s'.store.origin? f ≠ some ρ.scope

/-- Names correspond in frames with the same number. A frame that the renamed scope opened holds the
name under its new spelling; the new name is not one of its names. -/
def pairs : Store.Pairing := fun f x f' x' =>
  f' = f ∧ (ρ.Marks s s' f ∧ x ≠ ρ.new ∧ x' = ρ.nameIn (some ρ.scope) x ∨
    ¬ρ.Marks s s' f ∧ x' = x)

/-- A function, and what it is after a renaming of the program that it stands in. -/
def Calls (c c' : Closure) : Prop :=
  ∃ σ d program Γ Δ, ρ.Applies P σ program ∧ s.Owns c d program Γ ∧
    Δ = Γ.enter (.call c.params c.body) (parameterScope c.params) ∧
    c' = ⟨c.params.map (σ.atBinding Δ), c.body.rename σ Δ, c.frame⟩ ∧
    s'.store.Chain c.frame (Γ.rename σ).origins

/-- The frames of two sessions correspond, and the same is known about uses. -/
structure Facing : Prop where
  /-- The left session is sound. -/
  sound : s.Sound
  /-- Hop counts are the same. -/
  hops : ∀ id : NodeId, s'.hops[id]? = s.hops[id]?
  /-- There are as many frames. -/
  size : s'.store.frames.size = s.store.frames.size
  /-- Frames have the same frames around them. -/
  parents : ∀ f, s'.store.parent? f = s.store.parent? f
  /-- What the frames hold corresponds. -/
  holds : Store.Holds (Value.Alike (ρ.Calls P s s') fun _ => True) (ρ.pairs s s') s.store s'.store

/-- An expression is about to be evaluated on the left, and the renamed expression on the right, in
frames of the scopes around it. -/
structure Placed (σ : Renaming) (program : List Expr) (Γ : Context) (e : Expr) : Prop where
  /-- The program is renamed or not. -/
  applies : ρ.Applies P σ program
  /-- The expression is placed on the left. -/
  left : ∃ d, s.Placed d program Γ e
  /-- Both are in the same frame. -/
  frame : s'.frame = s.frame
  /-- On the right the frames are those of the renamed scopes. -/
  right : s'.store.Chain s.frame (Γ.rename σ).origins

/-- A name is bound in frames of the scopes around it. -/
structure Binds (σ : Renaming) (Γ : Context) (x : Token) : Prop where
  /-- The new name is not bound before the renaming. -/
  unwritten : σ = ρ ∧ x.lexeme ≠ ρ.new ∨ σ = ρ.idle
  /-- Both are in the same frame. -/
  frame : s'.frame = s.frame
  /-- The frames are those of the scopes. -/
  left : s.store.Chain s.frame Γ.origins
  /-- On the right the frames are those of the renamed scopes. -/
  right : s'.store.Chain s.frame (Γ.rename σ).origins

/-- A session and one in which the program `P` is renamed. -/
def tie : Tie where
  scoping s s' := ρ.Facing P s s'
  closure s s' := ρ.Calls P s s'
  lends _ := True
  binds s s' x x' := ∃ σ Γ, ρ.Binds s s' σ Γ x ∧ x' = σ.atBinding Γ x
  uses s s' id x id' x' := ∃ σ program Γ e Δ u, ρ.Placed P s s' σ program Γ e ∧
    e.use? Γ = some (Δ, u) ∧ u.id = id ∧ u.name = x ∧ id' = id ∧ x' = σ.atUse Δ x
  ready s s' e e' := ∃ σ program Γ, ρ.Placed P s s' σ program Γ e ∧ e' = e.rename σ Γ
  diag := Diagnostic.Respelled ρ.old ρ.new

variable {ρ P s s'} {t t' : Session}

/-! ### Sessions that go on -/

theorem Calls.mono {c c' : Closure} (h : ρ.Calls P s s' c c') (left : s.Extends t)
    (right : s'.Extends t') : ρ.Calls P t t' c c' := by
  obtain ⟨σ, d, program, Γ, Δ, applies, owns, inside, same, chain⟩ := h
  exact ⟨σ, d, program, Γ, Δ, applies, owns.mono left.store left.programs, inside, same,
    chain.mono right.store⟩

theorem Placed.mono {σ : Renaming} {program : List Expr} {Γ : Context} {e : Expr}
    (h : ρ.Placed P s s' σ program Γ e) (left : s.Grows t) (right : s'.Grows t') :
    ρ.Placed P t t' σ program Γ e where
  applies := h.applies
  left := h.left.imp fun _ placed => placed.mono left
  frame := right.frame.trans (h.frame.trans left.frame.symm)
  right := left.frame ▸ h.right.mono right.store

theorem Binds.mono {σ : Renaming} {Γ : Context} {x : Token} (h : ρ.Binds s s' σ Γ x)
    (left : s.Grows t) (right : s'.Grows t') : ρ.Binds t t' σ Γ x where
  unwritten := h.unwritten
  frame := right.frame.trans (h.frame.trans left.frame.symm)
  left := left.frame ▸ h.left.mono left.store
  right := left.frame ▸ h.right.mono right.store

/-- A value on the left stands in programs. -/
theorem alike_left {v v' : Value} (h : (ρ.tie P).Alike s s' v v') :
    Value.Alike s.Stands (fun _ => True) v v := by
  cases h with
  | null => exact .null
  | bool b => exact .bool b
  | number x => exact .number x
  | text t => exact .text t
  | array a => exact .array a
  | builtin id h => exact .builtin id h
  | closure id name h =>
    obtain ⟨σ, d, program, Γ, Δ, applies, owns, -⟩ := h
    exact .closure id name ⟨rfl, d, program, Γ, owns⟩

/-! ### Names of frames -/

theorem pairs_oneToOne (ρ : Renaming) (s s' : Session) : (ρ.pairs s s').OneToOne := by
  rintro f x _ x' g y _ y' ⟨rfl, hx⟩ ⟨rfl, hy⟩
  refine and_congr_right fun same => ?_
  subst same
  obtain ⟨marked, hx, rfl⟩ | ⟨unmarked, rfl⟩ := hx
  · obtain ⟨-, hy, rfl⟩ | ⟨unmarked, -⟩ := hy
    · exact (nameIn_inj hx hy).symm
    · exact absurd marked unmarked
  · obtain ⟨marked, -⟩ | ⟨-, rfl⟩ := hy
    · exact absurd marked unmarked
    · rfl

theorem Facing.chain_root (h : ρ.Facing P s s') : s'.store.Chain Store.root [] := by
  obtain ⟨-, frame, parent⟩ := h.sound.root
  exact ⟨rfl, Nat.lt_of_lt_of_eq frame h.size.symm, (h.parents _).trans parent⟩

variable {program : List Expr} {σ : Renaming} {Γ : Context} {f f' : FrameId} {x : String}

/-- In a frame of a scope a name has the spelling that the scope gives it. -/
theorem Facing.pairs_of_chain (facing : ρ.Facing P s s') (fits : ρ.Fits P)
    (unwritten : σ = ρ ∧ x ≠ ρ.new ∨ σ = ρ.idle) (left : s.store.Chain f Γ.origins)
    (right : s'.store.Chain f (Γ.rename σ).origins) (same : f' = f) :
    ρ.pairs s s' f x f' (σ.nameIn Γ.origins.head? x) := by
  have bound := fits.bound
  refine ⟨same, ?_⟩
  cases Γ with
  | nil =>
    obtain ⟨rfl, -, -⟩ := left
    refine .inr ⟨fun marks => ?_, by simp⟩
    have opened := Option.some.inj (facing.sound.unopened.symm.trans marks.1)
    simp [← opened, Origin.scope] at bound
  | cons c Γ =>
    obtain ⟨-, origin, -⟩ := left
    obtain ⟨-, origin', -⟩ := right
    obtain ⟨rfl, hx⟩ | rfl := unwritten
    · by_cases here : c.origin = σ.scope
      · refine .inl ⟨⟨by rw [origin, here], ?_⟩, hx, by simp [here]⟩
        rw [origin', here]
        exact fun same => rename_scope_ne bound fits.differs Γ (Option.some.inj same)
      · refine .inr ⟨fun marks => here (Option.some.inj (origin.symm.trans marks.1)), ?_⟩
        simp [nameIn, here]
    · refine .inr ⟨fun marks => marks.2 ?_, by simp⟩
      rw [origin', Origin.rename_idle, ← origin]
      exact marks.1

/-! ### Steps that change frames -/

/-- What frames hold stays related in later sessions. -/
theorem Facing.holds_mono (h : ρ.Facing P s s') (left : s.Extends t) (right : s'.Extends t') :
    Store.Holds ((ρ.tie P).Alike t t') (ρ.pairs s s') s.store s'.store :=
  h.holds.imp fun _ _ alike => alike.imp fun _ _ calls => calls.mono left right

theorem pairs_congr (left : s.store.SameTree t.store) (right : s'.store.SameTree t'.store) :
    ρ.pairs t t' = ρ.pairs s s' := by
  funext f x f' x'
  simp only [pairs, Marks, left.origin, right.origin]

/-- Frames correspond as long as there are no new ones and what they hold stays related. -/
theorem Facing.carry (h : ρ.Facing P s s') (left : s.store.SameTree t.store)
    (right : s'.store.SameTree t'.store) (sound : t.Sound)
    (hops : ∀ id : NodeId, t'.hops[id]? = t.hops[id]?)
    (holds : Store.Holds ((ρ.tie P).Alike t t') (ρ.pairs s s') t.store t'.store) :
    ρ.Facing P t t' where
  sound := sound
  hops := hops
  size := right.size.trans (h.size.trans left.size.symm)
  parents f := (right.parent f).trans ((h.parents f).trans (left.parent f).symm)
  holds := pairs_congr left right ▸ holds

theorem facing_define (facing : ρ.Facing P s s') (fits : ρ.Fits P) {x x' : Token} {v v' : Value}
    (binds : (ρ.tie P).binds s s' x x') (h : (ρ.tie P).Alike s s' v v') :
    ρ.Facing P (s.define x.lexeme v) (s'.define x'.lexeme v') := by
  obtain ⟨σ, Γ, binds, rfl⟩ := binds
  have left := (s.grows_define x.lexeme v).toExtends
  have right := (s'.grows_define (σ.atBinding Γ x).lexeme v').toExtends
  have pair := facing.pairs_of_chain fits binds.unwritten binds.left binds.right binds.frame
  have holds := (facing.holds_mono left right).define (pairs_oneToOne ρ s s') pair
    binds.left.hasFrame (binds.frame ▸ binds.right.hasFrame)
    (h.imp fun _ _ calls => calls.mono left right)
  exact facing.carry (s.store.sameTree_define ..) (s'.store.sameTree_define ..)
    (facing.sound.define _ (alike_left h)) facing.hops holds

theorem facing_replace (facing : ρ.Facing P s s') {x x' : String} {v v' : Value}
    (pair : ρ.pairs s s' f x f' x') (h : (ρ.tie P).Alike s s' v v') :
    ρ.Facing P (s.replace f x v) (s'.replace f' x' v') := by
  have left := (s.grows_replace f x v).toExtends
  have right := (s'.grows_replace f' x' v').toExtends
  have holds := (facing.holds_mono left right).replace (pairs_oneToOne ρ s s') pair
    (h.imp fun _ _ calls => calls.mono left right)
  exact facing.carry (s.store.sameTree_replace ..) (s'.store.sameTree_replace ..)
    (facing.sound.replace f x (alike_left h)) facing.hops holds

theorem facing_enter (facing : ρ.Facing P s s') (origin origin' : Origin) (same : f' = f) :
    ρ.Facing P (s.enter origin f) (s'.enter origin' f') := by
  subst same
  have left := s.extends_enter origin f'
  have right := s'.extends_enter origin' f'
  refine ⟨facing.sound.enter origin f', facing.hops, ?_, fun g => ?_, ?_⟩
  · simp [Session.enter, Store.size_branch, facing.size]
  · simp only [Session.enter, Store.parent?_branch_eq, facing.size, facing.parents]
  · rintro _ x g x' ⟨rfl, pair⟩
    change Option.Rel _ ((s.store.branch origin f').2.lookup? g x)
      ((s'.store.branch origin' f').2.lookup? g x')
    rw [Store.lookup?_branch, Store.lookup?_branch]
    by_cases hg : s.store.HasFrame g
    · have marks : ρ.Marks (s.enter origin f') (s'.enter origin' f') g ↔ ρ.Marks s s' g := by
        have hg' : s'.store.HasFrame g := Nat.lt_of_lt_of_eq hg facing.size.symm
        rw [Marks, Marks, left.store.origin g hg, right.store.origin g hg']
      rw [marks] at pair
      exact facing.holds_mono left right g x g x' ⟨rfl, pair⟩
    · have unbound (store : Store) (size : store.frames.size = s.store.frames.size)
          (name : String) : store.lookup? g name = none := by
        refine Option.not_isSome_iff_eq_none.1 fun bound => hg ?_
        exact Nat.lt_of_lt_of_eq (Store.hasFrame_of_lookup? bound) size
      rw [unbound s.store rfl, unbound s'.store facing.size]
      exact .none

/-- A text that is compiled is the same on both sides. -/
theorem facing_compile {source : String} {program : List Expr} (tied : (ρ.tie P).Tied s s')
    (h : s.compile source = (.ok program, t)) (h' : s'.compile source = (.ok program, t')) :
    ρ.Facing P t t' := by
  have facing : ρ.Facing P s s' := tied.scoping
  obtain ⟨n, le, numbered, faults, rfl⟩ := Session.compile_ok h
  obtain ⟨n', le', numbered', faults', rfl⟩ := Session.compile_ok h'
  have left := Session.extends_adopt le numbered
  have right := Session.extends_adopt le' numbered'
  refine facing.carry (Store.sameTree_of_frames_eq rfl) (Store.sameTree_of_frames_eq rfl)
    (facing.sound.adopt_numbered le numbered faults) (fun id => ?_) (facing.holds_mono left right)
  rw [Session.hops_adopt, Session.hops_adopt, tied.files, tied.policy, tied.baseDirectory]
  exact congrArg (Option.or _) (facing.hops id)

/-! ### Uses -/

theorem Applies.nameAt_eq_or (h : ρ.Applies P σ program) (Γ : Context) (z : String) :
    σ.nameAt Γ z = z ∨ z = ρ.old ∧ σ.nameAt Γ z = ρ.new := by
  obtain ⟨rfl, -⟩ | rfl := h
  · exact σ.nameAt_eq_or Γ z
  · exact .inl (nameAt_idle ρ Γ z)

/-- A failure at a use of a name. -/
theorem Applies.respelled (h : ρ.Applies P σ program) (Γ : Context) (x : Token) (f : Fault) :
    Diagnostic.Respelled ρ.old ρ.new (.runtime x.location f)
      (.runtime (σ.atUse Γ x).location f) := by
  simp only [Token.location, lexeme_atUse]
  obtain same | ⟨old, new⟩ := h.nameAt_eq_or Γ x.lexeme
  · rw [same]
    exact .refl _
  · rw [new, old]
    exact .sample x.position f

theorem Applies.respelled_undefined (h : ρ.Applies P σ program) (Γ : Context) (x : Token) :
    Diagnostic.Respelled ρ.old ρ.new (.runtime x.location (.undefinedVariable x.lexeme))
      (.runtime (σ.atUse Γ x).location (.undefinedVariable (σ.atUse Γ x).lexeme)) := by
  simp only [Token.location, lexeme_atUse]
  obtain same | ⟨old, new⟩ := h.nameAt_eq_or Γ x.lexeme
  · rw [same]
    exact .refl _
  · rw [new, old]
    exact .undefined x.position

theorem meets (facing : ρ.Facing P s s') (fits : ρ.Fits P) {id id' : NodeId} {x x' : Token}
    (use : (ρ.tie P).uses s s' id x id' x') :
    (ρ.tie P).Meets s s' x x' (s.owner id x) (s'.owner id' x') := by
  obtain ⟨σ, program, Γ, e, Δ, u, placed, hu, rfl, rfl, rfl, rfl⟩ := use
  obtain ⟨d, left⟩ := placed.left
  have undefined := placed.applies.respelled_undefined Δ u.name
  have unwritten : σ = ρ ∧ u.name.lexeme ≠ ρ.new ∨ σ = ρ.idle := by
    refine placed.applies.imp_left fun ⟨same, hP⟩ => ⟨same, ?_⟩
    subst hP
    exact fits.use_ne left.site hu
  have known : s.hops[u.id]? = Resolution.hopsTo? u.name.lexeme Δ.scopes :=
    facing.sound.located _ left.accepted Γ e left.site _ hu
  have known' : s'.hops[u.id]? = Resolution.hopsTo? u.name.lexeme Δ.scopes :=
    (facing.hops u.id).trans known
  cases found : Resolution.hopsTo? u.name.lexeme Δ.scopes with
  | none =>
    rw [found] at known known'
    simp only [Session.owner, known, known', Store.find_root]
    have pair : ρ.pairs s s' Store.root u.name.lexeme Store.root (σ.nameAt Δ u.name.lexeme) := by
      have pair := facing.pairs_of_chain (Γ := []) fits unwritten facing.sound.root
        facing.chain_root rfl
      simpa [nameAt_of_hopsTo?_eq_none σ found] using pair
    exact .of_rel (facing.holds _ _ _ _ pair) (fun v v' h => facing_replace facing pair h) undefined
  | some h =>
    rw [found] at known known'
    obtain ⟨c, ⟨here, -⟩⟩ := Context.hopsTo?_eq_some found
    have origin : Γ.origins[h]? = some c.origin := by
      rw [← Expr.origins_use? hu, Context.origins, List.getElem?_map, here]
      rfl
    have le : h ≤ Γ.origins.length := Nat.le_of_lt (List.getElem?_eq_some_iff.1 origin).1
    have le' : h ≤ (Γ.rename σ).origins.length := by simpa [Context.origins] using le
    obtain ⟨f, ancestor, chain⟩ := left.chain.ancestor le
    obtain ⟨f', ancestor', chain'⟩ := placed.right.ancestor le'
    obtain rfl : f' = f := by
      rw [Store.ancestor?_congr facing.parents] at ancestor'
      exact Option.some.inj (ancestor'.symm.trans ancestor)
    rw [← placed.frame] at ancestor'
    simp only [Session.owner, known, known', Store.findAt, ancestor, ancestor']
    have drop : Γ.origins.drop h = Context.origins (Γ.drop h) := by simp [Context.origins]
    rw [drop] at chain
    rw [Context.drop_origins_rename] at chain'
    have pair := facing.pairs_of_chain fits unwritten chain chain' rfl
    rw [← drop, List.head?_drop, origin] at pair
    rw [← nameAt_of_hopsTo? σ found (Expr.origins_use? hu ▸ origin)] at pair
    exact .of_rel (facing.holds _ _ _ _ pair) (fun v v' h => facing_replace facing pair h) undefined

/-! ### Expressions and functions -/

theorem Facing.frame_enter (h : ρ.Facing P s s') (origin origin' : Origin) (f f' : FrameId) :
    (s'.enter origin' f').frame = (s.enter origin f).frame := by
  simp [Session.enter, Store.branch_fst, h.size]

theorem Facing.chain_enter (h : ρ.Facing P s s') {origins : List Origin}
    (chain : s'.store.Chain f origins) (origin origin' : Origin) (same : f' = f) :
    (s'.enter origin' f').store.Chain (s.enter origin f).frame (origin' :: origins) := by
  subst same
  exact h.frame_enter origin origin' f' f' ▸ chain.branch origin'

/-- What is renamed is not written with the new name before. -/
theorem Applies.unwritten (h : ρ.Applies P σ program) (fits : ρ.Fits P) {e : Expr}
    (site : Site program Γ e) {y : Token} (hy : y ∈ e.spelled) :
    σ = ρ ∧ y.lexeme ≠ ρ.new ∨ σ = ρ.idle := by
  refine h.imp_left fun ⟨same, hP⟩ => ⟨same, ?_⟩
  subst hP
  exact fits.unwritten Γ e site y hy

/-- The parts of an expression and of the renamed expression are in their places. -/
theorem form (facing : ρ.Facing P s s') (fits : ρ.Fits P) {e e' : Expr}
    (ready : (ρ.tie P).ready s s' e e') : (ρ.tie P).Form s s' e e' := by
  obtain ⟨σ, program, Γ, placed, rfl⟩ := ready
  obtain ⟨applies, ⟨d, left⟩, frame, right⟩ := placed
  refine Tie.form_rename σ Γ (fun names x mem => ?_) (fun es he => ⟨?_, fun names x mem => ?_⟩)
    (fun name params body Δ he hΔ => ?_) (fun name params body he => ?_) (fun u hu => ?_)
    (fun x hx => ?_) fun _ _ => trivial
  · exact ⟨σ, program, _, ⟨applies, ⟨d, left.part mem⟩, frame, by simpa using right⟩, rfl⟩
  · exact facing_enter facing _ _ frame
  · exact ⟨σ, program, _, ⟨applies, ⟨d, left.enter mem⟩, facing.frame_enter _ _ _ _,
      facing.chain_enter right _ _ frame⟩, rfl⟩
  · subst he
    exact ⟨σ, d, program, _, Δ, applies, left.owns, hΔ, by rw [frame], by simpa using right⟩
  · subst he
    obtain ⟨rfl, hP⟩ | rfl := applies
    · subst hP
      have other : ¬(Γ.origins.head? = some σ.scope ∧ name.lexeme = σ.old) := fun h =>
        fits.variable Γ name params body left.site h.1 h.2
      simp [atBinding, nameIn, other]
    · simp
  · exact ⟨σ, program, Γ, e, u.1, u.2, ⟨applies, ⟨d, left⟩, frame, right⟩, hu, rfl, rfl, rfl, rfl⟩
  · have spelled : x ∈ e.spelled := by
      cases e <;> simp_all [Expr.binding?, Expr.spelled]
    exact ⟨σ, Γ, ⟨applies.unwritten fits left.site spelled, frame, left.chain, right⟩, rfl⟩

/-- A function and the renamed function can be called. -/
theorem enters (facing : ρ.Facing P s s') (fits : ρ.Fits P) {c c' : Closure}
    (calls : ρ.Calls P s s' c c') : (ρ.tie P).Enters s s' c c' := by
  obtain ⟨σ, d, program, Γ, Δ, applies, owns, rfl, rfl, chain⟩ := calls
  have frame := facing.frame_enter (.call c.params c.body)
    ((Origin.call c.params c.body).rename σ Γ) c.frame c.frame
  have chain := facing.chain_enter chain (.call c.params c.body)
    ((Origin.call c.params c.body).rename σ Γ) rfl
  have entered := owns.enter
  refine ⟨facing_enter facing _ _ rfl, ?_, σ, program, _,
    ⟨applies, ⟨d, entered⟩, frame, chain⟩, rfl⟩
  refine List.forall₂_map_right_iff.2 (List.forall₂_same.2 fun x hx => ?_)
  refine ⟨σ, _, ⟨applies.imp_left fun ⟨same, hP⟩ => ⟨same, ?_⟩, frame, entered.chain, chain⟩, rfl⟩
  subst hP
  have avoids := List.forall_mem_cons.1 (fits.avoids owns.site)
  exact avoids.1 (x.lexeme, true) (List.mem_reverse.2 (List.mem_map_of_mem hx))

/-- A text that is compiled is ready. -/
theorem ready_compile {source : String} {program : List Expr} (tied : (ρ.tie P).Tied s s')
    (root : s.frame = Store.root) (root' : s'.frame = Store.root)
    (h : s.compile source = (.ok program, t)) (h' : s'.compile source = (.ok program, t')) :
    ∀ e ∈ program, (ρ.tie P).ready t t' e e := by
  have facing := facing_compile tied h h'
  intro e he
  obtain ⟨n, le, numbered, faults, rfl⟩ := Session.compile_ok h
  obtain ⟨n', le', numbered', faults', rfl⟩ := Session.compile_ok h'
  refine ⟨ρ.idle, program, [], ⟨.inr rfl, ⟨s.baseDirectory, List.mem_cons_self, .of_mem he, ?_,
    .inr rfl⟩, root'.trans root.symm, ?_⟩, by simp⟩
  · exact root ▸ facing.sound.root
  · exact root ▸ facing.chain_root

/-- What is evaluated on the right is renamed, whatever is evaluated before. -/
theorem tie_lawful (fits : ρ.Fits P) : (ρ.tie P).Lawful where
  closure_mono h left right := Calls.mono h left right
  binds_mono := by
    rintro s s' t t' x x' ⟨σ, Γ, binds, rfl⟩ left right
    exact ⟨σ, Γ, binds.mono left right, rfl⟩
  uses_mono := by
    rintro s s' t t' id id' x x' ⟨σ, program, Γ, e, Δ, u, placed, use⟩ left right
    exact ⟨σ, program, Γ, e, Δ, u, placed.mono left right, use⟩
  ready_mono := by
    rintro s s' t t' e e' ⟨σ, program, Γ, placed, rfl⟩ left right
    exact ⟨σ, program, Γ, placed.mono left right, rfl⟩
  scoping_congr := by
    intro s s' t t' facing left right
    have facing : ρ.Facing P s s' := facing
    refine facing.carry (Store.sameTree_of_frames_eq left.frames)
      (Store.sameTree_of_frames_eq right.frames) (facing.sound.congr left) (fun id => ?_)
      fun f x f' x' pair => ?_
    · rw [left.hops, right.hops]
      exact facing.hops id
    · rw [Store.lookup?_of_frames_eq left.frames, Store.lookup?_of_frames_eq right.frames]
      exact facing.holds_mono left.extends right.extends f x f' x' pair
  define facing binds h := facing_define facing fits binds h
  meets facing use := meets facing fits use
  form facing ready := form facing fits ready
  enters facing calls := enters facing fits calls
  compile _ tied root root' h h' :=
    ⟨facing_compile tied h h', ready_compile tied root root' h h'⟩
  diag_refl := .refl
  diag_use := by
    rintro s s' id id' x x' f ⟨σ, program, Γ, e, Δ, u, placed, hu, rfl, rfl, rfl, rfl⟩
    exact placed.applies.respelled Δ u.name f
  diag_import l path h := .import l path h
  diag_eval l h := .eval l h

/-! ### Renamed programs -/

/-- A session that has accepted the program `P`, and a session that has accepted the renamed program
in its place. Neither runs a program at the moment. -/
structure Corresponds (ρ : Renaming) (P : List Expr) (s s' : Session) : Prop where
  /-- The sessions differ in what the renaming changes only. -/
  tied : (ρ.tie P).Tied s s'
  /-- The left session is in the frame of global names. -/
  root : s.frame = Store.root
  /-- So is the right one. -/
  root' : s'.frame = Store.root
  /-- The program is accepted. -/
  accepted : (s.baseDirectory, P) ∈ s.programs

/-- The renamed program runs as the program does. -/
theorem Corresponds.run (h : ρ.Corresponds P s s') (fits : ρ.Fits P) (n : Nat) :
    ρ.Corresponds P (s.interpretBy (Eval.evaluate n) P).2
        (s'.interpretBy (Eval.evaluate n) (ρ.program P)).2 ∧
      (ρ.tie P).Concluded (s.interpretBy (Eval.evaluate n) P).2
        (s'.interpretBy (Eval.evaluate n) (ρ.program P)).2
        (s.interpretBy (Eval.evaluate n) P).1 (s'.interpretBy (Eval.evaluate n) (ρ.program P)).1 := by
  have law := tie_lawful fits
  have facing : ρ.Facing P s s' := h.tied.scoping
  have ready : List.Forall₂ ((ρ.tie P).ready s s') P (ρ.program P) := by
    refine Expr.forall₂_renameInTurn fun names e mem => ?_
    refine ⟨ρ, P, [], ⟨.inl ⟨rfl, rfl⟩, ⟨_, h.accepted, ⟨_, mem, .here⟩, ?_, .inr rfl⟩,
      h.root'.trans h.root.symm, ?_⟩, rfl⟩
    · exact h.root ▸ facing.sound.root
    · exact h.root ▸ facing.chain_root
  obtain ⟨tied, left, right, concluded⟩ := law.interpretBy (law.simulates_evaluate n) h.tied ready
  refine ⟨⟨tied, left.frame.trans h.root, right.frame.trans h.root', ?_⟩, concluded⟩
  exact left.baseDirectory ▸ left.programs h.accepted

/-- A function that stands in a program is not renamed if it was made before. -/
theorem calls_of_stands {c c' : Closure} (h : s.Stands c c') (store : s'.store = s.store) :
    ρ.Calls P s s' c c' := by
  obtain ⟨rfl, d, program, Γ, owns⟩ := h
  exact ⟨ρ.idle, d, program, Γ, _, .inr rfl, owns, rfl, by simp, by simpa [store] using owns.chain⟩

theorem alike_of_stands {v : Value} (h : Value.Alike s.Stands (fun _ => True) v v)
    (store : s'.store = s.store) : (ρ.tie P).Alike s s' v v :=
  h.imp fun _ _ stands => calls_of_stands stands store

/-- Where the frames are the same, they correspond. -/
theorem Facing.of_store_eq (sound : s.Sound) (store : s'.store = s.store)
    (hops : ∀ id : NodeId, s'.hops[id]? = s.hops[id]?) : ρ.Facing P s s' where
  sound := sound
  hops := hops
  size := by rw [store]
  parents f := by rw [store]
  holds := by
    rintro f x _ x' ⟨rfl, marks | ⟨-, rfl⟩⟩
    · exact absurd marks.1.1 (store ▸ marks.1.2)
    · rw [store]
      cases held : s.store.lookup? _ _ with
      | none => exact .none
      | some v => exact .some (alike_of_stands (sound.values _ _ v held) store)

end Renaming

namespace Session

/-- A program whose text is compiled can be renamed: the renamed program is accepted as well, with
the same hop counts. From sessions that correspond, such as those after either is accepted, both
programs run alike: with outcomes that correspond, the same output, and sessions that correspond
again. -/
theorem Reachable.renamed {s t : Session} (h : s.Reachable) {source : String} {program : List Expr}
    (compiled : s.compile source = (.ok program, t)) {ρ : Renaming} (fits : ρ.Fits program) :
    ∃ t', { s with fresh := t.fresh }.accept (ρ.program program) = (.ok (ρ.program program), t') ∧
      (∀ id : NodeId, t'.hops[id]? = t.hops[id]?) ∧ ρ.Corresponds program t t' ∧
      ∀ u u', ρ.Corresponds program u u' → ∀ n,
        let run := u.interpretBy (Eval.evaluate n) program
        let run' := u'.interpretBy (Eval.evaluate n) (ρ.program program)
        ρ.Corresponds program run.2 run'.2 ∧ run'.2.output = run.2.output ∧
          (ρ.tie program).Concluded run.2 run'.2 run.1 run'.1 := by
  have compiled' := h.compile source
  rw [compiled] at compiled'
  obtain ⟨root, tied⟩ := compiled'.tied
  have sound := compiled'.sound
  obtain ⟨n, le, numbered, faults, rfl⟩ := compile_ok compiled
  have hops := hops_adopt_congr (fits.hops numbered.1 faults) { s with fresh := n } program
    (ρ.program program)
  refine ⟨_, accept_of_faults (fits.faults faults), hops, ⟨?_, root, root, List.mem_cons_self⟩,
    fun u u' corresponds n => ?_⟩
  · refine { tied with elements := fun a => ?_, scoping := .of_store_eq sound rfl hops }
    refine (tied.elements a).imp fun v v' alike => ?_
    obtain rfl := Tie.following_alike alike
    exact Renaming.alike_of_stands (Tie.following_alike_left alike) rfl
  · obtain ⟨again, concluded⟩ := corresponds.run fits n
    exact ⟨again, again.tied.output, concluded⟩

/-- A local variable is renamed. -/
theorem renamed_of_a_variable :
    let x : Token := ⟨.identifier, "x", none, ⟨1, 6⟩⟩
    let use : Expr := .variable ⟨0⟩ ⟨.identifier, "x", none, ⟨1, 9⟩⟩
    let program : List Expr := [.block [.declare x, use]]
    let s := new .empty .current .propagate (.ofBytes []) 0
    let ρ : Renaming := ⟨.block [.declare x, use], "x", "y"⟩
    ∃ t t', s.Reachable ∧ s.compile "\x7bvar(x) x\x7d" = (.ok program, t) ∧ ρ.Fits program ∧
      { s with fresh := t.fresh }.accept (ρ.program program) = (.ok (ρ.program program), t') := by
  intro x use program s ρ
  have reachable : s.Reachable := .new _ _ _ _ _
  obtain ⟨t, compiled⟩ : ∃ t, s.compile "\x7bvar(x) x\x7d" = (.ok program, t) := by
    have sound : (Import.read s.fresh "\x7bvar(x) x\x7d").faults = [] := by cbv
    have read : (Import.read s.fresh "\x7bvar(x) x\x7d").exprs = program := by cbv
    have compiled := compile_of_read sound
    rw [read, accept_of_faults rfl] at compiled
    exact ⟨_, compiled⟩
  have fits : ρ.Fits program := by
    refine ⟨rfl, fun Γ name params body site => ?_, fun Γ e site y hy => ?_, by decide⟩
    · simpa using site.of_declare_variable
    · obtain rfl | rfl | rfl := site.of_declare_variable <;> simp [Expr.spelled] at hy <;>
        subst hy <;> simp [ρ, x]
  obtain ⟨t', accepted, -⟩ := reachable.renamed compiled fits
  exact ⟨t, t', reachable, compiled, fits, accepted⟩

end Session

end FoxScript
