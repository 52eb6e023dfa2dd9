import FoxScript.Proofs.Session.Form
import FoxScript.Proofs.Session.Simulation

/-!
# Frames and scopes

Wherever a session evaluates an expression, the expression stands at a place of an accepted program,
and the frames that are met from the frame of the session on are those of the scopes around that
place. The invariant is the tie of a session with itself, or with another one that has the same
frames and of which something is known that persists.

## Main definitions

* `Session.Placed`: an expression is about to be evaluated at a place of a program.
* `Session.Sound`: the functions that frames hold stand in programs, and all hop counts are known.
* `Session.Persists`: what can be known of two sessions while programs run side by side.
* `Tie.following`: the invariant.
* `Session.Reachable`: the sessions that programs run one after the other lead to.

## Main statements

* `Tie.following_lawful`: the invariant is kept by every step.
* `Session.Reachable.tied`: it holds in all sessions that can be reached.
-/
namespace FoxScript

namespace Context

/-- Whether the place lies inside a function. -/
def InCall (Γ : Context) : Prop := ∃ params body, Origin.call params body ∈ Γ.origins

theorem InCall.congr {Γ Δ : Context} (h : Γ.InCall) (same : Γ.origins ⊆ Δ.origins) : Δ.InCall := by
  obtain ⟨params, body, mem⟩ := h
  exact ⟨params, body, same mem⟩

end Context

namespace Session

/-! ### Expressions in their places -/

/-- An expression is about to be evaluated: it stands in an accepted program, and the frames from
that of the session on are those of the scopes around it. Outside of functions imports are seen from
the directory of the program. -/
structure Placed (s : Session) (d : Path) (program : List Expr) (Γ : Context) (e : Expr) :
    Prop where
  /-- The program is accepted. -/
  accepted : (d, program) ∈ s.programs
  /-- The expression stands in the program. -/
  site : Site program Γ e
  /-- The frames are those of the scopes around it. -/
  chain : s.store.Chain s.frame Γ.origins
  /-- Outside of functions the directory is that of the program. -/
  directory : Γ.InCall ∨ s.baseDirectory = d

/-- A function stands in an accepted program, and the frames from that in which it was made on are
those of the scopes around it. -/
structure Owns (s : Session) (c : Closure) (d : Path) (program : List Expr) (Γ : Context) :
    Prop where
  /-- The program is accepted. -/
  accepted : (d, program) ∈ s.programs
  /-- The body stands in the program, inside the scope of the call. -/
  site : Site program (Γ.enter (.call c.params c.body) (parameterScope c.params)) c.body
  /-- The frames are those of the scopes around the function. -/
  chain : s.store.Chain c.frame Γ.origins

variable {s t : Session} {d : Path} {program : List Expr} {Γ Δ : Context} {e : Expr}

theorem Placed.mono (h : s.Placed d program Γ e) (grows : s.Grows t) : t.Placed d program Γ e where
  accepted := grows.programs h.accepted
  site := h.site
  chain := grows.frame ▸ h.chain.mono grows.store
  directory := h.directory.imp_right fun same => grows.baseDirectory.trans same

theorem Placed.part {e' : Expr} {names : Scope} (h : s.Placed d program Γ e)
    (part : (Γ.bind names, e') ∈ e.parts Γ) : s.Placed d program (Γ.bind names) e' where
  accepted := h.accepted
  site := h.site.part part
  chain := by simpa using h.chain
  directory := h.directory.imp_left fun inCall => inCall.congr (by simp)

/-- What stands in a block is evaluated in a frame of its own. -/
theorem Placed.enter {e' : Expr} {origin : Origin} {names : Scope} (h : s.Placed d program Γ e)
    (part : (Γ.enter origin names, e') ∈ e.parts Γ) :
    (s.enter origin s.frame).Placed d program (Γ.enter origin names) e' where
  accepted := h.accepted
  site := h.site.part part
  chain := h.chain.branch origin
  directory := h.directory.imp_left fun inCall => inCall.congr (List.subset_cons_self _ _)

theorem Owns.mono {c : Closure} (h : s.Owns c d program Γ) (store : s.store.Extends t.store)
    (programs : s.programs ⊆ t.programs) : t.Owns c d program Γ where
  accepted := programs h.accepted
  site := h.site
  chain := h.chain.mono store

/-- The body of a function is evaluated in the frame of the call. -/
theorem Owns.enter {c : Closure} (h : s.Owns c d program Γ) :
    (s.enter (.call c.params c.body) c.frame).Placed d program
      (Γ.enter (.call c.params c.body) (parameterScope c.params)) c.body where
  accepted := h.accepted
  site := h.site
  chain := h.chain.branch _
  directory := .inl ⟨c.params, c.body, List.mem_cons_self⟩

/-- A function that an expression in its place makes stands in the program. -/
theorem Placed.owns {name : Option Token} {params : List Token}
    (h : s.Placed d program Γ (.function name params e)) :
    s.Owns ⟨params, e, s.frame⟩ d program (Γ.bind (nameScope name)) where
  accepted := h.accepted
  site := h.site.part (List.mem_singleton_self _)
  chain := by simpa using h.chain

/-! ### Sound sessions -/

/-- Functions that stand in accepted programs. -/
def Stands (s : Session) (c c' : Closure) : Prop :=
  c' = c ∧ ∃ d program Γ, s.Owns c d program Γ

/-- What holds of a session whatever programs were run. -/
structure Sound (s : Session) : Prop where
  /-- Around the frame of global names there is none. -/
  root : s.store.Chain Store.root []
  /-- Nothing opened the frame of global names. -/
  unopened : s.store.origin? Store.root = some .root
  /-- Frames hold functions that stand in programs only. -/
  values : ∀ f name v, s.store.lookup? f name = some v →
    Value.Alike s.Stands (fun _ => True) v v
  /-- The uses of a program are numbered apart, and their numbers are given out. -/
  numbered : ∀ q ∈ s.programs, (Expr.idsOf q.2).Nodup ∧ ∀ id ∈ Expr.idsOf q.2, id.index < s.fresh
  /-- The uses of different programs have different numbers. -/
  apart : ∀ q ∈ s.programs, ∀ q' ∈ s.programs, ∀ id ∈ Expr.idsOf q.2, id ∈ Expr.idsOf q'.2 → q = q'
  /-- For each use the number of scopes up to the first that binds the name is known. -/
  located : ∀ q ∈ s.programs, ∀ Γ e, Site q.2 Γ e → ∀ u ∈ e.use? Γ,
    s.hops[u.2.id]? = Resolution.hopsTo? u.2.name.lexeme u.1.scopes
  /-- The scopes of a program have no faults, and neither have its imports, as seen from its
  directory when it was accepted. -/
  checked : ∀ q ∈ s.programs, ∃ files policy, (resolve files policy q.1 q.2).faults = []
  /-- Nothing is known about uses with numbers that were not given out. -/
  unknown : ∀ id : NodeId, s.fresh ≤ id.index → s.hops[id]? = none

theorem Stands.of_programs {c c' : Closure} (h : s.Stands c c')
    (store : s.store.Extends t.store) (programs : s.programs ⊆ t.programs) : t.Stands c c' := by
  obtain ⟨rfl, d, program, Γ, h⟩ := h
  exact ⟨rfl, d, program, Γ, h.mono store programs⟩

theorem Stands.mono {c c' : Closure} (h : s.Stands c c') (ext : s.Extends t) : t.Stands c c' :=
  h.of_programs ext.store ext.programs

end Session

theorem Value.Alike.imp {closure closure' : Closure → Closure → Prop} {lends : Builtin → Prop}
    {v v' : Value} (h : Value.Alike closure lends v v')
    (imp : ∀ c c', closure c c' → closure' c c') : Value.Alike closure' lends v v' := by
  cases h with
  | null => exact .null
  | bool b => exact .bool b
  | number x => exact .number x
  | text t => exact .text t
  | array a => exact .array a
  | builtin id h => exact .builtin id h
  | closure id name h => exact .closure id name (imp _ _ h)

namespace Session

variable {s t : Session}

/-- Soundness is kept by what changes frames only, as long as the values that are new are sound. -/
theorem Sound.carry (h : s.Sound) (ext : s.Extends t) (hops : t.hops = s.hops)
    (programs : t.programs = s.programs)
    (values : ∀ f name v, t.store.lookup? f name = some v →
      s.store.lookup? f name = some v ∨ Value.Alike t.Stands (fun _ => True) v v) : t.Sound where
  root := h.root.mono ext.store
  unopened := (ext.store.origin _ h.root.hasFrame).trans h.unopened
  values f name v hv := (values f name v hv).elim
    (fun old => (h.values f name v old).imp fun _ _ h => h.mono ext) id
  numbered q hq := by
    rw [programs] at hq
    exact ⟨(h.numbered q hq).1, fun id hid =>
      Nat.lt_of_lt_of_le ((h.numbered q hq).2 id hid) ext.fresh⟩
  apart := programs ▸ h.apart
  located := by
    rw [programs, hops]
    exact h.located
  checked := programs ▸ h.checked
  unknown id hid := by
    rw [hops]
    exact h.unknown id (Nat.le_trans ext.fresh hid)

/-- Soundness is a matter of the scopes only. -/
theorem Sound.congr (h : s.Sound) (same : s.SameScopes t) : t.Sound := by
  refine h.carry same.extends same.hops same.programs fun f name v hv => .inl ?_
  rwa [Store.lookup?_of_frames_eq same.frames] at hv

/-- A name that is bound to a value that stands in programs keeps a session sound. -/
theorem Sound.define (h : s.Sound) (x : String) {v : Value}
    (hv : Value.Alike s.Stands (fun _ => True) v v) : (s.define x v).Sound := by
  have ext := (s.grows_define x v).toExtends
  refine h.carry ext rfl rfl fun f name w hw => ?_
  obtain old | ⟨-, -, rfl⟩ := Store.lookup?_define_eq_some hw
  · exact .inl old
  · exact .inr (hv.imp fun _ _ h => h.mono ext)

theorem Sound.replace (h : s.Sound) (f : FrameId) (x : String) {v : Value}
    (hv : Value.Alike s.Stands (fun _ => True) v v) : (s.replace f x v).Sound := by
  have ext := (s.grows_replace f x v).toExtends
  refine h.carry ext rfl rfl fun f name w hw => ?_
  obtain old | rfl := Store.lookup?_replace_eq_some hw
  · exact .inl old
  · exact .inr (hv.imp fun _ _ h => h.mono ext)

theorem Sound.enter (h : s.Sound) (origin : Origin) (f : FrameId) : (s.enter origin f).Sound :=
  h.carry (s.extends_enter origin f) rfl rfl fun g name _ hv =>
    .inl ((s.store.lookup?_branch origin f g name).symm.trans hv)

/-- A program that is accepted keeps a session sound, if its uses are numbered apart, with numbers
that are given out but not known yet. -/
theorem Sound.adopt (h : s.Sound) {n : Nat} (le : s.fresh ≤ n) {program : List Expr}
    (nodup : (Expr.idsOf program).Nodup) (bounds : ∀ id ∈ Expr.idsOf program, id.index < n)
    (apart : ∀ q ∈ s.programs, ∀ id ∈ Expr.idsOf q.2, id ∉ Expr.idsOf program)
    (unknown : ∀ id ∈ Expr.idsOf program, s.hops[id]? = none)
    (sound : (resolve s.files s.policy s.baseDirectory program).faults = []) :
    ({ s with fresh := n }.adopt program
      (resolve s.files s.policy s.baseDirectory program).hops).Sound := by
  refine ⟨h.root, h.unopened, fun f name v hv => (h.values f name v hv).imp fun _ _ h =>
      h.of_programs (.refl _) (List.subset_cons_self _ _),
    fun q hq => ?_, fun q hq q' hq' id hid hid' => ?_, fun q hq Γ e site u hu => ?_,
    fun q hq => ?_, fun id hid => ?_⟩
  · obtain rfl | hq := List.mem_cons.1 hq
    · exact ⟨nodup, bounds⟩
    · exact ⟨(h.numbered q hq).1, fun id hid =>
        Nat.lt_of_lt_of_le ((h.numbered q hq).2 id hid) le⟩
  · obtain rfl | hq := List.mem_cons.1 hq
    · obtain rfl | hq' := List.mem_cons.1 hq'
      · rfl
      · exact absurd hid (apart q' hq' id hid')
    · obtain rfl | hq' := List.mem_cons.1 hq'
      · exact absurd hid' (apart q hq id hid)
      · exact h.apart q hq q' hq' id hid hid'
  · have hu : e.use? Γ = some u := hu
    obtain rfl | hq := List.mem_cons.1 hq
    · rw [hops_adopt, resolve, Resolution.hops_ofProgram nodup sound site hu]
      rw [unknown _ (site.id_mem_idsOf hu), Option.or_none]
    · have other := apart q hq _ (site.id_mem_idsOf hu)
      rw [hops_adopt, resolve, Resolution.hops_ofProgram_of_not_mem other]
      exact h.located q hq Γ e site u hu
  · obtain rfl | hq := List.mem_cons.1 hq
    · exact ⟨_, _, sound⟩
    · exact h.checked q hq
  · have other : id ∉ Expr.idsOf program := fun mem => Nat.not_le_of_lt (bounds id mem) hid
    rw [hops_adopt, resolve, Resolution.hops_ofProgram_of_not_mem other]
    exact h.unknown id (Nat.le_trans le hid)

/-- Nothing is known about uses with new numbers, and no program has any of them. -/
theorem Sound.of_numbered (h : s.Sound) {n : Nat} {program : List Expr}
    (numbered : Grammar.Numbered s.fresh (Expr.idsOf program) n) :
    (∀ q ∈ s.programs, ∀ id ∈ Expr.idsOf q.2, id ∉ Expr.idsOf program) ∧
      ∀ id ∈ Expr.idsOf program, s.hops[id]? = none :=
  ⟨fun q hq id hid mem => Nat.not_le_of_lt ((h.numbered q hq).2 id hid) (numbered.2 id mem).1,
    fun id mem => h.unknown id (numbered.2 id mem).1⟩

/-- A program that is read keeps a session sound if it is accepted. -/
theorem Sound.adopt_numbered (h : s.Sound) {n : Nat} (le : s.fresh ≤ n) {program : List Expr}
    (numbered : Grammar.Numbered s.fresh (Expr.idsOf program) n)
    (sound : (resolve s.files s.policy s.baseDirectory program).faults = []) :
    ({ s with fresh := n }.adopt program
      (resolve s.files s.policy s.baseDirectory program).hops).Sound :=
  h.adopt le numbered.1 (fun id mem => (numbered.2 id mem).2) (h.of_numbered numbered).1
    (h.of_numbered numbered).2 sound

end Session

/-! ### What is known of two sessions -/

namespace Session

/-- The same is known about the uses of programs, and numbers of uses stay given out. -/
structure SameUses (s t : Session) : Prop where
  /-- Uses mean the same. -/
  hops : t.hops = s.hops
  /-- The same programs were accepted. -/
  programs : t.programs = s.programs
  /-- Numbers are not given out again. -/
  fresh : s.fresh ≤ t.fresh

/-- The store and the frame are no matter of uses. -/
theorem SameUses.of_store (s : Session) (store : Store) (frame : FrameId) :
    s.SameUses { s with store := store, frame := frame } := ⟨rfl, rfl, Nat.le_refl _⟩

theorem SameScopes.sameUses {s t : Session} (h : s.SameScopes t) : s.SameUses t :=
  ⟨h.hops, h.programs, h.fresh⟩

/-- What is known of two sessions in which programs run side by side persists while they run. -/
structure Persists (known : Session → Session → Prop) : Prop where
  /-- It is a matter of uses and programs. -/
  congr {s s' t t' : Session} : known s s' → s.SameUses t → s'.SameUses t' → known t t'
  /-- The uses of programs mean the same on both sides. -/
  hops {s s' : Session} : known s s' → ∀ q ∈ s.programs, ∀ id ∈ Expr.idsOf q.2,
    s'.hops[id]? = s.hops[id]?
  /-- Programs with new numbers can be taken in. -/
  adopt {s s' : Session} {n n' : Nat} {program : List Expr} (table : HopTable) :
    known s s' → s'.baseDirectory = s.baseDirectory → s.fresh ≤ n →
    Grammar.Numbered s.fresh (Expr.idsOf program) n →
    known ({ s with fresh := n }.adopt program table) ({ s' with fresh := n' }.adopt program table)

/-- On both sides the same is known. -/
def KnowSame (s s' : Session) : Prop := s'.hops = s.hops ∧ s'.programs = s.programs

theorem persists_knowSame : Persists KnowSame where
  congr := by
    rintro s s' t t' ⟨hops, programs⟩ left right
    exact ⟨by rw [right.hops, left.hops, hops], by rw [right.programs, left.programs, programs]⟩
  hops := by
    rintro s s' ⟨hops, -⟩ q - id -
    rw [hops]
  adopt := by
    rintro s s' n n' program table ⟨hops, programs⟩ base - -
    exact ⟨by simp [adopt, hops], by simp [adopt, programs, base]⟩

end Session

/-! ### The invariant -/

namespace Tie

/-- Two sessions with the same frames run the same side by side. The left one is sound, and what it
evaluates is placed. Besides, something is known of the two. -/
def following (known : Session → Session → Prop) : Tie where
  scoping s s' := s'.store.frames = s.store.frames ∧ s.Sound ∧ known s s'
  closure s _ := s.Stands
  lends _ := True
  binds s s' x x' := x' = x ∧ s'.frame = s.frame
  uses s s' id x id' x' := id' = id ∧ x' = x ∧ s'.frame = s.frame ∧
    ∃ q ∈ s.programs, id ∈ Expr.idsOf q.2
  ready s s' e e' := e' = e ∧ s'.frame = s.frame ∧ ∃ d program Γ, s.Placed d program Γ e
  diag d d' := d' = d

variable {known : Session → Session → Prop} {s s' : Session}

theorem following_alike {v v' : Value} (h : (following known).Alike s s' v v') : v' = v := by
  cases h with
  | closure id name h =>
    obtain ⟨same, -⟩ := h
    cases same
    rfl
  | _ => rfl

/-- Values of a session in the left place stand there in the right place too. -/
theorem following_alike_left {v v' : Value} (h : (following known).Alike s s' v v') :
    Value.Alike s.Stands (fun _ => True) v v := by
  obtain rfl := following_alike h
  exact h

theorem frame_enter (frames : s'.store.frames = s.store.frames) (origin origin' : Origin)
    (f f' : FrameId) : (s'.enter origin' f').frame = (s.enter origin f).frame := by
  simp [Session.enter, Store.branch, frames]

theorem owner_congr {t : Session} {id : NodeId} (frames : t.store.frames = s.store.frames)
    (hops : t.hops[id]? = s.hops[id]?) (frame : t.frame = s.frame) (x : Token) :
    t.owner id x = s.owner id x := by
  simp only [Session.owner, hops, frame, Store.findAt_of_frames_eq frames, Store.find_root,
    Store.lookup?_of_frames_eq frames]

theorem owner_eq_error {id : NodeId} {x : Token} {e : Fault} (h : s.owner id x = .error e) :
    e = .undefinedVariable x.lexeme := by
  rw [Session.owner] at h
  split at h
  · exact Store.findAt_eq_error h
  · rw [Store.find_root] at h
    split at h <;> cases h
    rfl

theorem following_diags {ds ds' : List Diagnostic}
    (h : List.Forall₂ (following known).diag ds ds') : ds' = ds := by
  induction h with
  | nil => rfl
  | cons hd _ ih => exact congrArg₂ List.cons hd ih

theorem eq_of_concluded {o o' : Outcome} (h : (following known).Concluded s s' o o') : o' = o := by
  cases h with
  | value h => rw [following_alike h]
  | failed h => rw [following_diags h]
  | crashed => rfl
  | exhausted => rfl

section

variable (law : Session.Persists known)

include law

theorem following_define (scoping : (following known).scoping s s') {x x' : Token} {v v' : Value}
    (binds : (following known).binds s s' x x') (h : (following known).Alike s s' v v') :
    (following known).scoping (s.define x.lexeme v) (s'.define x'.lexeme v') := by
  obtain ⟨frames, sound, same⟩ := scoping
  obtain ⟨rfl, frame⟩ := binds
  have alike := following_alike_left h
  obtain rfl := following_alike h
  refine ⟨?_, sound.define _ alike, law.congr same (.of_store s _ _) (.of_store s' _ _)⟩
  simp [Session.define, Store.define, Store.modifyFrame, frames, frame]

theorem following_replace (scoping : (following known).scoping s s') (f : FrameId) (x : String)
    {v v' : Value} (h : (following known).Alike s s' v v') :
    (following known).scoping (s.replace f x v) (s'.replace f x v') := by
  obtain ⟨frames, sound, same⟩ := scoping
  have alike := following_alike_left h
  obtain rfl := following_alike h
  refine ⟨?_, sound.replace f x alike, law.congr same (.of_store s _ _) (.of_store s' _ _)⟩
  simp [Session.replace, Store.replace, Store.modifyFrame, frames]

theorem following_enter (scoping : (following known).scoping s s') (origin : Origin) (f : FrameId) :
    (following known).scoping (s.enter origin f) (s'.enter origin f) := by
  obtain ⟨frames, sound, same⟩ := scoping
  refine ⟨?_, sound.enter origin f, law.congr same (.of_store s _ _) (.of_store s' _ _)⟩
  simp [Session.enter, Store.branch, frames]

/-- The frame that a use means has a value that stands in programs, or there is no such frame. -/
theorem following_meets (scoping : (following known).scoping s s') {id id' : NodeId} {x x' : Token}
    (use : (following known).uses s s' id x id' x') :
    (following known).Meets s s' x x' (s.owner id x) (s'.owner id' x') := by
  have replace := following_replace law scoping
  obtain ⟨frames, sound, same⟩ := scoping
  obtain ⟨rfl, rfl, frame, q, hq, mem⟩ := use
  rw [owner_congr frames (law.hops same q hq id' mem) frame]
  cases found : s.owner id' x' with
  | error e =>
    obtain rfl := owner_eq_error found
    exact .error rfl
  | ok f =>
    refine .ok ?_ fun v v' h => replace f x'.lexeme h
    rw [Store.valueIn, Store.valueIn, Store.lookup?_of_frames_eq frames]
    cases held : s.store.lookup? f x'.lexeme with
    | none => exact .null
    | some v => exact sound.values f x'.lexeme v held

/-- The parts of an expression in its place are in their places. -/
theorem following_form {e e' : Expr} (scoping : (following known).scoping s s')
    (ready : (following known).ready s s' e e') : (following known).Form s s' e e' := by
  obtain ⟨rfl, frame, d, program, Γ, h⟩ := ready
  refine form_of_parts Γ (fun names x mem => ⟨rfl, frame, d, program, _, h.part mem⟩)
    (fun es he => ?_) (fun name params body he => ?_)
    (fun u hu => ⟨rfl, rfl, frame, _, h.accepted, h.site.id_mem_idsOf hu⟩)
    (fun x _ => ⟨rfl, frame⟩) fun path _ => trivial
  · have entered := following_enter law scoping (.block es) s.frame
    rw [← frame] at entered
    refine ⟨frame ▸ entered, fun names x mem => ?_⟩
    exact ⟨rfl, frame_enter scoping.1 _ _ _ _, d, program, _, h.enter mem⟩
  · subst he
    exact ⟨by rw [frame], d, program, _, h.owns⟩

/-- A function that stands in a program can be called. -/
theorem following_enters {c c' : Closure} (scoping : (following known).scoping s s')
    (closure : (following known).closure s s' c c') : (following known).Enters s s' c c' := by
  obtain ⟨rfl, d, program, Γ, owns⟩ := closure
  have frame := frame_enter scoping.1 (.call c'.params c'.body) (.call c'.params c'.body) c'.frame
    c'.frame
  exact ⟨following_enter law scoping _ _,
    List.forall₂_same.2 fun _ _ => ⟨rfl, frame⟩, rfl, frame, d, program, _, owns.enter⟩

/-- A program that is accepted can be evaluated. -/
theorem following_compile {t t' : Session} {source : String} {program : List Expr}
    (tied : (following known).Tied s s') (root : s.frame = Store.root)
    (root' : s'.frame = Store.root)
    (h : s.compile source = (.ok program, t)) (h' : s'.compile source = (.ok program, t')) :
    (following known).scoping t t' ∧ ∀ e ∈ program, (following known).ready t t' e e := by
  obtain ⟨frames, sound, same⟩ := tied.scoping
  obtain ⟨n, le, numbered, faults, rfl⟩ := Session.compile_ok h
  obtain ⟨n', le', numbered', faults', rfl⟩ := Session.compile_ok h'
  refine ⟨⟨frames, sound.adopt_numbered le numbered faults, ?_⟩, fun e he => ?_⟩
  · have table : resolve s'.files s'.policy s'.baseDirectory program =
        resolve s.files s.policy s.baseDirectory program := by
      rw [tied.files, tied.policy, tied.baseDirectory]
    rw [table]
    exact law.adopt _ same tied.baseDirectory le numbered
  · exact ⟨rfl, root'.trans root.symm, s.baseDirectory, program, [], List.mem_cons_self,
      .of_mem he, root ▸ sound.root, .inr rfl⟩

/-- What is evaluated is placed, whatever is evaluated before. -/
theorem following_lawful : (following known).Lawful where
  closure_mono h ext _ := h.mono ext
  binds_mono := by
    rintro s s' t t' x x' ⟨rfl, frame⟩ left right
    exact ⟨rfl, right.frame.trans (frame.trans left.frame.symm)⟩
  uses_mono := by
    rintro s s' t t' id id' x x' ⟨rfl, rfl, frame, q, hq, mem⟩ left right
    exact ⟨rfl, rfl, right.frame.trans (frame.trans left.frame.symm), q, left.programs hq, mem⟩
  ready_mono := by
    rintro s s' t t' e e' ⟨rfl, frame, d, program, Γ, h⟩ left right
    exact ⟨rfl, right.frame.trans (frame.trans left.frame.symm), d, program, Γ, h.mono left⟩
  scoping_congr := by
    rintro s s' t t' ⟨frames, sound, same⟩ left right
    exact ⟨by rw [right.frames, left.frames, frames], sound.congr left,
      law.congr same left.sameUses right.sameUses⟩
  define scoping binds h := following_define law scoping binds h
  meets scoping use := following_meets law scoping use
  form := following_form law
  enters := following_enters law
  compile _ := following_compile law
  diag_refl _ := rfl
  diag_use f h := by
    obtain ⟨-, rfl, -⟩ := h
    rfl
  diag_import l path h := by
    rw [following_diags h]
    rfl
  diag_eval l h := by
    rw [following_diags h]
    rfl

end

/-- A program that is accepted is ready in the frame of global names. -/
theorem following_program {program : List Expr} (sound : s.Sound) (root : s.frame = Store.root)
    (root' : s'.frame = Store.root) (accepted : (s.baseDirectory, program) ∈ s.programs) :
    List.Forall₂ ((following known).ready s s') program program := by
  refine List.forall₂_same.2 fun e he => ?_
  exact ⟨rfl, root'.trans root.symm, s.baseDirectory, program, [], accepted, .of_mem he,
    root ▸ sound.root, .inr rfl⟩

/-- A program that is accepted is run side by side, and ends alike. -/
theorem following_interpretBy (law : Session.Persists known) (tied : (following known).Tied s s')
    (root : s.frame = Store.root) (root' : s'.frame = Store.root) {program : List Expr}
    (accepted : (s.baseDirectory, program) ∈ s.programs) (n : Nat) :
    (following known).Tied (s.interpretBy (Eval.evaluate n) program).2
        (s'.interpretBy (Eval.evaluate n) program).2 ∧
      s.Grows (s.interpretBy (Eval.evaluate n) program).2 ∧
      s'.Grows (s'.interpretBy (Eval.evaluate n) program).2 ∧
      (s'.interpretBy (Eval.evaluate n) program).1 =
        (s.interpretBy (Eval.evaluate n) program).1 := by
  have lawful := following_lawful law
  obtain ⟨tied', left, right, concluded⟩ := lawful.interpretBy (lawful.simulates_evaluate n) tied
    (following_program tied.scoping.2.1 root root' accepted)
  exact ⟨tied', left, right, eq_of_concluded concluded⟩

attribute [ext] Store Session

/-- The stores of sessions that run side by side are the same. -/
theorem store_eq_of_following (tied : (following known).Tied s s') : s'.store = s.store := by
  have elements (a : ArrayId) : s'.store.elements a = s.store.elements a := by
    refine Array.toList_inj.1 ?_
    have alike := tied.elements a
    revert alike
    generalize (s.store.elements a).toList = vs, (s'.store.elements a).toList = vs'
    intro alike
    induction alike with
    | nil => rfl
    | cons h _ ih => exact congrArg₂ List.cons (following_alike h) ih
  have arrays : s'.store.arrays = s.store.arrays := by
    refine Array.ext tied.arrays fun i hi hi' => ?_
    have same := elements ⟨i⟩
    simpa [Store.elements, hi, hi'] using same
  exact Store.ext tied.scoping.1 arrays tied.functions

/-! ### A session with itself -/

/-- A session runs side by side with itself. It is sound, and what it evaluates is placed. -/
def placed : Tie := following Session.KnowSame

theorem placed_lawful : placed.Lawful := following_lawful Session.persists_knowSame

/-- Sessions that are tied in this way are the same. -/
theorem eq_of_placed (tied : placed.Tied s s') (frame : s'.frame = s.frame) : s' = s := by
  obtain ⟨-, -, hops, programs⟩ := tied.scoping
  exact Session.ext (store_eq_of_following tied) frame hops tied.fresh programs
    tied.baseDirectory tied.importing tied.policy tied.output tied.input tied.files tied.now
    tied.memory

end Tie

/-! ### Sessions that can be reached -/

namespace Session

/-- The sessions that lead from a new one by compiling texts and evaluating programs that were
accepted, in any order. Between these the world around the programs can change. -/
inductive Reachable : Session → Prop
  /-- A new session. -/
  | new (files : FileSystem) (base : Path) (policy : NestedErrors) (input : Input) (now : Float) :
    Reachable (.new files base policy input now)
  /-- A text is compiled. -/
  | compile {s : Session} (h : Reachable s) (source : String) : Reachable (s.compile source).2
  /-- A program that was accepted is evaluated. -/
  | interpret {s : Session} (h : Reachable s) {program : List Expr}
    (accepted : (s.baseDirectory, program) ∈ s.programs) (n : Nat) :
    Reachable (s.interpretBy (Eval.evaluate n) program).2
  /-- The world around the programs changes. -/
  | adjust {s : Session} (h : Reachable s) (base : Path) (policy : NestedErrors)
    (output : Capture) (input : Input) (files : FileSystem) (now : Float) (memory : Nat) :
    Reachable { s with
      baseDirectory := base
      policy := policy
      output := output
      input := input
      files := files
      now := now
      memory := memory }

theorem sound_new (files : FileSystem) (base : Path) (policy : NestedErrors) (input : Input)
    (now : Float) : (new files base policy input now).Sound where
  root := by
    have root : Store.empty.Chain Store.root [] := ⟨rfl, by simp [Store.HasFrame, Store.empty,
      Store.root], by simp [Store.parent?, Store.empty, Store.root]⟩
    exact root.mono Store.empty.sameTree_addBuiltins.extends
  unopened := Store.empty.sameTree_addBuiltins.origin Store.root
  values f name v hv := by
    obtain old | ⟨id, b, -, -, -, rfl⟩ := Store.lookup?_addBuiltins hv
    · rw [Store.lookup?_empty] at old
      cases old
    · exact .builtin id trivial
  numbered := by simp [new]
  apart := by simp [new]
  located := by simp [new]
  checked := by simp [new]
  unknown := by simp [new]

/-- In all sessions that can be reached what is evaluated is placed. -/
theorem Reachable.tied {s : Session} (h : s.Reachable) :
    s.frame = Store.root ∧ Tie.placed.Tied s s := by
  induction h with
  | new files base policy input now =>
    have elements (a : ArrayId) :
        (Session.new files base policy input now).store.elements a = #[] := by
      rw [Store.elements, Session.new, Store.arrays_addBuiltins]
      rfl
    refine ⟨rfl, rfl, fun a => ?_, rfl, rfl, rfl, rfl, rfl, rfl, rfl, rfl, rfl, rfl, rfl,
      sound_new files base policy input now, rfl, rfl⟩
    rw [elements a]
    exact .nil
  | @compile s h source ih =>
    obtain ⟨root, tied⟩ := ih
    refine ⟨(s.grows_compile source).frame.trans root, ?_⟩
    exact Tie.placed_lawful.tied_compile trivial tied root root source
  | @interpret s h program accepted n ih =>
    obtain ⟨root, tied⟩ := ih
    obtain ⟨tied', grows, -, -⟩ :=
      Tie.following_interpretBy persists_knowSame tied root root accepted n
    exact ⟨grows.frame.trans root, tied'⟩
  | @adjust s h base policy output input files now memory ih =>
    obtain ⟨root, tied⟩ := ih
    have same : s.SameScopes { s with
        baseDirectory := base, policy := policy, output := output, input := input, files := files,
        now := now, memory := memory } := ⟨rfl, rfl, rfl, Nat.le_refl _⟩
    have elements := Tie.placed_lawful.elements_mono tied same.extends same.extends
    have scoping := Tie.placed_lawful.scoping_congr tied.scoping same same
    exact ⟨root, ⟨rfl, elements, rfl, rfl, rfl, rfl, rfl, rfl, rfl, rfl, rfl, rfl, scoping⟩⟩

theorem Reachable.sound {s : Session} (h : s.Reachable) : s.Sound := h.tied.2.scoping.2.1

end Session

end FoxScript
