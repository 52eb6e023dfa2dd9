import FoxScript.Proofs.Expr.Schedule
import FoxScript.Proofs.Session.Failure
import FoxScript.Proofs.Session.Placement

/-!
# Disciplines

A discipline says what holds of a session, of the functions that are held in it, and of an
expression that is about to be evaluated, and which failures there can be. If it is lawful, all this
is kept by every evaluation: part by part, a part being ready once those before it have had their
values. An evaluation can be watched, so that it stops before an expression that is not allowed;
what is then shown of it holds of every evaluation that does not come to such an expression.

## Main definitions

* `Session.Advances`: what evaluations keep, with the names that are bound.
* `Session.Includes`: the expressions of accepted programs.
* `Session.Starts`, `Session.Nests`, `Session.Looks`: what the evaluation of an expression does.
* `Discipline`, `Discipline.Lawful`: what is kept, and what is asked of it.
* `Discipline.Does`: what a step of evaluation, watched and not watched, does.

## Main statements

* `Discipline.Does.bind`: steps one after the other.
-/
namespace FoxScript

/-! ### Sessions that advance -/

namespace Session

/-- What the later of two sessions keeps of the earlier: besides what all later sessions keep, the
names of its frames. -/
structure Advances (s t : Session) : Prop extends s.Extends t where
  /-- Names stay bound. -/
  names : ∀ f x, (s.store.lookup? f x).isSome → (t.store.lookup? f x).isSome

/-- The name is bound in the frame of the session. -/
def Binds (s : Session) (x : String) : Prop := (s.store.lookup? s.frame x).isSome

/-- All names are bound that an expression has bound for sure once it has a value. -/
def Settled (s : Session) (e : Expr) : Prop := ∀ x ∈ e.certain, s.Binds x

variable {s t u : Session}

namespace Advances

theorem refl (s : Session) : s.Advances s := ⟨.refl s, fun _ _ => id⟩

theorem trans (h : s.Advances t) (g : t.Advances u) : s.Advances u :=
  ⟨h.toExtends.trans g.toExtends, fun f x bound => g.names f x (h.names f x bound)⟩

theorem binds (h : s.Advances t) (frame : t.frame = s.frame) {x : String} (bound : s.Binds x) :
    t.Binds x := by
  rw [Binds, frame]
  exact h.names _ _ bound

theorem settled (h : s.Advances t) (frame : t.frame = s.frame) {e : Expr} (settled : s.Settled e) :
    t.Settled e := fun x hx => h.binds frame (settled x hx)

end Advances

theorem SameScopes.advances (h : s.SameScopes t) : s.Advances t :=
  ⟨h.extends, fun f x => by rw [Store.lookup?_of_frames_eq h.frames]; exact id⟩

theorem advances_define (s : Session) (x : String) (v : Value) : s.Advances (s.define x v) := by
  refine ⟨(s.grows_define x v).toExtends, fun f y bound => ?_⟩
  by_cases same : f = s.frame ∧ y = x
  · obtain ⟨rfl, rfl⟩ := same
    rw [define, Store.lookup?_define _ (Store.hasFrame_of_lookup? bound), if_pos ⟨rfl, rfl⟩]
    rfl
  · rw [define, Store.lookup?_define_of_ne v same]
    exact bound

theorem binds_define (active : s.store.HasFrame s.frame) (x : String) (v : Value) :
    (s.define x v).Binds x := by
  simp [Binds, define, Store.lookup?_define _ active]

theorem advances_replace (s : Session) (f : FrameId) (x : String) (v : Value) :
    s.Advances (s.replace f x v) := by
  refine ⟨(s.grows_replace f x v).toExtends, fun g y bound => ?_⟩
  rw [replace, Store.lookup?_replace]
  split
  · rfl
  · exact bound

theorem advances_enter (s : Session) (origin : Origin) (f : FrameId) :
    s.Advances (s.enter origin f) :=
  ⟨s.extends_enter origin f, fun g x bound => (s.store.lookup?_branch origin f g x) ▸ bound⟩

/-- A frame keeps what opened it. -/
theorem Advances.origin_enter {origin : Origin} {f : FrameId}
    (h : (s.enter origin f).Advances t) (frame : t.frame = (s.enter origin f).frame) :
    t.store.origin? t.frame = some origin := by
  have kept := h.store.origin _ (s.store.hasFrame_branch origin f)
  exact frame ▸ kept.trans (s.store.origin?_branch origin f)

theorem store_compile (s : Session) (source : String) : (s.compile source).2.store = s.store := by
  obtain ⟨fresh, hops, programs, same⟩ := s.compile_snd source
  rw [same]

theorem memory_compile (s : Session) (source : String) :
    (s.compile source).2.memory = s.memory := by
  obtain ⟨fresh, hops, programs, same⟩ := s.compile_snd source
  rw [same]

theorem advances_compile (s : Session) (source : String) : s.Advances (s.compile source).2 :=
  ⟨(s.grows_compile source).toExtends, fun f x => by rw [store_compile]; exact id⟩

/-! ### Expressions of accepted programs -/

/-- The expression stands in a program that was accepted. -/
def Includes (s : Session) (e : Expr) : Prop := ∃ q ∈ s.programs, ∃ Γ, Site q.2 Γ e

namespace Includes

variable {e : Expr}

theorem of_mem {q : Path × List Expr} (hq : q ∈ s.programs) (he : e ∈ q.2) : s.Includes e :=
  ⟨q, hq, [], .of_mem he⟩

theorem mono (h : s.Includes e) (advances : s.Advances t) : t.Includes e := by
  obtain ⟨q, hq, site⟩ := h
  exact ⟨q, advances.programs hq, site⟩

theorem part (h : s.Includes e) {p : List Expr × Expr} (hp : p ∈ e.schedule) : s.Includes p.2 := by
  obtain ⟨q, hq, Γ, site⟩ := h
  obtain ⟨Δ, inside⟩ := Expr.inside_of_schedule hp Γ
  exact ⟨q, hq, Δ, site.inside inside⟩

theorem member {es : List Expr} (h : s.Includes (.block es)) (he : e ∈ es) : s.Includes e := by
  obtain ⟨q, hq, Γ, site⟩ := h
  obtain ⟨Δ, mem⟩ := Expr.exists_mem_inTurn (Γ := Γ.enter (.block es) []) he
  exact ⟨q, hq, Δ, site.part mem⟩

theorem body {name : Option Token} {params : List Token}
    (h : s.Includes (.function name params e)) : s.Includes e := by
  obtain ⟨q, hq, Γ, site⟩ := h
  exact ⟨q, hq, _, site.part (List.mem_singleton_self _)⟩

end Includes

/-! ### What an evaluation does -/

/-- The expression is the body of the function in whose call the session is, or it stands at the top
of a program and the session is in the frame of global names: a `break` that leaves the expression
has no loop to end. -/
def Starts (s : Session) (e : Expr) : Prop :=
  (∃ params, s.store.origin? s.frame = some (.call params e)) ∨
    s.frame = Store.root ∧ ∃ q ∈ s.programs, e ∈ q.2

/-- The expression runs a program inside the program: it imports a file, or calls the builtin
function that evaluates a text. -/
inductive Nests (s : Session) : Expr → Prop
  /-- A file is imported. -/
  | import (path : Token) : Nests s (.import path)
  /-- A text is evaluated. -/
  | eval {n : Nat} {callee : Expr} {id : FunctionId} {t : Session}
    (h : Eval.evaluate n callee s = .ok (.function (.builtin id .eval)) t) (args : List Expr)
    (close : Token) : Nests s (.call callee args close)

/-- Evaluated in `s`, the expression looks up the name of a use in the session `t`: an assignment
looks its name up after its parts have had their values. -/
inductive Looks (s : Session) : Expr → Session → NodeId → Token → Prop
  /-- A name is read. -/
  | variable (id : NodeId) (x : Token) : Looks s (.variable id x) s id x
  /-- A name gets a new value. -/
  | assign {n : Nat} {e : Expr} {v : Value} {t : Session} (h : Eval.evaluate n e s = .ok v t)
    (id : NodeId) (x : Token) : Looks s (.assign id x e) t id x
  /-- An element of the array that has a name gets a new value. -/
  | assignElement {n m : Nat} {i e : Expr} {v w : Value} {t u : Session}
    (hi : Eval.evaluate n i s = .ok v t) (he : Eval.evaluate m e t = .ok w u) (id : NodeId)
    (x : Token) : Looks s (.assignElement id x i e) u id x

end Session

/-! ### Failures -/

/-- A failure is another one, or it is that of a nested program which fails so. -/
inductive Diagnostic.Contains : Diagnostic → Diagnostic → Prop
  /-- The failure itself. -/
  | self (d : Diagnostic) : Contains d d
  /-- A failure of an import. -/
  | import {ds : List Diagnostic} {d c : Diagnostic} (l : Location) (path : String) (mem : d ∈ ds)
    (h : Contains d c) : Contains (.runtime l (.failedImport path (.nested ds))) c
  /-- A failure of the evaluation of a text. -/
  | eval {ds : List Diagnostic} {d c : Diagnostic} (l : Location) (mem : d ∈ ds)
    (h : Contains d c) : Contains (.runtime l (.failedEval ds)) c

/-- Whether a fault is neither that of a `break` nor that of a nested program. -/
def Fault.isPlain : Fault → Bool
  | .breakOutsideLoop | .failedImport _ (.nested _) | .failedEval _ => false
  | _ => true

theorem Diagnostic.Contains.eq_of_isPlain {l : Location} {f : Fault} {c : Diagnostic}
    (h : (Diagnostic.runtime l f).Contains c) (plain : f.isPlain) : c = .runtime l f := by
  cases h with
  | self => rfl
  | «import» | eval => cases plain

theorem Diagnostic.Contains.eq_of_isStatic {d c : Diagnostic} (h : d.Contains c)
    (static : d.isStatic) : c = d := by
  cases h with
  | self => rfl
  | «import» | eval => cases static

/-- The kinds of operators on two values that evaluation knows. -/
def Eval.operators : List TokenKind :=
  [.equalEqual, .bangEqual, .plus, .minus, .star, .slash, .greater, .greaterEqual, .less,
    .lessEqual]

/-- The fault of the system that an expression by itself may lead to. -/
def Expr.slip? : Expr → Option SystemFault
  | .binary _ op _ =>
    if op.kind ∈ Eval.operators then none else some (.unknownOperator op.lexeme)
  | .orPattern _ pipe _ => some (.strayPattern pipe.lexeme)
  | .anyPattern wildcard => some (.strayPattern wildcard.lexeme)
  | _ => none

/-! ### Disciplines -/

/-- What is to be kept by evaluations. -/
structure Discipline where
  /-- What holds of a session. -/
  sound : Session → Prop
  /-- What holds of a function that is held in a session. -/
  closure : Session → Closure → Prop
  /-- What holds of an expression that is about to be evaluated in a session. -/
  ready : Session → Expr → Prop
  /-- What is allowed to be evaluated. -/
  watch : Session → Expr → Prop
  /-- With what an evaluation can fail that ends in a session. -/
  raises : Session → Diagnostic → Prop

namespace Discipline

variable (D : Discipline)

/-- A frame can be opened: for a block that is ready, or for a function that can be called. -/
def Opens (s : Session) (f : FrameId) : Origin → Prop
  | .root => False
  | .block es => D.ready s (.block es)
  | .call params body => D.closure s ⟨params, body, f⟩

/-- What is asked of a discipline. -/
structure Lawful : Prop where
  /-- What holds of functions holds in later sessions. -/
  closure_mono {s t : Session} {c : Closure} : D.closure s c → s.Advances t → D.closure t c
  /-- An expression that is ready is so while an evaluation goes on. -/
  ready_mono {s t : Session} {e : Expr} : D.ready s e → s.Advances t → t.frame = s.frame →
    D.ready t e
  /-- A failure stays possible. -/
  raises_mono {s t : Session} {d : Diagnostic} : D.raises s d → s.Advances t → D.raises t d
  /-- Soundness is a matter of the scopes and of the frame of the session, to which an evaluation
  comes back. -/
  sound_back {s t u : Session} : D.sound s → s.Advances t → D.sound t → t.SameScopes u →
    u.frame = s.frame → D.sound u
  /-- An expression can bind its name in its frame. -/
  define {s t : Session} {e : Expr} {x : Token} (v : Value) : D.ready s e → D.watch s e →
    x ∈ e.binding? → s.Advances t → t.frame = s.frame → D.sound t → D.sound (t.define x.lexeme v)
  /-- A parameter can be bound in the frame of a call. -/
  params {s t : Session} {c : Closure} {x : Token} (v : Value) : D.sound s → D.closure s c →
    x ∈ c.params → (s.enter (.call c.params c.body) c.frame).Advances t →
    t.frame = (s.enter (.call c.params c.body) c.frame).frame → D.sound t →
    D.sound (t.define x.lexeme v)
  /-- An assignment can be made. -/
  assign {s t : Session} {id : NodeId} {x : Token} {e : Expr} {n : Nat} {v : Value} {f : FrameId} :
    D.watch s (.assign id x e) → Eval.evaluate n e s = .ok v t → t.owner id x = .ok f →
    D.sound t → D.sound (t.replace f x.lexeme v)
  /-- A frame can be entered. -/
  enter {s : Session} {origin : Origin} {f : FrameId} : D.sound s → D.Opens s f origin →
    D.sound (s.enter origin f)
  /-- A nested program can be started. -/
  nests {s t : Session} {e : Expr} : D.watch s e → s.Nests e → s.Advances t → D.sound t →
    ∀ u, t.SameScopes u → u.frame = Store.root → D.sound u
  /-- A text can be compiled. -/
  compile {s t : Session} {source : String} {program : List Expr} : D.sound s →
    s.compile source = (.ok program, t) → D.sound t
  /-- A program that was accepted can be started. -/
  programs {s : Session} {q : Path × List Expr} {e : Expr} : D.sound s → s.frame = Store.root →
    q ∈ s.programs → e ∈ q.2 → D.ready s e
  /-- A part is ready once those before it have had their values. -/
  parts {s : Session} {e : Expr} {p : List Expr × Expr} : D.ready s e → p ∈ e.schedule →
    (∀ d ∈ p.1, s.Settled d) → D.ready s p.2
  /-- So is a member of a block, in the frame of the block. -/
  members {s t : Session} {es : List Expr} {p : List Expr × Expr} : D.ready s (.block es) →
    (s.enter (.block es) s.frame).Advances t → t.frame = (s.enter (.block es) s.frame).frame →
    p ∈ Expr.inOrder [] es → (∀ d ∈ p.1, t.Settled d) → D.ready t p.2
  /-- A function can be made. -/
  makes {s t : Session} {name : Option Token} {params : List Token} {e : Expr} :
    D.ready s (.function name params e) → s.Advances t → t.frame = s.frame →
    (∀ x ∈ name, t.Binds x.lexeme) → D.closure t ⟨params, e, s.frame⟩
  /-- A function can be called. -/
  calls {s t : Session} {c : Closure} : D.closure s c →
    (s.enter (.call c.params c.body) c.frame).Advances t →
    t.frame = (s.enter (.call c.params c.body) c.frame).frame →
    (∀ x ∈ c.params, t.Binds x.lexeme) → D.ready t c.body
  /-- A program can fail while it runs. -/
  raises_runtime (s : Session) (l : Location) (f : Fault) : f ≠ .breakOutsideLoop →
    D.raises s (.runtime l f)
  /-- A text can have faults. -/
  raises_static (s : Session) (d : Diagnostic) : d.isStatic → D.raises s d
  /-- A `break` can leave a program or a function. -/
  raises_stray {s : Session} {e : Expr} {k : Token} : D.sound s → D.ready s e → D.watch s e →
    s.Starts e → k ∈ e.exposed → D.raises s (.runtime k.location .breakOutsideLoop)
  /-- An expression can be one that evaluation does not know. -/
  raises_slip {s : Session} {e : Expr} {f : SystemFault} : D.ready s e → f ∈ e.slip? →
    D.raises s (.system f)

/-! ### What is kept -/

/-- What holds of a value that is held in a session. -/
def Holds (s : Session) (v : Value) : Prop :=
  ∀ id name params body f, v = .function (.closure id name params body f) →
    D.closure s ⟨params, body, f⟩

/-- A failure that is possible, with all failures inside. -/
def Admits (s : Session) (d : Diagnostic) : Prop := ∀ c, d.Contains c → D.raises s c

/-- What is kept of a session. -/
structure Tidy (s : Session) : Prop where
  /-- The session is sound. -/
  sound : D.sound s
  /-- The session has its frame. -/
  active : s.store.HasFrame s.frame
  /-- Frames hold such functions only. -/
  values : ∀ f x v, s.store.lookup? f x = some v → D.Holds s v
  /-- So do arrays. -/
  elements : ∀ a, ∀ v ∈ s.store.elements a, D.Holds s v

/-- The session in which an evaluation ends. -/
structure After (s t : Session) : Prop where
  /-- What is kept of sessions is kept. -/
  tidy : D.Tidy t
  /-- Nothing is forgotten. -/
  advances : s.Advances t
  /-- The evaluation ends in the frame in which it starts. -/
  frame : t.frame = s.frame

/-- An exit that is possible. -/
inductive Exits (t : Session) (breaks : Session → Token → Prop) : Exit → Prop
  /-- A `break` on its way. -/
  | broke {k : Token} (h : breaks t k) : Exits t breaks (.broke k)
  /-- A failure. -/
  | failed {d : Diagnostic} (h : D.Admits t d) : Exits t breaks (.failed d)
  /-- An element that cannot be replaced. -/
  | crashed : Exits t breaks .crashed
  /-- A budget that is used up. -/
  | exhausted : Exits t breaks .exhausted

/-- An end of an evaluation that keeps what is to be kept, with a value of which `post` holds. -/
inductive Ends {α : Type} (s : Session) (breaks : Session → Token → Prop)
    (post : Session → α → Prop) : EStateM.Result Exit Session α → Prop
  /-- It ends with a value. -/
  | ok {t : Session} {a : α} (after : D.After s t) (h : post t a) : Ends s breaks post (.ok a t)
  /-- It ends without one. -/
  | error {t : Session} {e : Exit} (after : D.After s t) (h : D.Exits t breaks e) :
    Ends s breaks post (.error e t)

/-- What a step of evaluation does. The first step is that which is watched; unless it is stopped,
it does what the second does. -/
structure Does {α : Type} (s : Session) (breaks : Session → Token → Prop)
    (post : Session → α → Prop) (act act' : Eval α) : Prop where
  /-- How the step ends. -/
  ends : D.Ends s breaks post (act s)
  /-- It ends as if it was not watched, unless something is not allowed. -/
  same : act s = act' s ∨ (∃ s e, ¬D.watch s e) ∧ ∃ t, act s = .error .exhausted t

variable {D} {s t u : Session}

theorem Holds.of_data {v : Value} (data : (v.kind == .function) = false) : D.Holds s v := by
  rintro id name params body f rfl
  cases data

theorem Holds.builtin (id : FunctionId) (b : Builtin) : D.Holds s (.function (.builtin id b)) := by
  intro _ _ _ _ _ h
  cases h

theorem Holds.mono (law : D.Lawful) {v : Value} (h : D.Holds s v) (advances : s.Advances t) :
    D.Holds t v := fun id name params body f hv =>
  law.closure_mono (h id name params body f hv) advances

theorem Admits.mono (law : D.Lawful) {d : Diagnostic} (h : D.Admits s d)
    (advances : s.Advances t) : D.Admits t d := fun c hc => law.raises_mono (h c hc) advances

theorem Admits.of_isPlain (law : D.Lawful) (l : Location) {f : Fault} (plain : f.isPlain) :
    D.Admits s (.runtime l f) := by
  intro c hc
  rw [hc.eq_of_isPlain plain]
  refine law.raises_runtime s l f ?_
  rintro rfl
  cases plain

theorem Admits.of_isStatic (law : D.Lawful) {d : Diagnostic} (static : d.isStatic) :
    D.Admits s d := by
  intro c hc
  rw [hc.eq_of_isStatic static]
  exact law.raises_static s d static

theorem Admits.system {f : SystemFault} (h : D.raises s (.system f)) : D.Admits s (.system f) := by
  intro c hc
  cases hc
  exact h

theorem Exits.mono (law : D.Lawful) {breaks breaks' : Session → Token → Prop} {e : Exit}
    (h : D.Exits s breaks e) (hb : ∀ k, breaks s k → breaks' t k) (advances : s.Advances t) :
    D.Exits t breaks' e := by
  cases h with
  | broke h => exact .broke (hb _ h)
  | failed h => exact .failed (h.mono law advances)
  | crashed => exact .crashed
  | exhausted => exact .exhausted

/-- Where nothing is asked of functions, a sound session that has its frame is tidy. -/
theorem Tidy.of_sound (all : ∀ c, D.closure s c) (sound : D.sound s)
    (active : s.store.HasFrame s.frame) : D.Tidy s where
  sound := sound
  active := active
  values _ _ _ _ _ _ _ _ _ _ := all _
  elements _ _ _ _ _ _ _ _ _ := all _

/-- A session that differs in nothing that functions depend on holds what was held before. -/
theorem Tidy.of_store_eq (law : D.Lawful) (h : D.Tidy s) (same : s.SameScopes t)
    (arrays : t.store.arrays = s.store.arrays) (sound : D.sound t)
    (active : t.store.HasFrame t.frame) : D.Tidy t where
  sound := sound
  active := active
  values f x v hv := by
    rw [Store.lookup?_of_frames_eq same.frames] at hv
    exact (h.values f x v hv).mono law same.advances
  elements a v hv := by
    have elements : t.store.elements a = s.store.elements a := by simp [Store.elements, arrays]
    exact (h.elements a v (elements ▸ hv)).mono law same.advances

theorem After.refl (h : D.Tidy s) : D.After s s := ⟨h, .refl s, rfl⟩

theorem After.trans (h : D.After s t) (g : D.After t u) : D.After s u :=
  ⟨g.tidy, h.advances.trans g.advances, g.frame.trans h.frame⟩

theorem After.binds (h : D.After s t) {x : String} (bound : s.Binds x) : t.Binds x :=
  h.advances.binds h.frame bound

theorem After.settled (h : D.After s t) {e : Expr} (settled : s.Settled e) : t.Settled e :=
  h.advances.settled h.frame settled

/-- A change of what is no matter of scopes, in the same frame. -/
theorem After.of_sameScopes (law : D.Lawful) (h : D.Tidy s) (same : s.SameScopes t)
    (arrays : t.store.arrays = s.store.arrays) (frame : t.frame = s.frame) : D.After s t := by
  refine ⟨h.of_store_eq law same arrays ?_ ?_, same.advances, frame⟩
  · exact law.sound_back h.sound (.refl s) h.sound same frame
  · rw [frame]
    exact same.extends.store.hasFrame h.active

/-! ### Steps -/

variable {α β : Type} {breaks breaks' : Session → Token → Prop} {post : Session → α → Prop}
  {post' : Session → β → Prop} {act act' : Eval α}

theorem Ends.weaken {post'' : Session → α → Prop} {r : EStateM.Result Exit Session α}
    (h : D.Ends s breaks post r) (hb : ∀ t k, D.After s t → breaks t k → breaks' t k)
    (hp : ∀ t a, D.After s t → post t a → post'' t a) : D.Ends s breaks' post'' r := by
  cases h with
  | ok after h => exact .ok after (hp _ _ after h)
  | error after h =>
    refine .error after ?_
    cases h with
    | broke h => exact .broke (hb _ _ after h)
    | failed h => exact .failed h
    | crashed => exact .crashed
    | exhausted => exact .exhausted

theorem Ends.from {r : EStateM.Result Exit Session α} (h : D.Ends t breaks post r)
    (after : D.After s t) : D.Ends s breaks post r := by
  cases h with
  | ok g h => exact .ok (after.trans g) h
  | error g h => exact .error (after.trans g) h

/-- An evaluation that fails does so in a possible way. -/
theorem Ends.admits {d : Diagnostic} (h : D.Ends s breaks post (.error (.failed d) t)) :
    D.Admits t d := by
  cases h with
  | error after exits =>
    cases exits with
    | failed admits => exact admits

/-- A `break` that leaves an evaluation is one that may. -/
theorem Ends.leaves {k : Token} (h : D.Ends s breaks post (.error (.broke k) t)) : breaks t k := by
  cases h with
  | error after exits =>
    cases exits with
    | broke h => exact h

namespace Does

theorem weaken {post'' : Session → α → Prop} (h : D.Does s breaks post act act')
    (hb : ∀ t k, D.After s t → breaks t k → breaks' t k)
    (hp : ∀ t a, D.After s t → post t a → post'' t a) :
    D.Does s breaks' post'' act act' :=
  ⟨h.ends.weaken hb hp, h.same⟩

theorem imp {post'' : Session → α → Prop} (h : D.Does s breaks post act act')
    (hp : ∀ t a, D.After s t → post t a → post'' t a) : D.Does s breaks post'' act act' :=
  h.weaken (fun _ _ _ => id) hp

theorem leave (h : D.Does s breaks post act act')
    (hb : ∀ t k, D.After s t → breaks t k → breaks' t k) : D.Does s breaks' post act act' :=
  h.weaken hb fun _ _ _ => id

/-- A step that is not watched. -/
theorem of_ends (h : D.Ends s breaks post (act s)) : D.Does s breaks post act act := ⟨h, .inl rfl⟩

/-- A step that leads to a value. -/
theorem value {a : α} {t : Session} (h : act s = .ok a t) (after : D.After s t) (hp : post t a) :
    D.Does s breaks post act act :=
  of_ends (h ▸ .ok after hp)

theorem pure (tidy : D.Tidy s) {a : α} (h : post s a) :
    D.Does s breaks post (pure a) (pure a) :=
  value rfl (.refl tidy) h

theorem throw (tidy : D.Tidy s) {e : Exit} (h : D.Exits s breaks e) :
    D.Does s breaks post (throw e) (throw e) :=
  of_ends (.error (.refl tidy) h)

/-- Steps one after the other. The second may use what the first, not watched, has led to. -/
theorem bind {next next' : α → Eval β} (h : D.Does s breaks post act act')
    (hn : ∀ t a, D.After s t → act' s = .ok a t → post t a →
      D.Does t breaks post' (next a) (next' a)) :
    D.Does s breaks post' (act >>= next) (act' >>= next') := by
  obtain ⟨ends, same⟩ := h
  cases ha : act s with
  | ok a t =>
    rw [ha] at ends same
    obtain same | ⟨-, _, same⟩ := same
    swap
    · cases same
    cases ends with
    | ok after hp =>
      have second := hn t a after same.symm hp
      refine ⟨?_, ?_⟩
      · rw [Eval.bind_of_ok ha]
        exact second.ends.from after
      · rw [Eval.bind_of_ok ha, Eval.bind_of_ok same.symm]
        exact second.same
  | error e t =>
    rw [ha] at ends same
    cases ends with
    | error after he =>
      refine ⟨?_, ?_⟩
      · rw [Eval.bind_of_error ha]
        exact .error after he
      · rw [Eval.bind_of_error ha]
        obtain same | ⟨stops, u, same⟩ := same
        · exact .inl (Eval.bind_of_error same.symm).symm
        · cases same
          exact .inr ⟨stops, t, rfl⟩

/-- Reading the session before another step. -/
theorem get {next next' : Session → Eval β} (h : D.Does s breaks post' (next s) (next' s)) :
    D.Does s breaks post' (MonadState.get >>= next) (MonadState.get >>= next') := ⟨h.ends, h.same⟩

theorem readStore (tidy : D.Tidy s) {f : Store → α} (h : post s (f s.store)) :
    D.Does s breaks post (Eval.readStore f) (Eval.readStore f) :=
  value rfl (.refl tidy) h

/-- Reading the store before another step. -/
theorem look {f : Store → α} {next next' : α → Eval β}
    (h : D.Does s breaks post' (next (f s.store)) (next' (f s.store))) :
    D.Does s breaks post' (Eval.readStore f >>= next) (Eval.readStore f >>= next') :=
  ⟨h.ends, h.same⟩

theorem fail (law : D.Lawful) (tidy : D.Tidy s) (x : Token) {f : Fault} (plain : f.isPlain) :
    D.Does s breaks post (Eval.fail x f) (Eval.fail x f) :=
  throw tidy (.failed (.of_isPlain law x.location plain))

theorem ofExcept (law : D.Lawful) (tidy : D.Tidy s) (x : Token) {r : Except Fault α}
    (h : ∀ a, r = .ok a → post s a) (plain : ∀ f, r = .error f → f.isPlain) :
    D.Does s breaks post (Eval.ofExcept x r) (Eval.ofExcept x r) := by
  cases r with
  | ok a => exact pure tidy (h a rfl)
  | error f => exact fail law tidy x (plain f rfl)

theorem ite {c : Prop} [Decidable c] {a b a' b' : Eval α} (pos : c → D.Does s breaks post a a')
    (neg : ¬c → D.Does s breaks post b b') :
    D.Does s breaks post (if c then a else b) (if c then a' else b') := by
  by_cases h : c
  · rw [if_pos h, if_pos h]
    exact pos h
  · rw [if_neg h, if_neg h]
    exact neg h

/-! ### What happens to ends -/

/-- A step that does another step, maybe in another session, and changes how it ends. A step that is
stopped stays so. -/
theorem change (change : EStateM.Result Exit Session α → EStateM.Result Exit Session β)
    {other other' : Eval β} (h : D.Does u breaks post act act') (eq : other s = change (act u))
    (eq' : other' s = change (act' u))
    (ends : ∀ r, D.Ends u breaks post r → D.Ends s breaks' post' (change r))
    (stop : ∀ t, ∃ t', change (.error .exhausted t) = .error .exhausted t') :
    D.Does s breaks' post' other other' := by
  refine ⟨eq ▸ ends _ h.ends, ?_⟩
  rw [eq, eq']
  obtain same | ⟨stops, t, same⟩ := h.same
  · exact .inl (congrArg change same)
  · obtain ⟨t', stopped⟩ := stop t
    exact .inr ⟨stops, t', same ▸ stopped⟩

/-- A step that a `break` may end. If there is no value, a `break` has ended it. -/
theorem untilBreak (h : D.Does s breaks post act act') :
    D.Does s breaks' (fun t r => (∀ a, r = some a → post t a) ∧ (r = none → ∃ u k, breaks u k))
      (Eval.untilBreak act) (Eval.untilBreak act') := by
  refine h.change (fun r => Eval.untilBreak (fun _ => r) s) rfl rfl (fun r ends => ?_)
    fun t => ⟨t, rfl⟩
  cases ends with
  | ok after hp => exact .ok after ⟨fun a ha => Option.some.inj ha ▸ hp, nofun⟩
  | error after he =>
    cases he with
    | broke hk => exact .ok after ⟨nofun, fun _ => ⟨_, _, hk⟩⟩
    | failed hd => exact .error after (.failed hd)
    | crashed => exact .error after .crashed
    | exhausted => exact .error after .exhausted

/-- A step that no `break` may leave. -/
theorem confined (h : D.Does s breaks post act act')
    (stray : ∀ t k, D.After s t → breaks t k →
      D.raises t (.runtime k.location .breakOutsideLoop)) :
    D.Does s breaks' post (Eval.confined act) (Eval.confined act') := by
  refine h.change (fun r => Eval.confined (fun _ => r) s) rfl rfl (fun r ends => ?_)
    fun t => ⟨t, rfl⟩
  cases ends with
  | ok after hp => exact .ok after hp
  | error after he =>
    cases he with
    | @broke k hk =>
      refine .error after (.failed fun c hc => ?_)
      cases hc
      exact stray _ k after hk
    | failed hd => exact .error after (.failed hd)
    | crashed => exact .error after .crashed
    | exhausted => exact .error after .exhausted

end Does

/-- What a nested program gives: a value, or failures that are possible. -/
def Gives (D : Discipline) (t : Session) : Except (List Diagnostic) Value → Prop
  | .ok v => D.Holds t v
  | .error ds => ∀ d ∈ ds, D.Admits t d

theorem Does.contained {act act' : Eval Value} (h : D.Does s breaks D.Holds act act') :
    D.Does s breaks D.Gives (Eval.contained act) (Eval.contained act') := by
  refine h.change (fun r => Eval.contained (fun _ => r) s) rfl rfl (fun r ends => ?_)
    fun t => ⟨t, rfl⟩
  cases ends with
  | ok after hp => exact .ok after hp
  | error after he =>
    cases he with
    | broke hk => exact .error after (.broke hk)
    | failed hd => exact .ok after (List.forall_mem_singleton.2 hd)
    | crashed => exact .error after .crashed
    | exhausted => exact .error after .exhausted

/-- A step that is done elsewhere: in a session that is changed, and changed back at the end. -/
theorem Does.elsewhere (law : D.Lawful) {other other' : Eval α} {back : Session → Session}
    {post'' : Session → α → Prop} (h : D.Does u breaks post act act')
    (eq : other s = Eval.restored back (act u)) (eq' : other' s = Eval.restored back (act' u))
    (comes : ∀ t, D.After u t → D.After s (back t) ∧ t.Advances (back t))
    (hb : ∀ t k, breaks t k → breaks' (back t) k)
    (hp : ∀ t a, t.Advances (back t) → post t a → post'' (back t) a) :
    D.Does s breaks' post'' other other' := by
  refine h.change (Eval.restored back) eq eq' (fun r ends => ?_) fun t => ⟨back t, rfl⟩
  cases ends with
  | ok after h => exact .ok (comes _ after).1 (hp _ _ (comes _ after).2 h)
  | error after he => exact .error (comes _ after).1 (he.mono law (hb _) (comes _ after).2)

end Discipline

end FoxScript
