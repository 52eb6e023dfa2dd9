import FoxScript.Proofs.Library.Traversal
import FoxScript.Proofs.Session.Breaks

/-!
# The loop of a traversal

A function of the library that goes through an array does so in a loop. Its invariant says what the
frames of the call and of the block hold, that these frames are kept apart from all that the function
can get at which is called, and what was gathered so far. A round keeps it, whatever the call in the
round does, or the call ends the loop.

## Main definitions

* `Setting`, `Setting.Holds`: the frames of a call, and what they hold.
* `Setting.Gathering`: what is gathered, as it lies in the store.
* `Setting.Round`: the invariant of the loop.
* `Setting.Works`: what is asked of the work of a round.

## Main statements

* `Setting.Loop.round`: a round keeps the invariant, or ends as the call does.
* `Setting.Loop.runs`: what the loop comes to.
-/
namespace FoxScript

/-- The scopes in the loop where something is gathered under the name `x`, in a call with the scope
`scope`. -/
def Library.loopScopes (x : String) (scope : Scope) : List Scope :=
  [[("i", true), ("i", false), (x, true), (x, false)], scope]

/-- A call of a function of the library. -/
structure Setting where
  /-- A session in which the uses of the function are known. -/
  start : Session
  /-- The frame of the call. -/
  call : FrameId
  /-- The frame of the block in it. -/
  block : FrameId
  /-- The arrays that the call keeps for itself. -/
  kept : ArrayId → Prop
  /-- The array. -/
  xs : ArrayId
  /-- The number of its elements. -/
  n : Nat
  /-- The parameter for the function that is called. -/
  given : String
  /-- The function that is called. -/
  f : Value
  /-- The name of what is gathered. -/
  gathered : String
  /-- The scope of the call. -/
  scope : Scope

namespace Setting

variable (S : Setting)

/-- What the call keeps for itself and changes. -/
def own : Secret := ⟨fun f => f = S.block, S.kept⟩

/-- The scopes in the block. -/
def scopes : List Scope := Library.loopScopes S.gathered S.scope

/-- What resolution finds out about the names in the block. -/
structure Resolved : Prop where
  /-- The index is in the block. -/
  counter : Resolution.hopsTo? "i" S.scopes = some 0
  /-- So is what is gathered. -/
  gathered : Resolution.hopsTo? S.gathered S.scopes = some 0
  /-- They have different names. -/
  apart : S.gathered ≠ "i"
  /-- The array is a parameter. -/
  array : Resolution.hopsTo? "xs" S.scopes = some 1
  /-- So is the function. -/
  given : Resolution.hopsTo? S.given S.scopes = some 1
  /-- The builtin functions are global. -/
  natives : ∀ b ∈ [Builtin.len, .newArray, .set, .merge], Resolution.hopsTo? b.name S.scopes = none

/-- What holds as long as the call lasts: its frames hold what they hold, and are kept apart. -/
structure Holds (σ : Secret) (s : Session) : Prop where
  /-- Nothing open leads to a secret. -/
  secludes : s.store.Secludes σ
  /-- The frame of the call is secret. -/
  call : σ.frames S.call
  /-- So is the frame of the block. -/
  block : σ.frames S.block
  /-- These are two frames. -/
  apart : S.call ≠ S.block
  /-- The arrays that the call keeps for itself are secret. -/
  kept : ∀ a, S.kept a → σ.arrays a
  /-- The block lies in the call. -/
  around : s.store.parent? S.block = some S.call
  /-- The call has the array. -/
  array : s.store.lookup? S.call "xs" = some (.array S.xs)
  /-- The call has the function. -/
  function : s.store.lookup? S.call S.given = some S.f
  /-- The array is no secret. -/
  openArray : s.store.OpenArray σ S.xs
  /-- Nor does the function lead to one. -/
  openFunction : S.f.Open σ s.store
  /-- The array keeps its length. -/
  length : (s.store.elements S.xs).size = S.n
  /-- No array is lost. -/
  grown : S.start.store.arrays.size ≤ s.store.arrays.size
  /-- What is known about uses stays known. -/
  recalls : S.start.Recalls s

variable {S} {σ : Secret} {s t : Session}

namespace Holds

theorem frames (h : S.Holds σ s) (f : FrameId) (own : S.own.frames f) : σ.frames f := by
  obtain rfl : f = S.block := own
  exact h.block

/-- What changes what the call keeps for itself changes secrets. -/
theorem wide {t : Store} (h : S.Holds σ s) (g : s.store.Tends S.own t) : s.store.Tends σ t :=
  g.mono (fun f _ => h.frames f) fun a _ => h.kept a

/-- What the library does keeps this, if the block stays in its place. -/
theorem tends (h : S.Holds σ s) (g : s.Tends S.own t)
    (around : t.store.parent? S.block = some S.call) : S.Holds (σ.since s.store t.store) t := by
  have inside : s.store.HasFrame S.call := h.secludes.frames _ h.call
  have wide := h.wide g.store
  have free : ¬S.own.arrays S.xs := fun own => h.openArray.2 (h.kept _ own)
  exact {
    secludes := h.secludes.tends wide
    call := .inl h.call
    block := .inl h.block
    apart := h.apart
    kept := fun a own => .inl (h.kept a own)
    around := around
    array := (g.store.lookup? inside h.apart _).trans h.array
    function := (g.store.lookup? inside h.apart _).trans h.function
    openArray := wide.openArray h.openArray
    openFunction := wide.open h.openFunction
    length := by rw [g.store.elements h.openArray.1 free, h.length]
    grown := Nat.le_trans h.grown g.store.arrays
    recalls := h.recalls.trans g.recalls }

/-- What is discreet keeps it too. -/
theorem spares (h : S.Holds σ s) (g : s.Spares σ t) (recalls : s.Recalls t)
    (retains : s.store.Retains t.store) : S.Holds σ t where
  secludes := g.secludes
  call := h.call
  block := h.block
  apart := h.apart
  kept := h.kept
  around := (g.store.parent? h.block).trans h.around
  array := (g.store.lookup? h.call _).trans h.array
  function := (g.store.lookup? h.call _).trans h.function
  openArray := g.store.openArray h.openArray
  openFunction := g.store.open h.openFunction
  length := (retains.length _ h.openArray.1).trans h.length
  grown := Nat.le_trans h.grown retains.size
  recalls := h.recalls.trans recalls

/-- The frame of the session does not matter. -/
theorem inFrame (h : S.Holds σ s) (f : FrameId) : S.Holds σ { s with frame := f } where
  secludes := h.secludes
  call := h.call
  block := h.block
  apart := h.apart
  kept := h.kept
  around := h.around
  array := h.array
  function := h.function
  openArray := h.openArray
  openFunction := h.openFunction
  length := h.length
  grown := h.grown
  recalls := ⟨h.recalls.fresh, h.recalls.hops⟩

/-- What the library does takes no names away. -/
theorem natives (h : S.Holds σ s) (g : s.Tends S.own t) (natives : s.HasNatives) :
    t.HasNatives := by
  have free : ¬S.own.frames Store.root := fun own => h.secludes.root.2 (h.frames _ own)
  intro b hb
  rw [g.store.lookup? h.secludes.root.1 free]
  exact natives b hb

/-! ### Names -/

theorem finds_counter (resolved : S.Resolved) : { s with frame := S.block }.Finds S.scopes "i" S.block := by
  unfold Session.Finds
  rw [resolved.counter]
  rfl

theorem finds_gathered (resolved : S.Resolved) :
    { s with frame := S.block }.Finds S.scopes S.gathered S.block := by
  unfold Session.Finds
  rw [resolved.gathered]
  rfl

theorem finds_array (h : S.Holds σ s) (resolved : S.Resolved) :
    { s with frame := S.block }.Finds S.scopes "xs" S.call := by
  unfold Session.Finds
  rw [resolved.array]
  simp [Store.ancestor?, h.around]

theorem finds_given (h : S.Holds σ s) (resolved : S.Resolved) :
    { s with frame := S.block }.Finds S.scopes S.given S.call := by
  unfold Session.Finds
  rw [resolved.given]
  simp [Store.ancestor?, h.around]

end Holds

/-! ### What is gathered -/

variable {β : Type}

/-- What is gathered before an index, and the value under its name. -/
structure Gathering (T : Traversal β) (S : Setting) where
  /-- So it lies in the store. -/
  holds : Secret → Nat → Store → Value → β → Prop
  /-- What is discreet keeps it. -/
  spares {σ : Secret} {i : Nat} {s t : Store} {v : Value} {b : β} :
    holds σ i s v b → s.Spares σ t → holds σ i t v b
  /-- So does what makes frames or gives names new values. -/
  tends {σ : Secret} {i : Nat} {s t : Store} {v : Value} {b : β} :
    holds σ i s v b → s.Tends σ t → t.arrays = s.arrays → holds (σ.since s t) i t v b
  /-- The function that is called can have it. -/
  args {σ : Secret} {i : Nat} {s : Store} {v y : Value} {b : β} :
    holds σ i s v b → y.Open σ s → ∀ a ∈ T.args b y, a.Open σ s

/-- The invariant of the loop: what the block holds. The index is `i`, and so many elements have been
dealt with as `j` says. -/
structure Round {T : Traversal β} (G : Gathering T S) (σ : Secret) (i j : Nat) (b : β) (v : Value)
    (s : Session) : Prop extends S.Holds σ s where
  /-- The block has the index. -/
  counter : s.store.lookup? S.block "i" = some (.number (Float.ofNat i))
  /-- It has what is gathered. -/
  held : s.store.lookup? S.block S.gathered = some v
  /-- This is what was gathered so far. -/
  gathers : G.holds σ j s.store v b

variable {T : Traversal β} {G : Gathering T S} {i j : Nat} {b : β} {v w y z : Value} {e : Exit}
  {u : Session}

namespace Round

theorem inFrame (h : S.Round G σ i j b v s) (f : FrameId) :
    S.Round G σ i j b v { s with frame := f } :=
  ⟨h.toHolds.inFrame f, h.counter, h.held, h.gathers⟩

/-- The block keeps what it has while a function is called. -/
theorem spares (h : S.Round G σ i j b v s) (g : s.Spares σ t) (recalls : s.Recalls t)
    (retains : s.store.Retains t.store) : S.Round G σ i j b v t where
  toHolds := h.toHolds.spares g recalls retains
  counter := (g.store.lookup? h.block _).trans h.counter
  held := (g.store.lookup? h.block _).trans h.held
  gathers := G.spares h.gathers g.store

/-- A frame is made inside the block. -/
theorem enter (h : S.Round G σ i j b v s) (origin : Origin) (f : FrameId) :
    S.Round G (σ.since s.store (s.enter origin f).store) i j b v (s.enter origin f) := by
  have tends : s.Tends S.own (s.enter origin f) :=
    .of_store s (s.store.tends_branch S.own origin f) _
  have inside : s.store.HasFrame S.block := h.secludes.frames _ h.block
  have parent : (s.enter origin f).store.parent? S.block = some S.call := by
    refine (s.store.parent?_branch_eq origin f S.block).trans ?_
    rw [if_neg (Nat.ne_of_lt inside), h.around]
  have same (x : String) : (s.enter origin f).store.lookup? S.block x = s.store.lookup? S.block x :=
    s.store.lookup?_branch origin f S.block x
  have wide := h.wide tends.store
  exact ⟨h.toHolds.tends tends parent, (same _).trans h.counter, (same _).trans h.held,
    G.tends h.gathers wide rfl⟩

/-- Something else has been gathered under the same name. -/
theorem change (h : S.Round G σ i j b v s) (g : s.Tends S.own t)
    (frames : t.store.frames = s.store.frames) {k : Nat} {b' : β}
    (gathers : G.holds (σ.since s.store t.store) k t.store v b') :
    S.Round G (σ.since s.store t.store) i k b' v t where
  toHolds := h.toHolds.tends g ((Store.parent?_of_frames_eq frames _).trans h.around)
  counter := (Store.lookup?_of_frames_eq frames _ _).trans h.counter
  held := (Store.lookup?_of_frames_eq frames _ _).trans h.held
  gathers := gathers

/-- What is gathered gets a new value. -/
theorem gather (h : S.Round G σ i j b v s) (resolved : S.Resolved) {k : Nat} {b' : β} {x : Value}
    (gathers : G.holds σ k s.store x b') :
    s.Tends S.own (s.replace S.block S.gathered x) ∧
      S.Round G (σ.since s.store (s.replace S.block S.gathered x).store) i k b' x
        (s.replace S.block S.gathered x) := by
  have tends : s.Tends S.own (s.replace S.block S.gathered x) :=
    .of_store s (s.store.tends_replace rfl _ _) _
  have parent : (s.replace S.block S.gathered x).store.parent? S.block = some S.call :=
    ((s.store.sameTree_replace _ _ _).parent _).trans h.around
  refine ⟨tends, h.toHolds.tends tends parent, ?_, ?_, G.tends gathers (h.wide tends.store) rfl⟩
  · refine (s.store.lookup?_replace _ _ _ _ _).trans (Eq.trans (if_neg ?_) h.counter)
    exact fun same => resolved.apart same.2.1.symm
  · refine (s.store.lookup?_replace _ _ _ _ _).trans (if_pos ⟨rfl, rfl, ?_⟩)
    rw [h.held]
    rfl

/-- The index gets a new value. -/
theorem count (h : S.Round G σ i j b v s) (resolved : S.Resolved) (k : Nat) :
    s.Tends S.own (s.replace S.block "i" (.number (Float.ofNat k))) ∧
      S.Round G (σ.since s.store (s.store.replace S.block "i" (.number (Float.ofNat k)))) k j b v
        (s.replace S.block "i" (.number (Float.ofNat k))) := by
  have tends : s.Tends S.own (s.replace S.block "i" (.number (Float.ofNat k))) :=
    .of_store s (s.store.tends_replace rfl _ _) _
  have parent : (s.replace S.block "i" (.number (Float.ofNat k))).store.parent? S.block =
      some S.call := ((s.store.sameTree_replace _ _ _).parent _).trans h.around
  have wide := h.wide tends.store
  refine ⟨tends, h.toHolds.tends tends parent, ?_, ?_, G.tends h.gathers wide rfl⟩
  · refine (s.store.lookup?_replace _ _ _ _ _).trans (if_pos ⟨rfl, rfl, ?_⟩)
    rw [h.counter]
    rfl
  · refine (s.store.lookup?_replace _ _ _ _ _).trans (Eq.trans (if_neg ?_) h.held)
    exact fun same => resolved.apart same.2.1

end Round

/-! ### The work of a round -/

/-- The invariant where the work of a round begins, in a frame inside the block, and where the
function is called. -/
structure Ready (G : Gathering T S) (σ : Secret) (i : Nat) (b : β) (v y : Value) (s : Session) :
    Prop extends S.Round G σ i i b v s where
  /-- The frame is inside the block. -/
  inside : s.store.parent? s.frame = some S.block
  /-- It is secret. -/
  secret : σ.frames s.frame
  /-- The builtin functions have their names. -/
  natives : s.HasNatives
  /-- The index is a number without loss. -/
  small : i < 2 ^ 53
  /-- There is an element. -/
  element : (s.store.elements S.xs)[i]? = some y

/-- What is asked of the work of a round: it calls the function and gathers what that gives. -/
structure Works (G : Gathering T S) (m : Nat) (close : Token) (work : Expr) : Prop where
  /-- If the call fails, so does the work. -/
  fails {σ : Secret} {i : Nat} {b : β} {v y : Value} {e : Exit} {s u : Session} :
    S.Ready G σ i b v y s → Eval.invoke (Eval.evaluate m) close S.f (T.args b y) s = .error e u →
    Eval.evaluate (m + 2) work s = .error e u
  /-- Otherwise, what it gives is gathered. -/
  gives {σ : Secret} {i : Nat} {b : β} {v w y z : Value} {s u : Session} :
    S.Ready G σ i b v y s → Eval.invoke (Eval.evaluate m) close S.f (T.args b y) s = .ok w u →
    S.Ready G σ i b v z u → w.Open σ u.store →
    ∃ r t τ x, Eval.evaluate (m + 2) work s = .ok r t ∧ u.Tends S.own t ∧ t.frame = u.frame ∧
      t.store.parent? t.frame = some S.block ∧ S.Round G τ i (i + 1) (T.next b w z) x t

namespace Ready

section

variable (h : S.Ready G σ i b v y s) (resolved : S.Resolved)

include h resolved

theorem has_given : (Code.name S.given).Has ([] :: S.scopes) 1 s S.f :=
  .name ((h.toHolds.finds_given resolved).inside h.inside) h.function

end

/-- The function can have what it is called with. -/
theorem open_args (h : S.Ready G σ i b v y s) : ∀ a ∈ T.args b y, a.Open σ s.store := by
  have mem : y ∈ s.store.elements S.xs := Array.mem_of_getElem? h.element
  exact G.args h.gathers (h.secludes.elements S.xs y mem h.openArray.2)

/-- The function does not touch what the call keeps for itself. -/
theorem called (h : S.Ready G σ i b v y s) (m : Nat) (close : Token) :
    Eval.Spared σ s (Eval.Opens σ) (Eval.invoke (Eval.evaluate m) close S.f (T.args b y) s) ∧
      S.Round G σ i i b v
        (Eval.sessionAfter (Eval.invoke (Eval.evaluate m) close S.f (T.args b y) s)) := by
  have spared := Eval.discreet_invoke h.secludes m close h.openFunction h.open_args
  have uniform : Eval.Uniform (Eval.evaluate m) (Eval.evaluate m)
      (Eval.invoke (Eval.evaluate m) close S.f (T.args b y))
      (Eval.invoke (Eval.evaluate m) close S.f (T.args b y)) := .invoke close S.f _
  have built := Eval.Built.of_uniform (Eval.built_evaluate m) uniform
  exact ⟨spared, h.toRound.spares spared.spares (Eval.stable_recalls.of_built built s)
    (Eval.stable_retains.of_built built s)⟩

/-- After the function has given a value, its element is the one that the array has then. -/
theorem after (h : S.Ready G σ i b v y s) (spares : s.Spares σ u) (round : S.Round G σ i i b v u)
    (natives : u.HasNatives) : ∃ z, S.Ready G σ i b v z u := by
  have inside : i < (u.store.elements S.xs).size := by
    rw [round.length, ← h.length]
    exact (Array.getElem?_eq_some_iff.1 h.element).1
  refine ⟨_, round, ?_, ?_, natives, h.small, Array.getElem?_eq_getElem inside⟩
  · rw [spares.frame]
    exact (spares.store.parent? h.secret).trans h.inside
  · rw [spares.frame]
    exact h.secret

end Ready

/-! ### Pieces of the work -/

/-- The function is called with arguments that change nothing. -/
theorem exists_call {cs : List Code} {e : Expr} {m : Nat} (enough : 2 ≤ m)
    (place : (Code.call (.name S.given) cs).At S.start ([] :: S.scopes) e) (resolved : S.Resolved)
    (args : ∀ {σ i b v y s}, S.Ready G σ i b v y s →
      Code.EachHas cs ([] :: S.scopes) 2 s (T.args b y)) :
    ∃ close, ∀ {σ i b v y s}, S.Ready G σ i b v y s →
      Eval.evaluate (m + 1) e s = Eval.invoke (Eval.evaluate m) close S.f (T.args b y) s := by
  obtain ⟨callee, es, close, rfl, first, rest⟩ := place.call
  refine ⟨close, fun {σ i b v y s} h => ?_⟩
  have values := (args h).all_eq (rest.mono h.recalls) enough #[]
  have called : Eval.evaluate (m + 1) (.call callee es close) s = _ :=
    Code.evaluate_call (first.mono h.recalls) (h.has_given resolved) (Nat.le_of_succ_le enough) values
  simpa using called

/-- The loop of a traversal in its place. The function is called with a budget of `m`. -/
structure Loop (G : Gathering T S) (m : Nat) (close : Token) (condition work count : Expr) :
    Prop where
  /-- The names are resolved. -/
  resolved : S.Resolved
  /-- The number of elements is a number without loss. -/
  small : S.n < 2 ^ 53
  /-- The budget is enough to count. -/
  enough : 1 ≤ m
  /-- The condition compares the index with it. -/
  condition : (Code.binary (.name "i") .less (.call (.name "len") [.name "xs"])).At S.start S.scopes
    condition
  /-- A round ends with the next index. -/
  count : (Code.assign "i" (.binary (.name "i") .plus (.number 1))).At S.start ([] :: S.scopes) count
  /-- Before it does its work. -/
  works : S.Works G m close work

/-- How a round ends in which the function is called in a session `c`. -/
inductive Turn (G : Gathering T S) (call : List Value → Eval Value) (i : Nat) (b : β) (y : Value)
    (c : Session) : EStateM.Result Exit Session Value → Prop
  /-- As the call does. -/
  | failed {e : Exit} {u : Session} (fails : call (T.args b y) c = .error e u)
    (other : ∀ k, e ≠ .broke k) : Turn G call i b y c (.error e { u with frame := S.block })
  /-- Nothing is said. -/
  | spoilt {w : Value} {u : Session} (gives : call (T.args b y) c = .ok w u)
    (lost : ¬u.HasNatives) (r : EStateM.Result Exit Session Value) : Turn G call i b y c r
  /-- With the invariant for the next index. -/
  | done {w z r x : Value} {u t : Session} {τ : Secret} (gives : call (T.args b y) c = .ok w u)
    (now : (u.store.elements S.xs)[i]? = some z) (tends : u.Tends S.own t) (back : t.frame = S.block)
    (natives : t.HasNatives) (next : S.Round G τ (i + 1) (i + 1) (T.next b w z) x t) :
    Turn G call i b y c (.ok r t)

/-- How the loop ends if the calls end so. -/
inductive Ends (G : Gathering T S) :
    Traversal.Ending β → EStateM.Result Exit Session Value → Prop
  /-- With all that was gathered. -/
  | done {σ : Secret} {b : β} {v r : Value} {t : Session} (h : S.Round G σ S.n S.n b v t)
    (frame : t.frame = S.block) (natives : t.HasNatives) : Ends G (.done b t) (.ok r t)
  /-- As a call has failed. -/
  | failed {e : Exit} {u t : Session} (other : ∀ k, e ≠ .broke k) (tends : u.Tends S.own t) :
    Ends G (.failed e u) (.error e t)
  /-- Nothing is said. -/
  | spoilt (r : EStateM.Result Exit Session Value) : Ends G .spoilt r

namespace Loop

variable {m : Nat} {close : Token} {condition work count : Expr}
  (L : S.Loop G m close condition work count)

include L

/-- The loop goes on as long as there are elements. -/
theorem goesOn (h : S.Round G σ i i b v s) (frame : s.frame = S.block) (natives : s.HasNatives)
    (le : i ≤ S.n) :
    (do return (← Eval.evaluate (m + 3) condition).isTruthy : Eval Bool) s =
      .ok (decide (i < S.n)) s := by
  obtain ⟨id, bound⟩ := natives .len (by decide)
  have here : s = { s with frame := S.block } := by rw [← frame]
  have index : (Code.name "i").Has S.scopes 2 s (.number (Float.ofNat i)) := by
    refine Code.Has.mono (.name ?_ h.counter) (Nat.le_succ 1)
    rw [here]
    exact Holds.finds_counter L.resolved
  have array : (Code.name "xs").Has S.scopes 1 s (.array S.xs) := by
    refine .name ?_ h.array
    rw [here]
    exact h.toHolds.finds_array L.resolved
  have length : (Code.call (.name "len") [.name "xs"]).Has S.scopes 2 s (.number (Float.ofNat S.n)) := by
    have found := array.length rfl (L.resolved.natives .len (by decide)) bound (Nat.le_refl 1)
    rwa [h.length] at found
  have compared : (Code.binary (.name "i") .less (.call (.name "len") [.name "xs"])).Has S.scopes 3 s
      (.bool (decide (i < S.n))) := index.less length (Nat.lt_of_le_of_lt le L.small) L.small
  have place := L.condition.mono h.recalls
  exact Eval.bind_of_ok (compared condition (m + 3) place (Nat.le_add_left 3 m))

/-- The index is counted up. -/
theorem counts (h : S.Round G σ i j b v s) (inside : s.store.parent? s.frame = some S.block)
    (lt : i < S.n) :
    Eval.evaluate (m + 2) count s =
      .ok (.number (Float.ofNat (i + 1))) (s.replace S.block "i" (.number (Float.ofNat (i + 1)))) := by
  obtain ⟨id, name, e, rfl, spelled, sum, known⟩ := (L.count.mono h.recalls).assign
  have found : s.Finds ([] :: S.scopes) "i" S.block :=
    (Holds.finds_counter L.resolved).inside inside
  have index : (Code.name "i").Has ([] :: S.scopes) 1 s (.number (Float.ofNat i)) :=
    .name found h.counter
  have added : (Code.binary (.name "i") .plus (.number 1)).Has ([] :: S.scopes) 2 s
      (.number (Float.ofNat (i + 1))) := index.plus (.number 1) (Nat.lt_of_le_of_lt lt L.small)
  have owner := Session.owner_of_finds known spelled found h.counter
  have assigned := Code.evaluate_assign (added e (m + 1) sum (Nat.succ_le_succ L.enough)) owner
  rwa [spelled] at assigned

/-- A round calls the function for the element at the index, and ends as the call does or with the
invariant for the next index. -/
theorem round (h : S.Round G σ i i b v s) (frame : s.frame = S.block) (natives : s.HasNatives)
    (lt : i < S.n) :
    ∃ c y, s.Tends S.own c ∧ (c.store.elements S.xs)[i]? = some y ∧
      S.Turn G (Eval.invoke (Eval.evaluate m) close S.f) i b y c
        (Eval.evaluate (m + 3) (.block [work, count]) s) := by
  let c := s.enter (.block [work, count]) S.block
  have entered := h.enter (.block [work, count]) S.block
  have made : s.Tends S.own c := .of_store s (s.store.tends_branch S.own _ _) _
  have there : i < (c.store.elements S.xs).size := by rwa [entered.length]
  have new : ¬s.store.HasFrame c.frame ∧ c.store.HasFrame c.frame :=
    ⟨Nat.lt_irrefl _, s.store.hasFrame_branch _ _⟩
  have ready : S.Ready G (σ.since s.store c.store) i b v (c.store.elements S.xs)[i] c :=
    ⟨entered, s.store.parent?_branch _ _, .inr new, h.toHolds.natives made natives,
      Nat.lt_trans lt L.small, Array.getElem?_eq_getElem there⟩
  refine ⟨c, _, made, ready.element, ?_⟩
  have body : Eval.evaluate (m + 3) (.block [work, count]) s =
      Eval.restored (fun t => { t with frame := s.frame })
        (Eval.last (Eval.evaluate (m + 2)) .null [work, count] c) := by
    have split : Eval.evaluate (m + 3) (.block [work, count]) s =
        Eval.inNewFrame (.block [work, count]) s.frame
          (Eval.last (Eval.evaluate (m + 2)) .null [work, count]) s := rfl
    rw [split, Eval.inNewFrame_eq, frame]
  obtain ⟨spared, kept⟩ := ready.called m close
  rw [body, frame]
  cases call : Eval.invoke (Eval.evaluate m) close S.f (T.args b (c.store.elements S.xs)[i]) c with
  | error e u =>
    have fails := L.works.fails ready call
    have members : Eval.last (Eval.evaluate (m + 2)) .null [work, count] c = .error e u :=
      Eval.bind_of_error fails
    rw [members]
    refine .failed call fun k broke => ?_
    subst broke
    exact Session.invoke_ne_broke new.2 m close S.f _ k u call
  | ok w u =>
    rw [call] at spared kept
    by_cases lost : u.HasNatives
    · obtain ⟨spares, «open»⟩ := spared
      obtain ⟨z, after⟩ := ready.after spares kept lost
      obtain ⟨r, t, τ, x, works, tends, back, inside, round⟩ := L.works.gives ready call after «open»
      have counts := L.counts round inside lt
      obtain ⟨more, next⟩ := round.count L.resolved (i + 1)
      have members : Eval.last (Eval.evaluate (m + 2)) .null [work, count] c =
          .ok (.number (Float.ofNat (i + 1)))
            (t.replace S.block "i" (.number (Float.ofNat (i + 1)))) :=
        (Eval.bind_of_ok works).trans (Eval.bind_of_ok counts)
      rw [members]
      have all := (tends.trans more).trans (.of_store _ (.refl _ _) S.block)
      exact .done call after.element all rfl (after.toHolds.natives all lost) (next.inFrame S.block)
    · exact .spoilt call lost _

/-- What the loop comes to, from an index on. -/
theorem runs (h : S.Round G σ i i b v s) (frame : s.frame = S.block) (natives : s.HasNatives)
    (le : i ≤ S.n) {rounds : Nat} (enough : S.n - i < rounds) (last : Value) :
    ∃ ending, T.Runs S.own S.xs S.n (Eval.invoke (Eval.evaluate m) close S.f) i b s ending ∧
      S.Ends G ending (Eval.iterate (Eval.evaluate (m + 3))
        (do return (← Eval.evaluate (m + 3) condition).isTruthy) (.block [work, count]) rounds last
        s) := by
  -- by induction on the number of elements that are left
  generalize left : S.n - i = d at enough
  induction d generalizing i b v s σ rounds last with
  | zero =>
    obtain rfl : i = S.n := by omega
    obtain ⟨k, rfl⟩ := Nat.exists_eq_succ_of_ne_zero (Nat.ne_of_gt enough)
    have stops := L.goesOn h frame natives le
    rw [decide_eq_false (Nat.lt_irrefl _)] at stops
    refine ⟨.done b s, .done (.refl _ s), ?_⟩
    rw [Eval.iterate_of_stops (.refused stops)]
    exact .done h frame natives
  | succ d ih =>
    have lt : i < S.n := by omega
    obtain ⟨k, rfl⟩ := Nat.exists_eq_succ_of_ne_zero (Nat.ne_of_gt (Nat.zero_lt_of_lt enough))
    have holds := L.goesOn h frame natives le
    rw [decide_eq_true lt] at holds
    obtain ⟨c, y, made, element, turn⟩ := L.round h frame natives lt
    generalize body : Eval.evaluate (m + 3) (.block [work, count]) s = r at turn
    cases turn with
    | @failed e u fails other =>
      refine ⟨.failed e u, .failed made element fails, ?_⟩
      have stops : Eval.iterate (Eval.evaluate (m + 3))
          (do return (← Eval.evaluate (m + 3) condition).isTruthy) (.block [work, count]) (k + 1) last
          s = .error e { u with frame := S.block } :=
        (Eval.bind_of_ok (Eval.untilBreak_of_ok holds)).trans
          (Eval.bind_of_error (Eval.untilBreak_of_error body other))
      rw [stops]
      exact .failed other (.of_store u (.refl _ _) _)
    | spoilt gives lost => exact ⟨.spoilt, .spoilt made element gives lost, .spoilt _⟩
    | done gives now tends back natives' next =>
      obtain ⟨ending, runs, ends⟩ := ih next back natives' lt _ (by omega) (Nat.lt_of_succ_lt_succ enough)
      rw [Eval.iterate_of_round holds body]
      exact ⟨ending, .next made element gives now (runs.after tends), ends⟩

end Loop

end Setting

end FoxScript
