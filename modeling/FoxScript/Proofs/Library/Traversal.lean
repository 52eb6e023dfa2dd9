import FoxScript.Proofs.Library.Place

/-!
# Going through an array

`map`, `filter` and `reduce` go through the elements of an array, from the first to the last, and
call a function that they are given for each. What they do apart from these calls cannot be noticed:
they make frames and arrays, and change only such as they have made and keep for themselves. What the
function that is called does is its own affair; it cannot get at what they keep for themselves.

## Main definitions

* `Session.HasNatives`: the builtin functions that the library calls have their names.
* `Session.Tends`: what the library does by itself.
* `Traversal`: what the function is called with, and what becomes of what it gives.
* `Traversal.Runs`: the calls of the function one after the other.
* `Traversal.Comes`: what a function of the library comes to.
-/
namespace FoxScript

/-- The builtin functions that the library calls have their names. -/
def Session.HasNatives (s : Session) : Prop :=
  ∀ b ∈ [Builtin.len, .newArray, .set, .merge], ∃ id,
    s.store.lookup? Store.root b.name = some (.function (.builtin id b))

/-- Between the two sessions nothing happens but that frames and arrays are made, and that changes
what is kept apart. -/
structure Session.Tends (σ : Secret) (s t : Session) : Prop where
  /-- All but the store and the frame stays as it is. -/
  rest : t = { s with store := t.store, frame := t.frame }
  /-- In the store, what is not kept apart stays as it is. -/
  store : s.store.Tends σ t.store

namespace Session.Tends

variable {σ : Secret} {s t u : Session}

theorem refl (σ : Secret) (s : Session) : s.Tends σ s := ⟨rfl, .refl σ s.store⟩

theorem trans (h : s.Tends σ t) (g : t.Tends σ u) : s.Tends σ u := by
  refine ⟨?_, h.store.trans g.store⟩
  rw [g.rest, h.rest]

theorem of_store (s : Session) {store : Store} (h : s.store.Tends σ store) (frame : FrameId) :
    s.Tends σ { s with store := store, frame := frame } := ⟨rfl, h⟩

theorem memory (h : s.Tends σ t) : t.memory = s.memory := by rw [h.rest]

theorem recalls (h : s.Tends σ t) : s.Recalls t := by
  rw [h.rest]
  exact ⟨Nat.le_refl _, fun _ _ => rfl⟩

end Session.Tends

/-- How a function is called for each element of an array. Something is gathered on the way. -/
structure Traversal (β : Type) where
  /-- What the function is called with, from what was gathered so far and the element. -/
  args : β → Value → List Value
  /-- What is gathered then, from what was gathered before, what the function gave, and the element
  as it is after the call. -/
  next : β → Value → Value → β

namespace Traversal

variable {β : Type}

/-- How the calls end. -/
inductive Ending (β : Type)
  /-- The function was called for all elements. -/
  | done (b : β) (t : Session)
  /-- A call has failed. -/
  | failed (e : Exit) (t : Session)
  /-- A call has taken the names away from the builtin functions of the library. -/
  | spoilt

/-- The function is called for one element after the other, from an index on. Each time it gets the
element that the array has then. -/
inductive Runs (T : Traversal β) (own : Secret) (xs : ArrayId) (n : Nat)
    (call : List Value → Eval Value) : Nat → β → Session → Ending β → Prop
  /-- There are no more elements. -/
  | done {b : β} {s t : Session} (tends : s.Tends own t) : Runs T own xs n call n b s (.done b t)
  /-- The call fails. There is no other after it. -/
  | failed {i : Nat} {b : β} {s t u : Session} {y : Value} {e : Exit} (tends : s.Tends own t)
    (element : (t.store.elements xs)[i]? = some y)
    (fails : call (T.args b y) t = .error e u) : Runs T own xs n call i b s (.failed e u)
  /-- The call takes a name away. -/
  | spoilt {i : Nat} {b : β} {s t u : Session} {y v : Value} (tends : s.Tends own t)
    (element : (t.store.elements xs)[i]? = some y) (gives : call (T.args b y) t = .ok v u)
    (lost : ¬u.HasNatives) : Runs T own xs n call i b s .spoilt
  /-- The call gives a value, and the next one follows. -/
  | next {i : Nat} {b : β} {s t u : Session} {y z v : Value} {ending : Ending β}
    (tends : s.Tends own t) (element : (t.store.elements xs)[i]? = some y)
    (gives : call (T.args b y) t = .ok v u) (now : (u.store.elements xs)[i]? = some z)
    (rest : Runs T own xs n call (i + 1) (T.next b v z) u ending) :
    Runs T own xs n call i b s ending

/-- What a call of a function of the library in a session ends with. -/
inductive Ending.Gives (s : Session) (own : Secret) (result : β → Session → Value → Prop) :
    Ending β → EStateM.Result Exit Session Value → Prop
  /-- It has a value, made of what was gathered. -/
  | done {b : β} {t u : Session} {v : Value} (tends : t.Tends own u) (frame : u.frame = s.frame)
    (h : result b u v) : Gives s own result (.done b t) (.ok v u)
  /-- It fails as the call has failed. -/
  | failed {e : Exit} {t u : Session} (tends : t.Tends own u) (frame : u.frame = s.frame) :
    Gives s own result (.failed e t) (.error e u)
  /-- Nothing is said. -/
  | spoilt (r : EStateM.Result Exit Session Value) : Gives s own result .spoilt r

/-- What the call of a function of the library comes to: the function that it is given is called for
each element, and the result is made of what was gathered. What the library keeps for itself is
new. -/
def Comes (T : Traversal β) (s : Session) (xs : ArrayId) (call : List Value → Eval Value) (first : β)
    (result : β → Session → Value → Prop) (r : EStateM.Result Exit Session Value) : Prop :=
  ∃ own ending, (∀ f, own.frames f → ¬s.store.HasFrame f) ∧
    (∀ a, own.arrays a → ¬s.store.HasArray a) ∧
    T.Runs own xs (s.store.elements xs).size call 0 first s ending ∧
    ending.Gives s own result r

variable {T : Traversal β} {own : Secret} {xs : ArrayId} {n i : Nat}
  {call : List Value → Eval Value} {b : β} {s t : Session} {ending : Ending β}

/-- What the library does before does not matter. -/
theorem Runs.after (h : T.Runs own xs n call i b t ending) (tends : s.Tends own t) :
    T.Runs own xs n call i b s ending := by
  cases h with
  | done g => exact .done (tends.trans g)
  | failed g element fails => exact .failed (tends.trans g) element fails
  | spoilt g element gives lost => exact .spoilt (tends.trans g) element gives lost
  | next g element gives now rest => exact .next (tends.trans g) element gives now rest

end Traversal

end FoxScript
