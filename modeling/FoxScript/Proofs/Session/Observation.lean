import FoxScript.Proofs.Session.Tie

/-!
# What can be observed of values

Values that correspond are of one kind, are shown alike, compare alike and serve alike as an index.

## Main statements

* `Tie.Tied.render`, `Tie.Tied.equal`: what values show, and whether they are equal.
* `Tie.Tied.element`, `Tie.Tied.slice`, `Tie.Tied.elementPlace`: access to elements.
-/
namespace FoxScript

namespace Value.Alike

variable {closure : Closure → Closure → Prop} {lends : Builtin → Prop} {v v' : Value}

theorem kind (h : Value.Alike closure lends v v') : v'.kind = v.kind := by
  cases h <;> rfl

theorem isTruthy (h : Value.Alike closure lends v v') : v'.isTruthy = v.isTruthy := by
  cases h <;> rfl

theorem array? (h : Value.Alike closure lends v v') : v'.array? = v.array? := by
  cases h <;> rfl

theorem ofLiteral (l : Literal) :
    Value.Alike closure lends (Value.ofLiteral l) (Value.ofLiteral l) := by
  cases l with
  | null => exact .null
  | bool b => exact .bool b
  | number x => exact .number x
  | text t => exact .text t

end Value.Alike

/-- Two outcomes that are the same failure or values of which something holds. -/
inductive Gives {ε α α' : Type} (post : α → α' → Prop) : Except ε α → Except ε α' → Prop
  /-- Both are values. -/
  | ok {a : α} {a' : α'} (h : post a a') : Gives post (.ok a) (.ok a')
  /-- Both are the same failure. -/
  | error (e : ε) : Gives post (.error e) (.error e)

/-- What two outcomes are the same about that are followed by the same. -/
theorem Gives.bind_eq {ε α β β' : Type} {post' : β → β' → Prop} {r r' : Except ε α}
    {next : α → Except ε β} {next' : α → Except ε β'} (h : r' = r)
    (hn : ∀ a, Gives post' (next a) (next' a)) : Gives post' (r >>= next) (r' >>= next') := by
  subst h
  cases r' with
  | ok a => exact hn a
  | error e => exact .error e

/-! ### Lists that correspond -/

section

variable {α α' β : Type} {R : α → α' → Prop} {xs ys : List α} {xs' ys' : List α'}

theorem map_eq_of_forall₂ {f : α → β} {f' : α' → β} (h : List.Forall₂ R xs xs')
    (hf : ∀ x x', R x x' → f' x' = f x) : xs'.map f' = xs.map f := by
  induction h with
  | nil => rfl
  | cons hx _ ih => rw [List.map_cons, List.map_cons, hf _ _ hx, ih]

theorem any_eq_of_forall₂ {p : α → Bool} {p' : α' → Bool} (h : List.Forall₂ R xs xs')
    (hp : ∀ x x', R x x' → p' x' = p x) : xs'.any p' = xs.any p := by
  induction h with
  | nil => rfl
  | cons hx _ ih => rw [List.any_cons, List.any_cons, hp _ _ hx, ih]

theorem all_zip_eq_of_forall₂ {p : α × α → Bool} {p' : α' × α' → Bool} (h : List.Forall₂ R xs xs')
    (g : List.Forall₂ R ys ys')
    (hp : ∀ x x' y y', R x x' → R y y' → p' (x', y') = p (x, y)) :
    (xs'.zip ys').all p' = (xs.zip ys).all p := by
  induction h generalizing ys ys' with
  | nil => rfl
  | cons hx _ ih =>
    cases g with
    | nil => rfl
    | cons hy g => rw [List.zip_cons_cons, List.zip_cons_cons, List.all_cons, List.all_cons,
        hp _ _ _ _ hx hy, ih g]

end

namespace Tie

variable {T : Tie} {s s' : Session}

theorem Alike.array_iff {a : ArrayId} {v : Value} : T.Alike s s' (.array a) v ↔ v = .array a := by
  constructor
  · intro h
    cases h
    rfl
  · rintro rfl
    exact .array a

namespace Tied

variable (tied : T.Tied s s') {v v' w w' : Value}

include tied

theorem size_elements (a : ArrayId) :
    (s'.store.elements a).size = (s.store.elements a).size :=
  (tied.elements a).length_eq.symm

theorem isEmpty_elements (a : ArrayId) :
    (s'.store.elements a).isEmpty = (s.store.elements a).isEmpty := by
  rw [Array.isEmpty, tied.size_elements, Array.isEmpty]

theorem renderWithin (n : Nat) (active : List ArrayId) (h : T.Alike s s' v v') :
    v'.renderWithin s'.store n active = v.renderWithin s.store n active := by
  induction n generalizing active v v' with
  | zero =>
    cases h <;> simp [Value.renderWithin, Function.render]
    rename_i name _ _ _ _ _ _ _
    cases name <;> rfl
  | succ n ih =>
    cases h with
    | array a =>
      simp only [Value.renderWithin]
      split
      · rfl
      · have shown : (s'.store.elements a).toList.map
              (Value.renderWithin s'.store n (a :: active)) =
            (s.store.elements a).toList.map (Value.renderWithin s.store n (a :: active)) :=
          map_eq_of_forall₂ (tied.elements a) fun _ _ h => ih _ h
        rw [shown]
    | closure id name h => cases name <;> simp [Value.renderWithin, Function.render]
    | _ => simp [Value.renderWithin]

/-- Values that correspond are shown alike. -/
theorem render (h : T.Alike s s' v v') : v'.render s'.store = v.render s.store := by
  rw [Value.render, tied.arrays, tied.renderWithin _ _ h, Value.render]

theorem reachesWithin (target : ArrayId) (n : Nat) (active : List ArrayId)
    (h : T.Alike s s' v v') :
    v'.reachesWithin s'.store target n active = v.reachesWithin s.store target n active := by
  induction n generalizing active v v' with
  | zero => cases h <;> simp [Value.reachesWithin]
  | succ n ih =>
    cases h with
    | array a =>
      simp only [Value.reachesWithin]
      split
      · rfl
      split
      · rfl
      exact any_eq_of_forall₂ (tied.elements a) fun _ _ h => ih _ h
    | _ => simp [Value.reachesWithin]

theorem reaches (target : ArrayId) (h : T.Alike s s' v v') :
    v'.reaches s'.store target = v.reaches s.store target := by
  rw [Value.reaches, tied.arrays, tied.reachesWithin _ _ _ h, Value.reaches]

theorem equalWithin (n : Nat) (active : List (ArrayId × ArrayId)) (hv : T.Alike s s' v v')
    (hw : T.Alike s s' w w') :
    Value.equalWithin s'.store n active v' w' = Value.equalWithin s.store n active v w := by
  induction n generalizing active v v' w w' with
  | zero => cases hv <;> cases hw <;> simp [Value.equalWithin, Function.id]
  | succ n ih =>
    cases hv with
    | array a =>
      cases hw with
      | array b =>
        simp only [Value.equalWithin, tied.size_elements, Array.length_toList]
        split
        · rfl
        congr 1
        exact all_zip_eq_of_forall₂ (tied.elements a) (tied.elements b)
          fun _ _ _ _ hx hy => ih _ hx hy
      | _ => simp [Value.equalWithin]
    | _ => cases hw <;> simp [Value.equalWithin, Function.id]

/-- Values that correspond compare alike. -/
theorem equal (hv : T.Alike s s' v v') (hw : T.Alike s s' w w') :
    v'.equal s'.store w' = v.equal s.store w := by
  rw [Value.equal, tied.arrays, tied.equalWithin _ _ hv hw, Value.equal]

theorem toIndex (h : T.Alike s s' v v') : v'.toIndex s'.store = v.toIndex s.store := by
  have shown := tied.render h
  cases h <;> simp [Value.toIndex, shown]

theorem toElementIndex (size : Nat) (h : T.Alike s s' v v') :
    v'.toElementIndex s'.store size = v.toElementIndex s.store size := by
  rw [Value.toElementIndex, tied.toIndex h, Value.toElementIndex]

/-- The elements of an array at indices that correspond do so. -/
theorem element (a : ArrayId) (h : T.Alike s s' v v') :
    Gives (T.Alike s s') (s.store.element a v) (s'.store.element a v') := by
  refine Gives.bind_eq (by rw [tied.size_elements, tied.toElementIndex _ h]) fun i => .ok ?_
  have elements := tied.elements a
  rw [← Array.getElem?_toList, ← Array.getElem?_toList]
  revert i
  refine List.Forall₂.rec (fun _ => .null) (fun h _ ih i => ?_) elements
  cases i with
  | zero => exact h
  | succ i => exact ih i

/-- The parts of an array between indices that correspond do so. -/
theorem slice (a : ArrayId) (hv : T.Alike s s' v v') (hw : T.Alike s s' w w') :
    Gives (fun vs vs' => List.Forall₂ (T.Alike s s') vs.toList vs'.toList)
      (s.store.slice a v w) (s'.store.slice a v' w') := by
  simp only [Store.slice, tied.size_elements, tied.toElementIndex _ hv, tied.toIndex hw]
  refine Gives.bind_eq rfl fun i => Gives.bind_eq rfl fun j => ?_
  split
  · exact .error _
  split
  · exact .error _
  refine .ok ?_
  simp only [Array.toList_extract]
  exact List.forall₂_take _ (List.forall₂_drop _ (tied.elements a))

/-- Elements of an array can be replaced at indices that correspond alike. -/
theorem elementPlace (ht : T.Alike s s' v v') (hi : T.Alike s s' w w') :
    s'.store.elementPlace v' w' = s.store.elementPlace v w := by
  cases ht with
  | array a =>
    simp only [Store.elementPlace, tied.size_elements, Value.Alike.array? hi, tied.reaches a hi,
      tied.toElementIndex _ hi]
  | _ => rfl

end Tied

end Tie

end FoxScript
