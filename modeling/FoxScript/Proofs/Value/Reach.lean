import FoxScript.Value.Element
import Mathlib.Data.Finset.Card
import Mathlib.Data.Finset.Image
import Mathlib.Logic.Relation

/-!
# Arrays that are reached from others

To show an array is to open it and the arrays among its elements, and so on, but none inside itself.
The arrays that are opened are those to which elements lead at all: of all ways to an array a
shortest one comes by no array twice.

## Main definitions

* `Store.Links`: an array is an element of another.
* `Room`: what is in the middle of a search leaves room for the rest.
* `Value.Opens`: what is opened when a value is shown.

## Main statements

* `Value.opens_nil_iff`: what is opened is what elements lead to.
* `Value.reaches_iff`: a search with a bound finds just that.
-/
namespace FoxScript

/-- What a search is in the middle of: different things from `inside`. Its bound leaves room for the
others. -/
structure Room {α : Type} (inside : Finset α) (n : Nat) (active : List α) : Prop where
  /-- Nothing is met twice. -/
  nodup : active.Nodup
  /-- All are from inside. -/
  subset : ∀ a ∈ active, a ∈ inside
  /-- There is room. -/
  room : inside.card + 1 ≤ n + active.length

namespace Room

variable {α : Type} {inside : Finset α} {n : Nat} {active : List α}

theorem nil (inside : Finset α) : Room inside (inside.card + 1) [] := ⟨.nil, by simp, by simp⟩

theorem cons {a : α} (h : Room inside (n + 1) active) (unmet : a ∉ active) (mem : a ∈ inside) :
    Room inside n (a :: active) where
  nodup := List.nodup_cons.2 ⟨unmet, h.nodup⟩
  subset := List.forall_mem_cons.2 ⟨mem, h.subset⟩
  room := by
    have room := h.room
    rw [List.length_cons]
    omega

/-- The bound is not met. -/
theorem exists_succ (h : Room inside n active) : ∃ m, n = m + 1 := by
  classical
  have few : active.length ≤ inside.card := by
    rw [← List.toFinset_card_of_nodup h.nodup]
    exact Finset.card_le_card fun a mem => h.subset a (List.mem_toFinset.1 mem)
  have room := h.room
  exact ⟨n - 1, by omega⟩

end Room

namespace Store

/-- The numbers of the arrays of a store. -/
def arrayIds (s : Store) : Finset ArrayId := (Finset.range s.arrays.size).image ArrayId.mk

theorem mem_arrayIds {s : Store} {a : ArrayId} : a ∈ s.arrayIds ↔ a.index < s.arrays.size := by
  obtain ⟨i⟩ := a
  simp [arrayIds]

theorem card_arrayIds (s : Store) : s.arrayIds.card = s.arrays.size := by
  rw [arrayIds, Finset.card_image_of_injective _ fun i j same => by cases same; rfl,
    Finset.card_range]

/-- Only arrays of the store have elements. -/
theorem mem_arrayIds_of_mem {s : Store} {a : ArrayId} {v : Value} (h : v ∈ s.elements a) :
    a ∈ s.arrayIds := by
  rw [mem_arrayIds]
  by_contra outside
  simp [elements, outside] at h

/-- An array is an element of another. -/
def Links (s : Store) (a b : ArrayId) : Prop := .array b ∈ s.elements a

/-- So many links or fewer lead from an array to another. -/
inductive LinksWithin (s : Store) (target : ArrayId) : Nat → ArrayId → Prop
  /-- It is the array itself. -/
  | refl (k : Nat) : LinksWithin s target k target
  /-- It is reached from an element. -/
  | step {k : Nat} {a b : ArrayId} (link : s.Links a b) (h : LinksWithin s target k b) :
    LinksWithin s target (k + 1) a

variable {s : Store} {target : ArrayId}

theorem LinksWithin.mono {k l : Nat} {a : ArrayId} (h : s.LinksWithin target k a) (le : k ≤ l) :
    s.LinksWithin target l a := by
  induction h generalizing l with
  | refl => exact .refl l
  | step link _ ih =>
    obtain ⟨m, rfl⟩ := Nat.exists_eq_succ_of_ne_zero (Nat.ne_zero_of_lt le)
    exact .step link (ih (Nat.le_of_succ_le_succ le))

theorem exists_linksWithin_iff {a : ArrayId} :
    (∃ k, s.LinksWithin target k a) ↔ Relation.ReflTransGen s.Links a target := by
  constructor
  · rintro ⟨k, h⟩
    induction h with
    | refl => exact .refl
    | step link _ ih => exact ih.head link
  · intro h
    induction h using Relation.ReflTransGen.head_induction_on with
    | refl => exact ⟨0, .refl 0⟩
    | head link _ ih =>
      obtain ⟨k, h⟩ := ih
      exact ⟨k + 1, .step link h⟩

end Store

namespace Value

variable {s : Store} {target : ArrayId}

/-- An array is opened when a value is shown inside the arrays `active`. -/
inductive Opens (s : Store) (target : ArrayId) : List ArrayId → Value → Prop
  /-- It is the value. -/
  | here {active : List ArrayId} (unmet : target ∉ active) : Opens s target active (.array target)
  /-- It is opened when an element is shown. -/
  | inside {active : List ArrayId} {a : ArrayId} {v : Value} (unmet : a ∉ active)
    (mem : v ∈ s.elements a) (h : Opens s target (a :: active) v) :
    Opens s target active (.array a)

/-- Elements lead to all that is opened. -/
theorem Opens.reflTransGen {active : List ArrayId} {v : Value} (h : Opens s target active v) :
    ∃ a, v = .array a ∧ Relation.ReflTransGen s.Links a target := by
  induction h with
  | here => exact ⟨target, rfl, .refl⟩
  | @inside active a v unmet mem h ih =>
    obtain ⟨b, rfl, way⟩ := ih
    exact ⟨a, rfl, way.head mem⟩

/-- An array is opened on the way from another, if all that is open is farther away from it. -/
theorem opens_of_linksWithin {k : Nat} {active : List ArrayId} {a : ArrayId}
    (farther : ∀ b ∈ active, ¬s.LinksWithin target k b) (h : s.LinksWithin target k a) :
    Opens s target active (.array a) := by
  induction k generalizing active a with
  | zero =>
    cases h
    exact .here fun mem => farther target mem (.refl 0)
  | succ k ih =>
    -- a shorter way leads by nothing that is open, so only a shortest one is gone
    by_cases nearer : s.LinksWithin target k a
    · exact ih (fun b mem near => farther b mem (near.mono (Nat.le_succ k))) nearer
    cases h with
    | refl => exact absurd (.refl k) nearer
    | step link h =>
      refine .inside (fun mem => farther a mem (.step link h)) link (ih (fun c mem near => ?_) h)
      obtain rfl | mem := List.mem_cons.1 mem
      · exact nearer near
      · exact farther c mem (near.mono (Nat.le_succ k))

/-- What is opened when a value is shown is what elements lead to. -/
theorem opens_nil_iff {v : Value} :
    Opens s target [] v ↔ ∃ a, v = .array a ∧ Relation.ReflTransGen s.Links a target := by
  refine ⟨Opens.reflTransGen, ?_⟩
  rintro ⟨a, rfl, way⟩
  obtain ⟨k, h⟩ := Store.exists_linksWithin_iff.2 way
  exact opens_of_linksWithin (by simp) h

theorem reachesWithin_of_mem {a : ArrayId} {active : List ArrayId} (h : a ∈ active) (n : Nat) :
    reachesWithin s target n active (.array a) = false := by
  cases n <;> simp [reachesWithin, h]

theorem reachesWithin_self {active : List ArrayId} (h : target ∉ active) (n : Nat) :
    reachesWithin s target n active (.array target) = true := by
  cases n <;> simp [reachesWithin, h]

theorem reachesWithin_succ {a : ArrayId} {active : List ArrayId} (h : a ∉ active)
    (other : a ≠ target) (n : Nat) :
    reachesWithin s target (n + 1) active (.array a) =
      (s.elements a).toList.any (reachesWithin s target n (a :: active)) := by
  simp [reachesWithin, h, other]

/-- A search with enough room finds what is opened. -/
theorem reachesWithin_iff {n : Nat} {active : List ArrayId} (room : Room s.arrayIds n active)
    (v : Value) : reachesWithin s target n active v = true ↔ Opens s target active v := by
  induction n generalizing active v with
  | zero =>
    obtain ⟨m, hm⟩ := room.exists_succ
    cases hm
  | succ n ih =>
    cases v with
    | array a =>
      by_cases met : a ∈ active
      · rw [reachesWithin_of_mem met]
        refine ⟨(nomatch ·), fun h => ?_⟩
        cases h with
        | here unmet | inside unmet => exact absurd met unmet
      by_cases same : a = target
      · subst same
        rw [reachesWithin_self met]
        exact ⟨fun _ => .here met, fun _ => rfl⟩
      have into {x : Value} (mem : x ∈ s.elements a) : Room s.arrayIds n (a :: active) :=
        room.cons met (Store.mem_arrayIds_of_mem mem)
      rw [reachesWithin_succ met same, List.any_eq_true]
      constructor
      · rintro ⟨x, mem, h⟩
        have mem := Array.mem_toList_iff.1 mem
        exact .inside met mem ((ih (into mem) x).1 h)
      · intro h
        cases h with
        | here => exact absurd rfl same
        | inside _ mem h => exact ⟨_, Array.mem_toList_iff.2 mem, (ih (into mem) _).2 h⟩
    | _ =>
      simp only [reachesWithin, Bool.false_eq_true, false_iff]
      intro h
      cases h

/-- An array can be reached from a value just if elements lead to it. -/
theorem reaches_iff {v : Value} : v.reaches s target = true ↔
    ∃ a, v = .array a ∧ Relation.ReflTransGen s.Links a target := by
  have room := Room.nil s.arrayIds
  rw [Store.card_arrayIds] at room
  exact (reachesWithin_iff room v).trans opens_nil_iff

end Value

end FoxScript
