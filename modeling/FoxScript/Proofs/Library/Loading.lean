import FoxScript.Proofs.Library.Traversal
import FoxScript.Proofs.Session.Assurance

/-!
# Loading the library

The library on arrays is a program that only makes functions. Where it has been run, these have their
names.

## Main statements

* `Eval.last_functions`: programs that only make functions.
* `Session.compile_of_read_zero`: the numbers that a session has given out do not matter for what it
  compiles.
* `Session.bundles_of_run`: what the library binds.
-/
namespace FoxScript

open Library

/-- Functions that are made one after the other under different names are bound in the frame of the
session. Nothing else changes there. -/
theorem Eval.last_functions {es : List Expr} {names : List String} (n : Nat) (v : Value)
    {s : Session} (held : s.store.HasFrame s.frame) (known : es.map declares = names.map some)
    (apart : names.Nodup) :
    ∃ w t, last (evaluate (n + 1)) v es s = .ok w t ∧ t = { s with store := t.store } ∧
      (∀ x, x ∉ names → t.store.lookup? s.frame x = s.store.lookup? s.frame x) ∧
      ∀ name params body, .function (some name) params body ∈ es → ∃ id,
        t.store.lookup? s.frame name.lexeme =
          some (.function (.closure id (some name) params body s.frame)) := by
  induction es generalizing names s v with
  | nil => exact ⟨v, s, rfl, rfl, fun _ _ => rfl, nofun⟩
  | cons e es ih =>
    cases names with
    | nil => cases known
    | cons x names =>
      obtain ⟨first, rest⟩ := List.cons.inj known
      obtain ⟨new, distinct⟩ := List.nodup_cons.1 apart
      cases e with
      | function name params body =>
        cases name with
        | none => cases first
        | some name =>
          obtain rfl := Option.some.inj first
          let v : Value := .function (.closure ⟨s.store.functions⟩ (some name) params body s.frame)
          let u : Session := { s with store := s.store.newFunction.2.define s.frame name.lexeme v }
          have made : evaluate (n + 1) (.function (some name) params body) s = .ok v u := rfl
          have look (y : String) : u.store.lookup? s.frame y =
              if s.frame = s.frame ∧ y = name.lexeme then some v else s.store.lookup? s.frame y :=
            s.store.newFunction.2.lookup?_define held s.frame name.lexeme y v
          have there : u.store.HasFrame u.frame :=
            Nat.lt_of_lt_of_eq held (s.store.newFunction.2.sameTree_define _ _ _).size.symm
          obtain ⟨w, t, ends, rest', others, bound⟩ := ih v there rest distinct
          refine ⟨w, t, (bind_of_ok made).trans ends, rest', fun y hy => ?_, fun x ps b mem => ?_⟩
          · obtain ⟨other, hy⟩ : y ≠ name.lexeme ∧ y ∉ names := by simpa using hy
            exact (others y hy).trans ((look y).trans (if_neg fun same => other same.2))
          · obtain same | mem := List.mem_cons.1 mem
            · cases same
              exact ⟨_, (others _ new).trans ((look _).trans (if_pos ⟨rfl, rfl⟩))⟩
            · exact bound x ps b mem
      | _ => cases first

namespace Session

variable {s : Session} {program : List Expr}

/-- A program that only makes functions, under the names of the library, binds these names and no
others. -/
theorem interpretBy_of_declares (n : Nat) (root : s.frame = Store.root)
    (held : s.store.HasFrame Store.root) (declared : program.map declares = names.map some) :
    ∃ v store, s.interpretBy (Eval.evaluate (n + 1)) program = (.value v, { s with store := store }) ∧
      (∀ x, x ∉ names → store.lookup? Store.root x = s.store.lookup? Store.root x) ∧
      ∀ x ∈ names, ∃ id name params body, name.lexeme = x ∧
        .function (some name) params body ∈ program ∧
        store.lookup? Store.root x =
          some (.function (.closure id (some name) params body Store.root)) := by
  have distinct : names.Nodup := by decide
  obtain ⟨w, t, ends, rest, others, bound⟩ :=
    Eval.last_functions n .null (root ▸ held) declared distinct
  rw [root] at others bound
  refine ⟨w, t.store, ?_, others, fun x hx => ?_⟩
  · rw [interpretBy, Eval.interpret, Eval.confined, ends, ← rest]
  · obtain ⟨e, mem, declares⟩ : ∃ e ∈ program, declares e = some x := by
      rw [← List.mem_map, declared]
      exact List.mem_map_of_mem hx
    cases e with
    | function name params body =>
      cases name with
      | none => cases declares
      | some name =>
        obtain rfl := Option.some.inj declares
        obtain ⟨id, found⟩ := bound name params body mem
        exact ⟨id, name, params, body, rfl, mem, found⟩
    | _ => cases declares

/-- A text that has no faults when its uses are numbered from 0 on can be compiled. -/
theorem compile_of_read_zero {source : String} (faults : (Import.read 0 source).faults = [])
    (sound : (resolve s.files s.policy s.baseDirectory (Import.read 0 source).exprs).faults = []) :
    ∃ t, s.compile source = (.ok (Import.read s.fresh source).exprs, t) := by
  obtain ⟨same, scopes⟩ := Import.check_read s.fresh 0 source
  rw [compile_of_read (same.trans faults)]
  exact ⟨_, accept_of_faults ((scopes _).trans sound)⟩

theorem Bundles.mono {t : Session} {r : Routine} {v : Value} (h : s.Bundles r v)
    (programs : s.programs ⊆ t.programs) : t.Bundles r v := by
  obtain ⟨k, d, id, name, params, body, accepted, rest⟩ := h
  exact ⟨k, d, id, name, params, body, programs accepted, rest⟩

/-- What the library binds when it is run: its functions on arrays. The builtin functions that they
call keep their names. -/
theorem bundles_of_run {d : Path} {k n : Nat} (root : s.frame = Store.root)
    (held : s.store.HasFrame Store.root) (natives : s.HasNatives)
    (accepted : (d, (Import.read k arrays).exprs) ∈ s.programs) :
    ∃ v store, s.interpretBy (Eval.evaluate (n + 1)) (Import.read k arrays).exprs =
        (.value v, { s with store := store }) ∧
      HasNatives { s with store := store } ∧ ∀ r ∈ routines,
        ∃ c, store.lookup? Store.root r.name = some c ∧ Bundles { s with store := store } r c := by
  obtain ⟨v, store, run, others, bound⟩ := interpretBy_of_declares n root held (declares_read k)
  have free : ∀ b ∈ [Builtin.len, .newArray, .set, .merge], b.name ∉ names := by decide
  have known : ∀ r ∈ routines, r.name ∈ names := by decide
  refine ⟨v, store, run, fun b hb => ?_, fun r hr => ?_⟩
  · obtain ⟨id, found⟩ := natives b hb
    exact ⟨id, (others _ (free b hb)).trans found⟩
  · obtain ⟨id, name, params, body, spelled, mem, found⟩ := bound r.name (known r hr)
    exact ⟨_, found, k, d, id, name, params, body, accepted, mem, spelled, rfl⟩

/-- Where the library is compiled and run, its functions are bound. -/
theorem Reachable.exists_loaded (h : s.Reachable) (natives : s.HasNatives)
    (sound : (resolve s.files s.policy s.baseDirectory (Import.read 0 arrays).exprs).faults = []) :
    ∃ t : Session, t.Reachable ∧ t.HasNatives ∧ t.files = s.files ∧ t.policy = s.policy ∧
      t.baseDirectory = s.baseDirectory ∧ t.memory = s.memory ∧
      ∀ r ∈ routines,
        ∃ c, t.store.lookup? Store.root r.name = some c ∧ t.Bundles r c := by
  obtain ⟨t, compiled⟩ := compile_of_read_zero read_arrays.1 sound
  obtain ⟨reachable, accepted⟩ := h.compiled compiled
  obtain ⟨fresh, hops, programs, same⟩ := s.compile_snd arrays
  obtain rfl : t = { s with fresh := fresh, hops := hops, programs := programs } := by
    rwa [compiled] at same
  obtain ⟨v, store, run, natives, bound⟩ :=
    bundles_of_run (n := 0) reachable.tied.1 reachable.secludes.root.1 natives accepted
  have run' := reachable.interpret accepted 1
  rw [run] at run'
  exact ⟨_, run', natives, rfl, rfl, rfl, rfl, bound⟩

end Session

end FoxScript
