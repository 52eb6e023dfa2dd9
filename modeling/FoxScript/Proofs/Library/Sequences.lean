import FoxScript.Proofs.Library.Arrays
import FoxScript.Proofs.Library.Reversal
import FoxScript.Proofs.Library.Searching

/-!
# `reverse`, `contains` and `push` in programs

These functions of the library on arrays call nothing that they are given. So they can be told by
what they give: `reverse` and `push` a new array, and `contains` whether one of the elements equals
a value. Nothing else changes.

## Main statements

* `Session.pushes`: what a call of `push` comes to.
* `Session.Evaluable.reverses`, `Session.Evaluable.reverses_twice`, `Session.Evaluable.searches`,
  `Session.Evaluable.pushes`: the functions in a program.
-/
namespace FoxScript

open Library

namespace Session

variable {s : Session} {c x : Value} {a : ArrayId} {m : Nat}

/-! ### `push` -/

/-- What a call of `push` comes to. -/
theorem pushes (sound : s.Sound) (h : s.Bundles pushCode c) (natives : s.HasBuiltins [.merge])
    (root : s.store.HasFrame Store.root) (ha : s.store.HasArray a) (enough : 3 ≤ m)
    (close : Token) :
    s.Makes ((s.store.elements a).push x)
      (Eval.invoke (Eval.evaluate m) close c [.array a, x] s) := by
  obtain ⟨call, b, e, bound, place, leaves⟩ :=
    h.starts sound (by simp) close (show _ = [Value.array a, x].length from rfl) (by decide)
  obtain ⟨callee, es, bracket, rfl, first, rest⟩ := (place.mono bound.tends.recalls).call
  obtain ⟨e₁, es, rfl, h₁, rest⟩ := rest.cons
  obtain ⟨e₂, es, rfl, h₂, rest⟩ := rest.cons
  obtain rfl := rest.nil
  obtain ⟨es, inner, rfl, members⟩ := h₂.array
  obtain ⟨id, native⟩ := natives .merge (by decide)
  obtain ⟨k, rfl⟩ := Nat.exists_eq_add_of_le' enough
  have merge : (Code.name "merge").Has [pushCode.scope] 1 b (.function (.builtin id .merge)) :=
    (bound.knows_global root native rfl).has
  have array : (Code.name "xs").Has [pushCode.scope] 1 b (.array a) :=
    (bound.knows List.mem_cons_self rfl).has
  have given : (Code.name "x").Has [pushCode.scope] 1 b x :=
    (bound.knows (List.mem_cons_of_mem _ List.mem_cons_self) rfl).has
  -- the value is put into an array of its own, and then the two arrays are put together
  let t : Session := { b with store := (b.store.newArray #[x]).2 }
  have single : Eval.evaluate (k + 2) (.array es inner) b =
      .ok (.array (b.store.newArray #[x]).1) t := by
    have values := Code.EachHas.all_eq (.cons ⟨rfl, given⟩ .nil) members (Nat.le_add_left 1 k) #[]
    exact Eval.bind_of_ok values
  have args : Eval.all (Eval.evaluate (k + 2)) #[] [e₁, .array es inner] b =
      .ok #[.array a, .array (b.store.newArray #[x]).1] t :=
    (Eval.bind_of_ok (array e₁ _ h₁ (Nat.le_add_left 1 (k + 1)))).trans (Eval.bind_of_ok single)
  have ha' : b.store.HasArray a := Nat.lt_of_lt_of_le ha bound.tends.store.arrays
  have left : t.store.elements a = s.store.elements a :=
    (Store.elements_newArray_of_hasArray ha' #[x]).trans (bound.tends.store.elements ha not_false)
  have right : t.store.elements (b.store.newArray #[x]).1 = #[x] :=
    (b.store.elements_newArray #[x] _).trans (if_pos rfl)
  have merged : Eval.invoke (Eval.evaluate (k + 2)) bracket (.function (.builtin id .merge))
      [.array a, .array (b.store.newArray #[x]).1] t =
        Eval.newArray (t.store.elements a ++ t.store.elements (b.store.newArray #[x]).1) t := rfl
  rw [left, right] at merged
  have body := (Code.evaluate_call first merge (Nat.le_add_left 1 (k + 1)) args).trans merged
  let vs := s.store.elements a ++ #[x]
  obtain ⟨fresh, there⟩ := t.store.newArray_isNew vs
  have tends : b.Tends .none { t with store := (t.store.newArray vs).2 } :=
    .of_store b ((b.store.tends_newArray _ #[x]).trans (t.store.tends_newArray _ vs)) _
  have grown : s.store.arrays.size ≤ t.store.arrays.size :=
    Nat.le_trans bound.tends.store.arrays (b.store.tends_newArray Secret.none #[x]).arrays
  refine ⟨(t.store.newArray vs).1, _, leaves (k + 3) _ body fun _ _ => nofun,
    bound.leaves tends s.frame, rfl, fun old => fresh (Nat.lt_of_lt_of_le old grown), there, ?_⟩
  exact ((t.store.elements_newArray vs _).trans (if_pos rfl)).trans Array.append_singleton

/-! ### Calls in a program -/

section

variable {t u : Session} {e callee : Expr} {close : Token} {c' : Value}

/-- A program calls something with an array, and with other values. -/
theorem Evaluable.invokes (h : t.Evaluable e) {vs : List Value}
    (calls : t.Calls m e c (.array a :: vs) s) :
    ∃ close, Eval.evaluate (m + 1) e t =
        Eval.invoke (Eval.evaluate m) close c (.array a :: vs) s ∧
      s.Sound ∧ s.store.HasFrame Store.root ∧ s.store.HasArray a := by
  obtain ⟨sound, secludes, «open»⟩ := h.of_calls calls
  obtain ⟨close, evaluated⟩ := calls.evaluate_eq
  exact ⟨close, evaluated, sound, secludes.root.1, («open» (.array a) List.mem_cons_self).1⟩

/-- A program calls `reverse`. -/
theorem Evaluable.reverses (h : t.Evaluable e) (calls : t.Calls (m + 5) e c [.array a] s)
    (bundles : s.Bundles reverseCode c) (natives : s.HasBuiltins [.len, .newArray, .set])
    (small : (s.store.elements a).size < 2 ^ 53) (enough : (s.store.elements a).size + 4 ≤ m) :
    s.Reverses a (Eval.evaluate (m + 6) e t) := by
  obtain ⟨close, invokes, sound, root, there⟩ := h.invokes calls
  rw [invokes]
  exact s.reverses sound root bundles natives there small enough close

/-- A program calls `reverse` with what `reverse` gives. -/
theorem Evaluable.reverses_twice (h : t.Evaluable (.call callee [e] close))
    (called : Eval.evaluate (m + 6) callee t = .ok c u)
    (calls : u.Calls (m + 5) e c' [.array a] s) (outer : s.Bundles reverseCode c)
    (inner : s.Bundles reverseCode c') (natives : s.HasBuiltins [.len, .newArray, .set])
    (small : (s.store.elements a).size < 2 ^ 53) (enough : (s.store.elements a).size + 4 ≤ m)
    (room : (s.store.elements a).size ≤ s.memory) :
    s.Makes (s.store.elements a) (Eval.evaluate (m + 7) (.call callee [e] close) t) := by
  have evaluable := h.argument called
  have first := evaluable.reverses calls inner natives small enough
  rw [Reverses, if_pos room] at first
  obtain ⟨b, w, ends, tends, frame, new, there, reversed⟩ := first
  have size : (w.store.elements b).size = (s.store.elements a).size := by
    rw [reversed, Array.size_reverse]
  have given : Eval.all (Eval.evaluate (m + 6)) #[] [e] u = .ok [Value.array b].toArray w :=
    Eval.bind_of_ok ends
  obtain ⟨_, -, -, root, -⟩ := evaluable.invokes calls
  have programs : w.programs = s.programs := by rw [tends.rest]
  have memory := tends.memory
  have second := h.reverses (m := m + 1) (.call called given)
    (outer.mono (by simp [programs])) (natives.mono root tends) (by omega) (by omega)
  rw [Reverses, if_pos (by omega)] at second
  obtain ⟨b', w', ends', tends', frame', new', there', back⟩ := second
  refine ⟨b', w', ends', tends.trans tends', frame'.trans frame,
    fun old => new' (Nat.lt_of_lt_of_le old tends.store.arrays), there', ?_⟩
  rw [back, reversed, Array.reverse_reverse]

/-- A program calls `contains`. -/
theorem Evaluable.searches (h : t.Evaluable e) (calls : t.Calls (m + 5) e c [.array a, x] s)
    (bundles : s.Bundles containsCode c) (natives : s.HasBuiltins [.len])
    (small : (s.store.elements a).size < 2 ^ 53) (enough : (s.store.elements a).size + 4 ≤ m) :
    s.Searches a x (Eval.evaluate (m + 6) e t) := by
  obtain ⟨close, invokes, sound, root, there⟩ := h.invokes calls
  rw [invokes]
  exact s.searches sound root bundles natives there small enough close

/-- A program calls `push`. -/
theorem Evaluable.pushes (h : t.Evaluable e) (calls : t.Calls m e c [.array a, x] s)
    (bundles : s.Bundles pushCode c) (natives : s.HasBuiltins [.merge]) (enough : 3 ≤ m) :
    s.Makes ((s.store.elements a).push x) (Eval.evaluate (m + 1) e t) := by
  obtain ⟨close, invokes, sound, root, there⟩ := h.invokes calls
  rw [invokes]
  exact s.pushes sound bundles natives root there enough close

end

/-- Wherever a program calls `reverse`, `contains` or `push` of the library, the call has its value:
`reverse` gives a new array with the elements from the last to the first, and twice it gives one
with the elements in their order; `contains` tells whether one of the elements equals the value;
`push` gives a new array with the elements and the value after them. Nothing that was there before
changes, and nothing is printed. This holds as long as the builtin functions that they call have
their names, and for the first two, the number of elements is a number without loss. `reverse` needs
memory for the new array, and fails with nothing changed if there is none. -/
theorem Reachable.rearranges {s₀ : Session} (h : s₀.Reachable) {program : List Expr}
    (accepted : (s₀.baseDirectory, program) ∈ s₀.programs) (N m : Nat) :
    (∀ t e c a s, s₀.Visits N program t e → t.Calls (m + 5) e c [.array a] s →
      s.Bundles reverseCode c → s.HasBuiltins [.len, .newArray, .set] →
      (s.store.elements a).size < 2 ^ 53 → (s.store.elements a).size + 4 ≤ m →
      s.Reverses a (Eval.evaluate (m + 6) e t)) ∧
    (∀ t u callee e close c c' a s, s₀.Visits N program t (.call callee [e] close) →
      Eval.evaluate (m + 6) callee t = .ok c u → u.Calls (m + 5) e c' [.array a] s →
      s.Bundles reverseCode c → s.Bundles reverseCode c' → s.HasBuiltins [.len, .newArray, .set] →
      (s.store.elements a).size < 2 ^ 53 → (s.store.elements a).size + 4 ≤ m →
      (s.store.elements a).size ≤ s.memory →
      s.Makes (s.store.elements a) (Eval.evaluate (m + 7) (.call callee [e] close) t)) ∧
    (∀ t e c a x s, s₀.Visits N program t e → t.Calls (m + 5) e c [.array a, x] s →
      s.Bundles containsCode c → s.HasBuiltins [.len] →
      (s.store.elements a).size < 2 ^ 53 → (s.store.elements a).size + 4 ≤ m →
      s.Searches a x (Eval.evaluate (m + 6) e t)) ∧
    (∀ t e c a x s, s₀.Visits N program t e → t.Calls (m + 5) e c [.array a, x] s →
      s.Bundles pushCode c → s.HasBuiltins [.merge] →
      s.Makes ((s.store.elements a).push x) (Eval.evaluate (m + 6) e t)) := by
  refine ⟨?_, ?_, ?_, ?_⟩
  · intro t e c a s visits
    exact (h.evaluable_of_visits accepted visits).reverses
  · intro t u callee e close c c' a s visits
    exact (h.evaluable_of_visits accepted visits).reverses_twice
  · intro t e c a x s visits
    exact (h.evaluable_of_visits accepted visits).searches
  · intro t e c a x s visits calls bundles natives
    exact (h.evaluable_of_visits accepted visits).pushes calls bundles natives (by omega)

/-- A text that is read as one piece of code can be compiled, and its run begins with it. -/
theorem Reachable.exists_single (h : s.Reachable) (source : String) (code : Code)
    (faults : (Import.read 0 source).faults = [])
    (resolved : (resolve s.files s.policy s.baseDirectory (Import.read 0 source).exprs).faults = [])
    (single : Code.fitsEach [code] (Import.read 0 source).exprs) :
    ∃ s₀ e, s₀.Reachable ∧ (s₀.baseDirectory, [e]) ∈ s₀.programs ∧ s₀.Visits 1 [e] s₀ e ∧
      code.At s₀ [] e ∧ s₀.store = s.store ∧ s₀.memory = s.memory ∧
      s.programs ⊆ s₀.programs := by
  obtain ⟨s₀, compiled⟩ := compile_of_read_zero faults resolved
  obtain ⟨reachable, accepted⟩ := h.compiled compiled
  have store := s.store_compile source
  have memory := s.memory_compile source
  have programs := (s.grows_compile source).programs
  rw [compiled] at store memory programs
  rw [Code.fitsEach_read [code] 0 s.fresh] at single
  generalize (Import.read s.fresh source).exprs = program at accepted single
  obtain _ | ⟨e, _ | ⟨e', es⟩⟩ := program
  · cases single
  · have fits : code.fits e := (Bool.and_eq_true_iff.1 single).1
    exact ⟨s₀, e, reachable, accepted, s₀.visits_first 0 e [],
      reachable.sound.at_of_mem accepted (List.mem_singleton_self e) fits, store, memory, programs⟩
  · cases (Bool.and_eq_true_iff.1 single).2

/-- Whole numbers that are written have their values. -/
theorem eachHas_numbers (s : Session) (ns : List Nat) :
    Code.EachHas (ns.map .number) [] 1 s (ns.map fun n => .number (Float.ofNat n)) := by
  induction ns with
  | nil => exact .nil
  | cons n ns ih => exact .cons ⟨rfl, .number n⟩ ih

/-- A call with an array that is written, and with numbers after it. -/
theorem exists_calls {f : String} {e : Expr} (ns ms : List Nat)
    (place : (Code.call (.name f) (.array (ns.map .number) :: ms.map .number)).At s [] e)
    (found : s.store.lookup? Store.root f = some c) (k : Nat) :
    ∃ a u, s.Calls (k + 2) e c (.array a :: ms.map fun n => .number (Float.ofNat n)) u ∧
      u = { s with store := u.store } ∧ s.Tends .none u ∧
      u.store.elements a = (ns.map fun n => Value.number (Float.ofNat n)).toArray := by
  obtain ⟨callee, es, close, rfl, first, rest⟩ := place.call
  obtain ⟨e, es, rfl, written, numbers⟩ := rest.cons
  obtain ⟨members, bracket, rfl, inner⟩ := written.array
  let vs := (ns.map fun n => Value.number (Float.ofNat n)).toArray
  let u : Session := { s with store := (s.store.newArray vs).2 }
  have tends : s.Tends .none u := .of_store s (s.store.tends_newArray _ vs) _
  have callee' : (Code.name f).Has [] 1 s c := .name rfl found
  have called := callee' callee (k + 2) first (Nat.le_add_left 1 (k + 1))
  have values := (eachHas_numbers s ns).all_eq inner (Nat.le_add_left 1 k) #[]
  rw [Array.empty_append] at values
  have made : Eval.evaluate (k + 2) (.array members bracket) s =
      .ok (.array (s.store.newArray vs).1) u := Eval.bind_of_ok values
  have others := (eachHas_numbers u ms).all_eq (numbers.mono tends.recalls)
    (Nat.le_add_left 1 (k + 1)) #[.array (s.store.newArray vs).1]
  have given : Eval.all (Eval.evaluate (k + 2)) #[] (.array members bracket :: es) s =
      .ok (Value.array (s.store.newArray vs).1 ::
        ms.map fun n => Value.number (Float.ofNat n)).toArray u := by
    refine (Eval.bind_of_ok made).trans (others.trans ?_)
    rw [← List.toArray_cons]
  exact ⟨_, u, .call called given, rfl, tends, (s.store.elements_newArray vs _).trans (if_pos rfl)⟩

/-- A text that calls a function of the library so is run. -/
theorem Reachable.exists_call (h : s.Reachable) {r : Routine} {bs : List Builtin}
    (found : s.store.lookup? Store.root r.name = some c) (bundles : s.Bundles r c)
    (natives : s.HasBuiltins bs) (ns ms : List Nat) (source : String)
    (faults : (Import.read 0 source).faults = [])
    (resolved : (resolve s.files s.policy s.baseDirectory (Import.read 0 source).exprs).faults = [])
    (single : Code.fitsEach
      [.call (.name r.name) (.array (ns.map .number) :: ms.map .number)]
      (Import.read 0 source).exprs) (k : Nat) :
    ∃ (s₀ t : Session) (e : Expr) (a : ArrayId), s₀.Reachable ∧
      (s₀.baseDirectory, [e]) ∈ s₀.programs ∧ s₀.Visits 1 [e] s₀ e ∧
      s₀.Calls (k + 2) e c (.array a :: ms.map fun n => .number (Float.ofNat n)) t ∧
      t.Bundles r c ∧ t.HasBuiltins bs ∧ s₀.store = s.store ∧ t.memory = s.memory ∧
      t.store.elements a = (ns.map fun n => Value.number (Float.ofNat n)).toArray := by
  obtain ⟨s₀, e, reachable, accepted, visits, place, store, memory, programs⟩ :=
    h.exists_single source _ faults resolved single
  obtain ⟨a, t, calls, rest, tends, elements⟩ := exists_calls ns ms place (store ▸ found) k
  have here : s₀.HasBuiltins bs := fun b hb => store ▸ natives b hb
  exact ⟨s₀, t, e, a, reachable, accepted, visits, calls,
    bundles.mono (by rw [rest]; exact programs), here.mono reachable.secludes.root.1 tends, store,
    tends.memory.trans memory, elements⟩

/-- A session that has run the library, and programs that call `reverse`, once and twice, `contains`
and `push` with an array of two numbers. -/
theorem rearranges_of_two_elements :
    ∃ s : Session, s.Reachable ∧
      (∃ (s₀ t : Session) (e : Expr), s₀.store = s.store ∧
        t.Makes #[.number (Float.ofNat 2), .number (Float.ofNat 1)] (Eval.evaluate 12 e s₀)) ∧
      (∃ (s₀ t : Session) (e : Expr), s₀.store = s.store ∧
        t.Makes #[.number (Float.ofNat 1), .number (Float.ofNat 2)] (Eval.evaluate 13 e s₀)) ∧
      (∃ (s₀ t : Session) (e : Expr) (a : ArrayId), s₀.store = s.store ∧
        t.store.elements a = #[.number (Float.ofNat 1), .number (Float.ofNat 2)] ∧
        t.Searches a (.number (Float.ofNat 2)) (Eval.evaluate 12 e s₀)) ∧
      (∃ (s₀ t : Session) (e : Expr), s₀.store = s.store ∧
        t.Makes #[.number (Float.ofNat 1), .number (Float.ofNat 2), .number (Float.ofNat 3)]
          (Eval.evaluate 12 e s₀)) := by
  have natives : (new .empty .current .propagate (.ofBytes []) 0).HasNatives := by
    intro b hb
    simp only [List.mem_cons, List.not_mem_nil, or_false] at hb
    obtain rfl | rfl | rfl | rfl := hb <;> exact ⟨_, rfl⟩
  obtain ⟨s, reachable, natives, files, policy, base, memory, bound⟩ :=
    Reachable.exists_loaded (.new .empty .current .propagate (.ofBytes []) 0) natives
      (List.isEmpty_iff.1 read_arrays.2.2.1)
  have fewer {bs : List Builtin} (among : bs ⊆ [.len, .newArray, .set, .merge]) :
      s.HasBuiltins bs := fun b hb => natives b (among hb)
  have reversing : s.HasBuiltins [.len, .newArray, .set] := fewer (by simp)
  have searching : s.HasBuiltins [.len] := fewer (by simp)
  have pushing : s.HasBuiltins [.merge] := fewer (by simp)
  refine ⟨s, reachable, ?reverse, ?twice, ?contains, ?push⟩
  case reverse =>
    obtain ⟨c, found, bundles⟩ := bound reverseCode (by simp)
    obtain ⟨s₀, t, e, a, reachable₀, accepted, visits, calls, bundles, natives, store, same,
      elements⟩ :=
      reachable.exists_call found bundles reversing [1, 2] [] "reverse([1, 2])"
        (by decide +kernel) (by rw [files, policy, base]; decide +kernel) (by decide +kernel) 9
    have reverses := (reachable₀.rearranges accepted 1 6).1 s₀ e c a t visits calls bundles natives
      (by rw [elements]; decide) (by rw [elements]; decide)
    have order : ([1, 2].map fun n => Value.number (Float.ofNat n)).toArray.reverse =
        #[.number (Float.ofNat 2), .number (Float.ofNat 1)] := by simp
    rw [Reverses, elements, same, memory, if_pos (by decide), order] at reverses
    exact ⟨s₀, t, e, store, reverses⟩
  case twice =>
    obtain ⟨c, found, bundles⟩ := bound reverseCode (by simp)
    obtain ⟨s₀, e, reachable₀, accepted, visits, place, store, same, programs⟩ :=
      reachable.exists_single "reverse(reverse([1, 2]))"
        (.call (.name "reverse") [.call (.name "reverse") [.array [.number 1, .number 2]]])
        (by decide +kernel) (by rw [files, policy, base]; decide +kernel) (by decide +kernel)
    obtain ⟨callee, es, close, rfl, first, rest⟩ := place.call
    obtain ⟨e, es, rfl, inner, none⟩ := rest.cons
    obtain rfl := none.nil
    have callee' : (Code.name "reverse").Has [] 1 s₀ c := .name rfl (store ▸ found)
    have called := callee' callee 12 first (by decide)
    obtain ⟨a, t, calls, rest, tends, elements⟩ := exists_calls [1, 2] [] inner (store ▸ found) 9
    have outer : t.Bundles reverseCode c := bundles.mono (by rw [rest]; exact programs)
    have here : s₀.HasBuiltins [.len, .newArray, .set] := fun b hb => store ▸ reversing b hb
    have makes := (reachable₀.rearranges accepted 1 6).2.1 s₀ s₀ callee e close c c a t visits
      called calls outer outer (here.mono reachable₀.secludes.root.1 tends)
      (by rw [elements]; decide) (by rw [elements]; decide)
      (by rw [elements, tends.memory, same, memory]; decide)
    rw [elements] at makes
    exact ⟨s₀, t, _, store, makes⟩
  case contains =>
    obtain ⟨c, found, bundles⟩ := bound containsCode (by simp)
    obtain ⟨s₀, t, e, a, reachable₀, accepted, visits, calls, bundles, natives, store, -, elements⟩ :=
      reachable.exists_call found bundles searching [1, 2] [2] "contains([1, 2], 2)"
        (by decide +kernel) (by rw [files, policy, base]; decide +kernel) (by decide +kernel) 9
    have searches := (reachable₀.rearranges accepted 1 6).2.2.1 s₀ e c a _ t visits calls bundles
      natives (by rw [elements]; decide) (by rw [elements]; decide)
    exact ⟨s₀, t, e, a, store, elements, searches⟩
  case push =>
    obtain ⟨c, found, bundles⟩ := bound pushCode (by simp)
    obtain ⟨s₀, t, e, a, reachable₀, accepted, visits, calls, bundles, natives, store, -, elements⟩ :=
      reachable.exists_call found bundles pushing [1, 2] [3] "push([1, 2], 3)"
        (by decide +kernel) (by rw [files, policy, base]; decide +kernel) (by decide +kernel) 9
    have pushes := (reachable₀.rearranges accepted 1 6).2.2.2 s₀ e c a _ t visits calls bundles
      natives
    rw [elements] at pushes
    exact ⟨s₀, t, e, store, pushes⟩

end Session

end FoxScript
