import FoxScript.Proofs.Session.Course

/-!
# Arrays

An array has the length with which it was made, whatever is evaluated. What makes an array makes a
new one, so that an element that is replaced in another array does not change it, and the other way
round. The elements are taken over as they are: arrays among them are shared.

## Main definitions

* `Store.Retains`: the arrays of one store are arrays of another, and as long.
* `Session.Adds`: an array is added to a session.
* `Eval.MakesArray`: a step whose value is an array that was added at its end.

## Main statements

* `Eval.stable_retains`: arrays are retained between any two moments of an evaluation.
* `Session.arrays_keep_lengths`: what becomes of arrays during a run, and how they are made.
-/
namespace FoxScript

namespace Store

/-- The store has the array. -/
def HasArray (s : Store) (a : ArrayId) : Prop := a.index < s.arrays.size

/-- The arrays of `s` are arrays of `t`, and have the same lengths. -/
structure Retains (s t : Store) : Prop where
  /-- No array is lost. -/
  size : s.arrays.size ≤ t.arrays.size
  /-- Arrays keep their lengths. -/
  length : ∀ a, s.HasArray a → (t.elements a).size = (s.elements a).size

theorem Retains.refl (s : Store) : s.Retains s := ⟨Nat.le_refl _, fun _ _ => rfl⟩

theorem Retains.hasArray {s t : Store} (h : s.Retains t) {a : ArrayId} (ha : s.HasArray a) :
    t.HasArray a :=
  Nat.lt_of_lt_of_le ha h.size

theorem Retains.trans {s t u : Store} (h : s.Retains t) (g : t.Retains u) : s.Retains u where
  size := Nat.le_trans h.size g.size
  length a ha := (g.length a (h.hasArray ha)).trans (h.length a ha)

theorem retains_of_arrays_eq {s t : Store} (h : t.arrays = s.arrays) : s.Retains t where
  size := by rw [h]
  length a _ := by rw [elements, elements, h]

/-- An array that is added is none of those before. -/
theorem elements_newArray_of_hasArray {s : Store} {a : ArrayId} (ha : s.HasArray a)
    (vs : Array Value) : (s.newArray vs).2.elements a = s.elements a := by
  rw [elements_newArray, if_neg (Nat.ne_of_lt ha)]

theorem retains_newArray (s : Store) (vs : Array Value) : s.Retains (s.newArray vs).2 where
  size := by simp [newArray]
  length a ha := by rw [elements_newArray_of_hasArray ha]

theorem retains_setAt (s : Store) (a : ArrayId) (i : Nat) (v : Value) :
    s.Retains (s.setAt a i v) where
  size := by simp [setAt]
  length b _ := by
    rw [elements_setAt]
    split
    · rename_i same
      rw [same, Array.size_set!]
    · rfl

/-- No change of a store changes the length of an array. -/
theorem retains_of_change {α : Type} {f : FrameId → Store → α × Store} (h : Eval.Change f)
    (frame : FrameId) (s : Store) : s.Retains (f frame s).2 := by
  cases h with
  | branch | define | replace | newFunction => exact retains_of_arrays_eq rfl
  | newArray vs => exact s.retains_newArray vs
  | setAt a i v => exact s.retains_setAt a i v

/-- The place of an element is in the array that the value stands for. -/
theorem elementPlace_eq_ok {s : Store} {target index : Value} {a : ArrayId} {i : Nat}
    (h : s.elementPlace target index = .ok (a, i)) : target = .array a := by
  cases target with
  | array b =>
    simp only [elementPlace] at h
    split at h
    · cases h
    · split at h
      · cases h
      · split at h <;> cases h
        rfl
  | _ => cases h

end Store

/-- In `s` an array with certain elements is added, which leads to `t`. -/
structure Session.Adds (s : Session) (vs : Array Value) (a : ArrayId) (t : Session) : Prop where
  /-- The array is none of those before. -/
  fresh : ¬s.store.HasArray a
  /-- Now it is there. -/
  hasArray : t.store.HasArray a
  /-- It has the elements. -/
  elements : t.store.elements a = vs
  /-- All other arrays stay as they are. -/
  others : ∀ b, s.store.HasArray b → t.store.HasArray b ∧ t.store.elements b = s.store.elements b
  /-- All but the arrays stays as it is. -/
  rest : t = { s with store := { s.store with arrays := t.store.arrays } }

theorem Session.adds_newArray (s : Session) (vs : Array Value) :
    s.Adds vs (s.store.newArray vs).1 { s with store := (s.store.newArray vs).2 } where
  fresh := Nat.lt_irrefl _
  hasArray := by simp [Store.HasArray, Store.newArray]
  elements := (s.store.elements_newArray vs _).trans (if_pos rfl)
  others b hb := ⟨(s.store.retains_newArray vs).hasArray hb,
    Store.elements_newArray_of_hasArray hb vs⟩
  rest := rfl

/-- The elements that a builtin function gives to the array that it makes, where the arguments are
of the right kinds. -/
def Builtin.Fills (b : Builtin) (args : List Value) (s : Store) (vs : Array Value) : Prop :=
  match b, args with
  | .newArray, [.number x] => ∃ n, Number.toWhole? x = some n ∧ vs = Array.replicate n .null
  | .merge, [.array a, .array c] => vs = s.elements a ++ s.elements c
  | .split, [.text _, .text _] => ∃ pieces : List String, vs = (pieces.map Value.text).toArray
  | _, _ => False

namespace Eval

/-- Arrays are retained between any two moments of an evaluation. -/
theorem stable_retains : Stable fun s t => s.store.Retains t.store where
  refl s := .refl s.store
  trans h g := h.trans g
  store h s := Store.retains_of_change h s.frame s.store
  output s _ := .refl s.store
  readLine s := .refl s.store
  readByte s := .refl s.store
  compile s source := by
    obtain ⟨fresh, hops, programs, same⟩ := s.compile_snd source
    rw [same]
    exact .refl s.store
  frame h := h
  baseDirectory h := h
  importing h := h
  enters s _ := .refl s.store
  moves s _ := .refl s.store

theorem retains_evaluate (n : Nat) (e : Expr) (s : Session) :
    s.store.Retains (sessionAfter (evaluate n e s)).store :=
  stable_retains.of_built (built_evaluate n e) s

/-- A step that is put together from evaluations retains the arrays. -/
theorem retains_of_uniform {n : Nat} {α : Type} {act : Eval α} {s t : Session} {a : α}
    (h : Uniform (evaluate n) (evaluate n) act act) (ends : act s = .ok a t) :
    s.store.Retains t.store := by
  have kept := stable_retains.of_built (.of_uniform (built_evaluate n) h) s
  rwa [ends] at kept

/-! ### What makes arrays -/

/-- A step whose value, if it has one, is an array that is added at its end. Of the session before
the array is added, `filled` says what the elements are. -/
def MakesArray (act : Eval Value) (s : Session) (filled : Session → Array Value → Prop) : Prop :=
  ∀ v t, act s = .ok v t → ∃ u vs a, s.store.Retains u.store ∧ filled u vs ∧ v = .array a ∧
    u.Adds vs a t

namespace MakesArray

variable {s : Session} {filled : Session → Array Value → Prop}

theorem newArray {vs : Array Value} (h : filled s vs) : MakesArray (newArray vs) s filled := by
  intro v t made
  cases made
  exact ⟨s, vs, _, .refl _, h, rfl, s.adds_newArray vs⟩

theorem fail (x : Token) (f : Fault) : MakesArray (fail x f) s filled :=
  fun _ _ h => nomatch h

theorem mono {act : Eval Value} {filled' : Session → Array Value → Prop}
    (h : MakesArray act s filled') (imp : ∀ u vs, filled' u vs → filled u vs) :
    MakesArray act s filled := by
  intro v t made
  obtain ⟨u, vs, a, kept, fills, rest⟩ := h v t made
  exact ⟨u, vs, a, kept, imp u vs fills, rest⟩

/-- What is done before the array is made retains the arrays that there are. -/
theorem bind {α : Type} {act : Eval α} {next : α → Eval Value}
    (h : ∀ a u, act s = .ok a u → s.store.Retains u.store ∧ MakesArray (next a) u filled) :
    MakesArray (act >>= next) s filled := by
  intro v t made
  obtain ⟨a, u, first, made⟩ := bind_eq_ok.1 made
  obtain ⟨kept, makes⟩ := h a u first
  obtain ⟨w, vs, b, kept', rest⟩ := makes v t made
  exact ⟨w, vs, b, kept.trans kept', rest⟩

/-- An expression is evaluated before the array is made. -/
theorem eval {n : Nat} {e : Expr} {next : Value → Eval Value}
    (h : ∀ v u, evaluate n e s = .ok v u → MakesArray (next v) u filled) :
    MakesArray (evaluate n e >>= next) s filled :=
  .bind fun v u ends => ⟨retains_of_uniform (.eval e) ends, h v u ends⟩

/-- Something is looked up before the array is made. -/
theorem quiet {α : Type} {act : Eval α} {next : α → Eval Value}
    (h : ∀ a u, act s = .ok a u → u = s ∧ MakesArray (next a) s filled) :
    MakesArray (act >>= next) s filled :=
  .bind fun a u ends => by
    obtain ⟨rfl, makes⟩ := h a u ends
    exact ⟨.refl _, makes⟩

end MakesArray

section

variable {s t : Session}

theorem ofExcept_eq_ok {α : Type} {x : Token} {r : Except Fault α} {a : α}
    (h : ofExcept x r s = .ok a t) : t = s ∧ r = .ok a := by
  cases r with
  | ok b => cases h; exact ⟨rfl, rfl⟩
  | error f => cases h

theorem nonEmptyArray_eq_ok {x : Token} {v : Value} {a : ArrayId}
    (h : nonEmptyArray x v s = .ok a t) : t = s ∧ v = .array a := by
  cases v with
  | array b =>
    obtain ⟨empty, u, read, h⟩ := bind_eq_ok.1 h
    cases read
    dsimp only at h
    split at h
    · cases h
    · cases h
      exact ⟨rfl, rfl⟩
  | _ => cases h

theorem arrayArg_eq_ok {x : Token} {b : Builtin} {v : Value} {vs : Array Value}
    (h : arrayArg x b v s = .ok vs t) : t = s ∧ ∃ a, v = .array a ∧ vs = s.store.elements a := by
  cases v with
  | array a => cases h; exact ⟨rfl, a, rfl, rfl⟩
  | _ => cases h

theorem textArg_eq_ok {x : Token} {b : Builtin} {v : Value} {text : String}
    (h : textArg x b v s = .ok text t) : t = s ∧ v = .text text := by
  cases v with
  | text text => cases h; exact ⟨rfl, rfl⟩
  | _ => cases h

theorem patternArg_eq_ok {x : Token} {b : Builtin} {v : Value} {p : Regex.Program}
    (h : patternArg x b v s = .ok p t) : t = s ∧ ∃ text, v = .text text := by
  obtain ⟨text, u, read, found⟩ := bind_eq_ok.1 h
  obtain ⟨rfl, hv⟩ := textArg_eq_ok read
  generalize Regex.Program.ofPattern text.toList = r at found
  cases r with
  | ok q => cases found; exact ⟨rfl, text, hv⟩
  | error e => cases found

end

section

variable (n : Nat) (s : Session)

/-- The elements of an array that is written out are the values, in turn. -/
theorem makesArray_array (es : List Expr) (close : Token) :
    MakesArray (evaluate (n + 1) (.array es close)) s fun u vs =>
      all (evaluate n) #[] es s = .ok vs u :=
  .bind fun _ _ values => ⟨retains_of_uniform (.all #[] es) values, .newArray values⟩

/-- The elements of a slice are those of the array that is cut, from one index to another. -/
theorem makesArray_slice (target lower upper : Expr) (close : Token) :
    MakesArray (evaluate (n + 1) (.slice target lower upper close)) s fun u vs =>
      ∃ a i j t, evaluate n target s = .ok (.array a) t ∧ u.store.slice a i j = .ok vs := by
  refine .eval fun v _ cut => .quiet fun a t ends => ?_
  obtain ⟨rfl, rfl⟩ := nonEmptyArray_eq_ok ends
  refine ⟨rfl, .eval fun i _ _ => .eval fun j u _ => ?_⟩
  refine .quiet fun r w read => ?_
  cases read
  refine ⟨rfl, .quiet fun vs w ends => ?_⟩
  obtain ⟨rfl, sliced⟩ := ofExcept_eq_ok ends
  exact ⟨rfl, .newArray ⟨a, i, j, t, cut, sliced⟩⟩

/-- An array that a builtin function makes has the elements that are told by the arguments. -/
theorem makesArray_builtin (eval : Expr → Eval Value) (x : Token) {b : Builtin}
    (makes : b ∈ [.newArray, .merge, .split]) {args : List Value} (arity : args.length = b.arity) :
    MakesArray (builtin eval x b args) s fun u vs => u = s ∧ b.Fills args s.store vs := by
  simp only [List.mem_cons, List.not_mem_nil, or_false] at makes
  obtain rfl | rfl | rfl := makes
  · obtain ⟨v, rfl⟩ := List.length_eq_one_iff.1 arity
    cases v with
    | number y =>
      simp only [builtin, arrayOfLength]
      split
      · rename_i k whole
        refine .quiet fun u _ looks => ?_
        cases looks
        refine ⟨rfl, ?_⟩
        split
        · exact .newArray ⟨rfl, k, whole, rfl⟩
        · exact .fail x _
      · rintro _ _ ⟨⟩
    | _ => rintro _ _ ⟨⟩
  · obtain ⟨v, w, rfl⟩ := List.length_eq_two.1 arity
    refine .quiet fun left _ ends => ?_
    obtain ⟨rfl, a, rfl, rfl⟩ := arrayArg_eq_ok ends
    refine ⟨rfl, .quiet fun right _ ends => ?_⟩
    obtain ⟨rfl, c, rfl, rfl⟩ := arrayArg_eq_ok ends
    exact ⟨rfl, .newArray ⟨rfl, rfl⟩⟩
  · obtain ⟨v, w, rfl⟩ := List.length_eq_two.1 arity
    refine .quiet fun text _ ends => ?_
    obtain ⟨rfl, rfl⟩ := textArg_eq_ok ends
    refine ⟨rfl, .quiet fun pattern _ ends => ?_⟩
    obtain ⟨rfl, other, rfl⟩ := patternArg_eq_ok ends
    refine ⟨rfl, .newArray ⟨rfl, (pattern.split text.toList).map String.ofList, ?_⟩⟩
    rw [List.map_map]
    rfl

/-- The same of a call, where the arguments are the values of the expressions, in turn. -/
theorem makesArray_call {callee : Expr} (es : List Expr) (close : Token) {id : FunctionId}
    {b : Builtin} {t : Session}
    (called : evaluate n callee s = .ok (.function (.builtin id b)) t)
    (makes : b ∈ [.newArray, .merge, .split]) :
    MakesArray (evaluate (n + 1) (.call callee es close)) s fun u vs =>
      ∃ args, all (evaluate n) #[] es t = .ok args u ∧ b.Fills args.toList u.store vs := by
  refine .eval fun f u ends => ?_
  rw [called] at ends
  cases ends
  refine .bind fun args u values => ⟨retains_of_uniform (.all #[] es) values, ?_⟩
  simp only [invoke, Function.arity, bne_iff_ne]
  split
  · exact .fail close _
  · rename_i arity
    refine (makesArray_builtin u (evaluate n) close makes (not_not.1 arity).symm).mono ?_
    rintro _ vs ⟨rfl, fills⟩
    exact ⟨args, values, fills⟩

end

/-! ### Elements that are replaced -/

/-- An element that is replaced in one array leaves all others as they are. -/
theorem elements_setElement (x : Token) (target index w : Value) (s : Session) {a : ArrayId}
    (other : target ≠ .array a) :
    (sessionAfter (setElement x target index w s)).store.elements a = s.store.elements a := by
  have found : setElement x target index w s =
      (ofElement x (s.store.elementPlace target index) >>= fun place =>
        modifyStore fun s => s.setAt place.1 place.2 w) s := rfl
  rw [found]
  cases place : s.store.elementPlace target index with
  | error f => cases f <;> rfl
  | ok p =>
    obtain ⟨b, i⟩ := p
    obtain rfl := Store.elementPlace_eq_ok place
    refine (Store.elements_setAt _ _ _ _ _).trans (if_neg ?_)
    rintro rfl
    exact other rfl

end Eval

/-! ### Runs -/

namespace Session

/-- The lengths of arrays during a run. -/
structure KeepsLengths (s : Session) (n : Nat) (program : List Expr) : Prop where
  /-- At the end all arrays that there were at the begin are as long as they were. -/
  ended : s.store.Retains (s.interpretBy (Eval.evaluate n) program).2.store
  /-- So they are wherever the run comes by. -/
  visited : ∀ t e, s.Visits n program t e → s.store.Retains t.store
  /-- Those that there are there are as long at the end. -/
  kept : ∀ t e, s.Visits n program t e →
    t.store.Retains (s.interpretBy (Eval.evaluate n) program).2.store
  /-- An array has one length, wherever the run comes by. -/
  same : ∀ t e u e', s.Visits n program t e → s.Visits n program u e' →
    ∀ a, t.store.HasArray a → u.store.HasArray a →
      (u.store.elements a).size = (t.store.elements a).size

/-- What makes arrays makes new ones. -/
structure MakesNewArrays (s : Session) (n : Nat) : Prop where
  /-- An array that is written out. -/
  array : ∀ es close, Eval.MakesArray (Eval.evaluate (n + 1) (.array es close)) s fun u vs =>
    Eval.all (Eval.evaluate n) #[] es s = .ok vs u
  /-- A slice. -/
  slice : ∀ target lower upper close,
    Eval.MakesArray (Eval.evaluate (n + 1) (.slice target lower upper close)) s fun u vs =>
      ∃ a i j t, Eval.evaluate n target s = .ok (.array a) t ∧ u.store.slice a i j = .ok vs
  /-- A call of a builtin function that makes an array. -/
  call : ∀ callee es close id b t,
    Eval.evaluate n callee s = .ok (.function (.builtin id b)) t →
    b ∈ [.newArray, .merge, .split] →
    Eval.MakesArray (Eval.evaluate (n + 1) (.call callee es close)) s fun u vs =>
      ∃ args, Eval.all (Eval.evaluate n) #[] es t = .ok args u ∧ b.Fills args.toList u.store vs

/-- An array that is added is none of the others, and an element that is replaced in one of the two
does not change the other, in whatever session. -/
theorem Adds.apart {s t : Session} {vs : Array Value} {a b : ArrayId} (h : s.Adds vs a t)
    (hb : s.store.HasArray b) : a ≠ b ∧ ∀ (u : Session) (x : Token) (index v : Value),
      (Eval.sessionAfter (Eval.setElement x (.array b) index v u)).store.elements a =
        u.store.elements a ∧
      (Eval.sessionAfter (Eval.setElement x (.array a) index v u)).store.elements b =
        u.store.elements b := by
  have ne : a ≠ b := by
    rintro rfl
    exact h.fresh hb
  exact ⟨ne, fun u x index v =>
    ⟨Eval.elements_setElement x _ index v u fun same => ne (Value.array.inj same).symm,
      Eval.elements_setElement x _ index v u fun same => ne (Value.array.inj same)⟩⟩

theorem keepsLengths (s : Session) (n : Nat) (program : List Expr) :
    s.KeepsLengths n program := by
  have between (t : Session) (e : Expr) (h : s.Visits n program t e) :=
    h.between Eval.stable_retains fun u _ => .refl u.store
  refine ⟨Eval.stable_retains.interpretBy s n program, fun t e h => (between t e h).1,
    fun t e h => (between t e h).2, fun t e u e' h h' a ha ha' => ?_⟩
  exact ((between u e' h').2.length a ha').symm.trans ((between t e h).2.length a ha)

/-- During every run of every program, whatever is evaluated, an array has one length. What an array
written out, a slice, or a call of `Array`, `merge` or `split` gives is an array that there was not
before. Elements that are replaced in older arrays do not change it, nor the other way round. -/
theorem arrays_keep_lengths (s : Session) :
    (∀ n program, s.KeepsLengths n program) ∧
    (∀ source, s.store.Retains (s.run source).2.store) ∧
    (∀ n e, s.store.Retains (Eval.sessionAfter (Eval.evaluate n e s)).store) ∧
    (∀ n, s.MakesNewArrays n) ∧
    (∀ vs a t, s.Adds vs a t → ∀ b, s.store.HasArray b → a ≠ b ∧
      ∀ (u : Session) (x : Token) (index v : Value),
        (Eval.sessionAfter (Eval.setElement x (.array b) index v u)).store.elements a =
          u.store.elements a ∧
        (Eval.sessionAfter (Eval.setElement x (.array a) index v u)).store.elements b =
          u.store.elements b) :=
  ⟨s.keepsLengths, Eval.stable_retains.run s, fun n e => Eval.retains_evaluate n e s,
    fun n => ⟨Eval.makesArray_array n s, Eval.makesArray_slice n s,
      fun _ es close _ _ _ => Eval.makesArray_call n s es close⟩,
    fun _ _ _ h _ hb => h.apart hb⟩

end Session

end FoxScript
