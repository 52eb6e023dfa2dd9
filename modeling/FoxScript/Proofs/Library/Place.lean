import FoxScript.Proofs.Library.Code
import FoxScript.Proofs.Number.Whole
import FoxScript.Proofs.Session.Discretion
import FoxScript.Proofs.Session.Elements

/-!
# Code in its place

An expression that is a piece of code stands in scopes, and once its program is accepted the session
knows how far its uses are from their bindings. So the value of a name is found in the frame that
belongs to the scope that binds it, and code that only reads has a value that can be told from what
the frames hold.

## Main definitions

* `Session.Recalls`: what is known about uses stays known.
* `Code.At`: an expression that is a piece of code, in given scopes.
* `Session.Finds`: the frame in which a name is found.
* `Code.Has`: the value of code that changes nothing.
* `Session.Bundles`: the functions of the library.

## Main statements

* `Session.Bundles.at_body`: the body of such a function is its code.
* `Code.Has.name`, `Code.Has.binary`, `Code.Has.index`: values of code.
-/
namespace FoxScript

/-! ### What is known about uses -/

namespace Session

/-- What is known about the uses that were numbered stays known. -/
structure Recalls (s t : Session) : Prop where
  /-- Numbers are given out once. -/
  fresh : s.fresh ≤ t.fresh
  /-- What is known stays. -/
  hops : ∀ id : NodeId, id.index < s.fresh → t.hops[id]? = s.hops[id]?

theorem Extends.recalls {s t : Session} (h : s.Extends t) : s.Recalls t := ⟨h.fresh, h.hops⟩

theorem Recalls.refl (s : Session) : s.Recalls s := ⟨Nat.le_refl _, fun _ _ => rfl⟩

theorem Recalls.trans {s t u : Session} (h : s.Recalls t) (g : t.Recalls u) : s.Recalls u where
  fresh := Nat.le_trans h.fresh g.fresh
  hops id hid := (g.hops id (Nat.lt_of_lt_of_le hid h.fresh)).trans (h.hops id hid)

end Session

/-- It stays known between any two moments of an evaluation. -/
theorem Eval.stable_recalls : Stable Session.Recalls where
  refl := .refl
  trans h g := h.trans g
  store _ _ := ⟨Nat.le_refl _, fun _ _ => rfl⟩
  output _ _ := ⟨Nat.le_refl _, fun _ _ => rfl⟩
  readLine _ := ⟨Nat.le_refl _, fun _ _ => rfl⟩
  readByte _ := ⟨Nat.le_refl _, fun _ _ => rfl⟩
  compile s source := (s.grows_compile source).toExtends.recalls
  frame h := ⟨h.fresh, h.hops⟩
  baseDirectory h := ⟨h.fresh, h.hops⟩
  importing h := ⟨h.fresh, h.hops⟩
  enters _ _ := ⟨Nat.le_refl _, fun _ _ => rfl⟩
  moves _ _ := ⟨Nat.le_refl _, fun _ _ => rfl⟩

namespace Code

/-! ### Scopes -/

/-- The scopes after some names are bound in the innermost one. -/
def bindIn (names : Scope) : List Scope → List Scope
  | [] => []
  | scope :: scopes => (names ++ scope) :: scopes

@[simp] theorem bindIn_nil (scopes : List Scope) : bindIn [] scopes = scopes := by
  cases scopes <;> rfl

@[simp] theorem bindIn_cons (names scope : Scope) (scopes : List Scope) :
    bindIn names (scope :: scopes) = (names ++ scope) :: scopes := rfl

theorem scopes_bind (names : Scope) (Γ : Context) : (Γ.bind names).scopes = bindIn names Γ.scopes := by
  cases Γ <;> rfl

variable {s t : Session} {scopes : List Scope} {c d : Code} {cs : List Code} {e : Expr}
  {es : List Expr}

/-! ### Expressions that are code -/

/-- An expression is a piece of code, the scopes around it being these. How far its uses are from
their bindings is known, and stays known. -/
structure At (c : Code) (s : Session) (scopes : List Scope) (e : Expr) : Prop where
  /-- The expression is the code. -/
  fits : c.fits e
  /-- Its uses are resolved. -/
  located : ∃ Γ : Context, Γ.scopes = scopes ∧ Located s.hops Γ e
  /-- Their numbers are given out. -/
  numbered : ∀ id ∈ e.ids, id.index < s.fresh

/-- Expressions are pieces of code one after the other. -/
def EachAt (s : Session) : List Scope → List Code → List Expr → Prop
  | _, [], [] => True
  | scopes, c :: cs, e :: es => c.At s scopes e ∧ EachAt s (bindIn c.bound scopes) cs es
  | _, _, _ => False

theorem located_parts {Γ : Context} (located : Located s.hops Γ e)
    (numbered : ∀ id ∈ e.ids, id.index < s.fresh) :
    ∀ p ∈ e.parts Γ, Located s.hops p.1 p.2 ∧ ∀ id ∈ p.2.ids, id.index < s.fresh :=
  fun p part => ⟨(located_iff.1 located).2 p part,
    fun id hid => numbered id (Expr.ids_part_subset part hid)⟩

/-- A part of an expression in its place. -/
theorem At.of_part {Γ Δ : Context} {e' : Expr} (located : Located s.hops Γ e')
    (numbered : ∀ id ∈ e'.ids, id.index < s.fresh) (part : (Δ, e) ∈ e'.parts Γ) (fits : c.fits e)
    (same : Δ.scopes = scopes) : c.At s scopes e :=
  ⟨fits, ⟨Δ, same, (located_iff.1 located).2 _ part⟩,
    fun id hid => numbered id (Expr.ids_part_subset part hid)⟩

theorem EachAt.of_inTurn (Γ : Context)
    (located : ∀ p ∈ Expr.inTurn Γ es, Located s.hops p.1 p.2 ∧ ∀ id ∈ p.2.ids, id.index < s.fresh)
    (fits : fitsEach cs es) : EachAt s Γ.scopes cs es := by
  induction cs generalizing Γ es with
  | nil =>
    cases es with
    | nil => trivial
    | cons => cases fits
  | cons c cs ih =>
    cases es with
    | nil => cases fits
    | cons e es =>
      obtain ⟨hc, hcs⟩ := Bool.and_eq_true_iff.1 fits
      obtain ⟨first, others⟩ := List.forall_mem_cons.1 located
      refine ⟨⟨hc, ⟨Γ, rfl, first.1⟩, first.2⟩, ?_⟩
      have rest := ih (Γ.bind e.bound) others hcs
      rwa [scopes_bind, c.bound_eq hc] at rest

namespace At

theorem mono (h : c.At s scopes e) (recalls : s.Recalls t) : c.At t scopes e := by
  obtain ⟨fits, ⟨Γ, around, located⟩, numbered⟩ := h
  exact ⟨fits, ⟨Γ, around, located.congr fun id hid => recalls.hops id (numbered id hid)⟩,
    fun id hid => Nat.lt_of_lt_of_le (numbered id hid) recalls.fresh⟩

theorem null (h : Code.null.At s scopes e) : e = .literal .null := by
  have fits := h.fits
  cases e with
  | literal v =>
    cases v with
    | null => rfl
    | _ => cases fits
  | _ => cases fits

theorem bool {b : Bool} (h : (Code.bool b).At s scopes e) : e = .literal (.bool b) := by
  have fits := h.fits
  cases e with
  | literal v =>
    cases v with
    | bool b' =>
      obtain rfl := LawfulBEq.eq_of_beq fits
      rfl
    | _ => cases fits
  | _ => cases fits

theorem number {n : Nat} (h : (Code.number n).At s scopes e) :
    e = .literal (.number (Float.ofNat n)) := by
  have fits := h.fits
  cases e with
  | literal v =>
    cases v with
    | number x =>
      obtain rfl := of_decide_eq_true fits
      rfl
    | _ => cases fits
  | _ => cases fits

theorem name {x : String} (h : (Code.name x).At s scopes e) :
    ∃ id t, e = .variable id t ∧ t.lexeme = x ∧ s.hops[id]? = Resolution.hopsTo? x scopes := by
  obtain ⟨fits, ⟨Γ, rfl, located⟩, numbered⟩ := h
  cases e with
  | «variable» id t =>
    obtain rfl := of_decide_eq_true fits
    exact ⟨id, t, rfl, rfl, (located_iff.1 located).1 _ rfl⟩
  | _ => cases fits

theorem array (h : (Code.array cs).At s scopes e) :
    ∃ es close, e = .array es close ∧ EachAt s scopes cs es := by
  obtain ⟨fits, ⟨Γ, rfl, located⟩, numbered⟩ := h
  cases e with
  | array es close => exact ⟨es, close, rfl, .of_inTurn Γ (located_parts located numbered) fits⟩
  | _ => cases fits

theorem assign {x : String} (h : (Code.assign x c).At s scopes e) :
    ∃ id t e', e = .assign id t e' ∧ t.lexeme = x ∧ c.At s scopes e' ∧
      s.hops[id]? = Resolution.hopsTo? x (bindIn c.bound scopes) := by
  obtain ⟨fits, ⟨Γ, rfl, located⟩, numbered⟩ := h
  cases e with
  | assign id t e =>
    obtain ⟨rfl, hc⟩ := by simpa [Code.fits] using fits
    refine ⟨id, t, e, rfl, rfl, .of_part located numbered List.mem_cons_self hc rfl, ?_⟩
    have known := (located_iff.1 located).1 _ rfl
    rwa [scopes_bind, c.bound_eq hc] at known
  | _ => cases fits

theorem binary {k : TokenKind} (h : (Code.binary c k d).At s scopes e) :
    ∃ e' op f, e = .binary e' op f ∧ op.kind = k ∧ c.At s scopes e' ∧
      d.At s (bindIn c.bound scopes) f := by
  obtain ⟨fits, ⟨Γ, rfl, located⟩, numbered⟩ := h
  cases e with
  | binary e op f =>
    obtain ⟨⟨rfl, hc⟩, hd⟩ := by simpa [Code.fits] using fits
    refine ⟨e, op, f, rfl, rfl, .of_part located numbered List.mem_cons_self hc rfl,
      .of_part located numbered (List.mem_cons_of_mem _ List.mem_cons_self) hd ?_⟩
    rw [scopes_bind, c.bound_eq hc]
  | _ => cases fits

theorem block (h : (Code.block cs).At s scopes e) :
    ∃ es, e = .block es ∧ EachAt s ([] :: scopes) cs es := by
  obtain ⟨fits, ⟨Γ, rfl, located⟩, numbered⟩ := h
  cases e with
  | block es =>
    exact ⟨es, rfl, .of_inTurn (Γ.enter (.block es) []) (located_parts located numbered) fits⟩
  | _ => cases fits

theorem call (h : (Code.call c cs).At s scopes e) :
    ∃ e' es close, e = .call e' es close ∧ c.At s scopes e' ∧
      EachAt s (bindIn c.bound scopes) cs es := by
  obtain ⟨fits, ⟨Γ, rfl, located⟩, numbered⟩ := h
  cases e with
  | call e es close =>
    obtain ⟨hc, hcs⟩ := Bool.and_eq_true_iff.1 fits
    refine ⟨e, es, close, rfl, .of_part located numbered List.mem_cons_self hc rfl, ?_⟩
    have each := EachAt.of_inTurn (Γ.bind e.bound)
      (List.forall_mem_cons.1 (located_parts located numbered)).2 hcs
    rwa [scopes_bind, c.bound_eq hc] at each
  | _ => cases fits

theorem index (h : (Code.index c d).At s scopes e) :
    ∃ e' f close, e = .index e' f close ∧ c.At s scopes e' ∧
      d.At s (bindIn c.bound scopes) f := by
  obtain ⟨fits, ⟨Γ, rfl, located⟩, numbered⟩ := h
  cases e with
  | index e f close =>
    obtain ⟨hc, hd⟩ := Bool.and_eq_true_iff.1 fits
    refine ⟨e, f, close, rfl, .of_part located numbered List.mem_cons_self hc rfl,
      .of_part located numbered (List.mem_cons_of_mem _ List.mem_cons_self) hd ?_⟩
    rw [scopes_bind, c.bound_eq hc]
  | _ => cases fits

theorem logical {k : TokenKind} (h : (Code.logical c k d).At s scopes e) :
    ∃ e' op f, e = .logical e' op f ∧ op.kind = k ∧ c.At s scopes e' ∧
      d.At s (bindIn c.bound scopes) f := by
  obtain ⟨fits, ⟨Γ, rfl, located⟩, numbered⟩ := h
  cases e with
  | logical e op f =>
    obtain ⟨⟨rfl, hc⟩, hd⟩ := by simpa [Code.fits] using fits
    refine ⟨e, op, f, rfl, rfl, .of_part located numbered List.mem_cons_self hc rfl,
      .of_part located numbered (List.mem_cons_of_mem _ List.mem_cons_self) hd ?_⟩
    rw [scopes_bind, c.bound_eq hc]
  | _ => cases fits

theorem unary {k : TokenKind} (h : (Code.unary k c).At s scopes e) :
    ∃ op e', e = .unary op e' ∧ op.kind = k ∧ c.At s scopes e' := by
  obtain ⟨fits, ⟨Γ, rfl, located⟩, numbered⟩ := h
  cases e with
  | unary op e =>
    obtain ⟨rfl, hc⟩ := by simpa [Code.fits] using fits
    exact ⟨op, e, rfl, rfl, .of_part located numbered List.mem_cons_self hc rfl⟩
  | _ => cases fits

theorem ternary {d' : Code} (h : (Code.ternary c d d').At s scopes e) :
    ∃ e' f f' op, e = .ternary e' f f' op ∧ c.At s scopes e' ∧
      d.At s (bindIn c.bound scopes) f ∧
      d'.At s (bindIn d.bound (bindIn c.bound scopes)) f' := by
  obtain ⟨fits, ⟨Γ, rfl, located⟩, numbered⟩ := h
  cases e with
  | ternary e f f' op =>
    obtain ⟨⟨hc, hd⟩, hd'⟩ := by simpa [Code.fits] using fits
    refine ⟨e, f, f', op, rfl, .of_part located numbered List.mem_cons_self hc rfl,
      .of_part located numbered (List.mem_cons_of_mem _ List.mem_cons_self) hd ?_,
      .of_part located numbered (List.mem_cons_of_mem _ (List.mem_cons_of_mem _ List.mem_cons_self)) hd' ?_⟩
    · rw [scopes_bind, c.bound_eq hc]
    · rw [scopes_bind, scopes_bind, c.bound_eq hc, d.bound_eq hd]
  | _ => cases fits

theorem declareAs {x : String} (h : (Code.declareAs x c).At s scopes e) :
    ∃ t e', e = .declareAs t e' ∧ t.lexeme = x ∧
      c.At s (bindIn [(x, false)] scopes) e' := by
  obtain ⟨fits, ⟨Γ, rfl, located⟩, numbered⟩ := h
  cases e with
  | declareAs t e =>
    obtain ⟨rfl, hc⟩ := by simpa [Code.fits] using fits
    exact ⟨t, e, rfl, rfl, .of_part located numbered List.mem_cons_self hc (scopes_bind _ Γ)⟩
  | _ => cases fits

theorem loopWhile (h : (Code.loopWhile c d).At s scopes e) :
    ∃ keyword e' f, e = .loopWhile keyword e' f ∧ c.At s scopes e' ∧
      d.At s (bindIn c.bound scopes) f := by
  obtain ⟨fits, ⟨Γ, rfl, located⟩, numbered⟩ := h
  cases e with
  | loopWhile keyword e f =>
    obtain ⟨hc, hd⟩ := Bool.and_eq_true_iff.1 fits
    refine ⟨keyword, e, f, rfl, .of_part located numbered List.mem_cons_self hc rfl,
      .of_part located numbered (List.mem_cons_of_mem _ List.mem_cons_self) hd ?_⟩
    rw [scopes_bind, c.bound_eq hc]
  | _ => cases fits

end At

theorem EachAt.nil (h : EachAt s scopes [] es) : es = [] := by
  cases es with
  | nil => rfl
  | cons => cases h

theorem EachAt.cons (h : EachAt s scopes (c :: cs) es) :
    ∃ e es', es = e :: es' ∧ c.At s scopes e ∧ EachAt s (bindIn c.bound scopes) cs es' := by
  cases es with
  | nil => cases h
  | cons e es => exact ⟨e, es, rfl, h⟩

/-- A loop whose body is a block of two members. -/
theorem At.rounds {work count : Code}
    (h : (Code.loopWhile c (.block [work, count])).At s scopes e) :
    ∃ keyword e' f g, e = .loopWhile keyword e' (.block [f, g]) ∧ c.At s scopes e' ∧
      work.At s ([] :: bindIn c.bound scopes) f ∧
      count.At s (bindIn work.bound ([] :: bindIn c.bound scopes)) g := by
  obtain ⟨keyword, e', body, rfl, condition, inner⟩ := h.loopWhile
  obtain ⟨es, rfl, members⟩ := inner.block
  obtain ⟨f, es, rfl, hf, members⟩ := members.cons
  obtain ⟨g, es, rfl, hg, members⟩ := members.cons
  obtain rfl := members.nil
  exact ⟨keyword, e', f, g, rfl, condition, hf, hg⟩

theorem EachAt.mono (h : EachAt s scopes cs es) (recalls : s.Recalls t) : EachAt t scopes cs es := by
  induction cs generalizing scopes es with
  | nil =>
    cases es with
    | nil => trivial
    | cons => cases h
  | cons c cs ih =>
    cases es with
    | nil => cases h
    | cons e es => exact ⟨h.1.mono recalls, ih h.2⟩

end Code

/-! ### Functions of the library -/

/-- The value is the function of the library on arrays that has this code. -/
def Session.Bundles (s : Session) (r : Routine) (v : Value) : Prop :=
  ∃ k d id t params body, (d, (Import.read k Library.arrays).exprs) ∈ s.programs ∧
    .function (some t) params body ∈ (Import.read k Library.arrays).exprs ∧ t.lexeme = r.name ∧
    v = .function (.closure id (some t) params body Store.root)

/-- The numbers in a member of an accepted program are given out. -/
theorem Session.Sound.numbered_of_mem {s : Session} (sound : s.Sound) {q : Path × List Expr}
    (accepted : q ∈ s.programs) {e : Expr} (mem : e ∈ q.2) : ∀ id ∈ e.ids, id.index < s.fresh := by
  intro id hid
  obtain ⟨Δ, turn⟩ := Expr.exists_mem_inTurn (Γ := []) mem
  refine (sound.numbered q accepted).2 id ?_
  rw [Expr.idsOf_eq_flatMap []]
  exact List.mem_flatMap.2 ⟨_, turn, hid⟩

/-- A member of an accepted program stands in no scope. -/
theorem Session.Sound.at_of_mem {s : Session} (sound : s.Sound) {q : Path × List Expr}
    (accepted : q ∈ s.programs) {e : Expr} (mem : e ∈ q.2) {c : Code} (fits : c.fits e) :
    c.At s [] e := by
  have site : Site q.2 [] e := .of_mem mem
  exact ⟨fits, ⟨[], rfl, fun Δ d inside => sound.located q accepted Δ d (site.inside inside)⟩,
    sound.numbered_of_mem accepted mem⟩

/-- The body of a function that is made at the top of a program stands in the scope of its
parameters. -/
theorem Routine.at_body {s : Session} {r : Routine} {d : Path} {program : List Expr} {t : Token}
    {params : List Token} {body : Expr} (fits : r.fits (.function (some t) params body))
    (accepted : (d, program) ∈ s.programs) (mem : .function (some t) params body ∈ program)
    (sound : s.Sound) :
    params.map Token.lexeme = r.params ∧ r.body.At s [r.scope] body := by
  obtain ⟨⟨-, same⟩, fits⟩ : (t.lexeme = r.name ∧ params.map Token.lexeme = r.params) ∧
      r.body.fits body := by
    simpa [Routine.fits] using fits
  let Γ : Context := Context.enter (.call params body) (parameterScope params) []
  have site : Site program Γ body := (Site.of_mem mem).part (List.mem_singleton_self _)
  refine ⟨same, fits, ⟨Γ, ?_, fun Δ e inside => ?_⟩, fun id hid => ?_⟩
  · simp [Γ, Routine.scope, ← same, parameterScope]
  · exact sound.located _ accepted Δ e (site.inside inside)
  · exact sound.numbered_of_mem accepted mem id (by simpa [Expr.ids] using hid)

/-- So does the body of a function of the library. -/
theorem Session.Bundles.at_body {s : Session} {r : Routine} {v : Value} (h : s.Bundles r v)
    (sound : s.Sound) (hr : r ∈ Library.routines) :
    ∃ id t params body, v = .function (.closure id (some t) params body Store.root) ∧
      params.map Token.lexeme = r.params ∧ r.body.At s [r.scope] body := by
  obtain ⟨k, d, id, t, params, body, accepted, mem, name, rfl⟩ := h
  obtain ⟨same, place⟩ := Routine.at_body (Library.fits_arrays mem hr name) accepted mem sound
  exact ⟨id, t, params, body, rfl, same, place⟩

/-! ### Where names are found -/

namespace Session

variable {s t : Session} {scopes : List Scope} {x : String} {f : FrameId} {v : Value}

/-- The frame of the session and those around it being of these scopes, a name is found in this
frame. -/
def Finds (s : Session) (scopes : List Scope) (x : String) (f : FrameId) : Prop :=
  match Resolution.hopsTo? x scopes with
  | some k => s.store.ancestor? s.frame k = some f
  | none => f = Store.root

/-- What is found from a frame is found from the frames inside it. -/
theorem Finds.inside {p : FrameId} (h : { s with frame := p }.Finds scopes x f)
    (around : s.store.parent? s.frame = some p) : s.Finds ([] :: scopes) x f := by
  unfold Finds at h ⊢
  rw [Resolution.hopsTo?_cons]
  cases hops : Resolution.hopsTo? x scopes with
  | none => simpa [hops] using h
  | some k =>
    rw [hops] at h
    simpa [Store.ancestor?, around] using h

theorem owner_of_finds {id : NodeId} {name : Token} (known : s.hops[id]? = Resolution.hopsTo? x scopes)
    (spelled : name.lexeme = x) (found : s.Finds scopes x f)
    (held : s.store.lookup? f x = some v) : s.owner id name = .ok f := by
  subst spelled
  unfold Finds at found
  generalize Resolution.hopsTo? name.lexeme scopes = hops at known found
  rw [owner, known]
  cases hops with
  | none =>
    obtain rfl : f = Store.root := found
    simp [Store.find_root, held]
  | some k =>
    have found : s.store.ancestor? s.frame k = some f := found
    simp [Store.findAt, found, held]

theorem valueOf_of_finds {id : NodeId} {name : Token}
    (known : s.hops[id]? = Resolution.hopsTo? x scopes) (spelled : name.lexeme = x)
    (found : s.Finds scopes x f) (held : s.store.lookup? f x = some v) :
    Eval.valueOf id name s = .ok v s := by
  have owner := owner_of_finds known spelled found held
  have split : Eval.valueOf id name s =
      (Eval.ofExcept name (s.owner id name) >>= fun f =>
        Eval.readStore fun s => s.valueIn name.lexeme f) s := rfl
  rw [split, owner, spelled]
  change EStateM.Result.ok (s.store.valueIn x f) s = _
  rw [Store.valueIn, held]
  rfl

end Session

/-! ### Elements -/

theorem Value.indexes_ofNat {i : Nat} (small : i < 2 ^ 53) :
    (Value.number (Float.ofNat i)).Indexes i := by
  refine (toIndex_eq_ok_iff (s := .empty)).1 ?_
  rw [toIndex, Number.toIndex?_ofNat small]

theorem Store.element_of_found {s : Store} {a : ArrayId} {i : Nat} {v : Value} (small : i < 2 ^ 53)
    (found : (s.elements a)[i]? = some v) :
    s.element a (.number (Float.ofNat i)) = .ok v := by
  have inside : i < (s.elements a).size := (Array.getElem?_eq_some_iff.1 found).1
  rw [element, Value.toElementIndex_of_indexes (Value.indexes_ofNat small), if_pos ⟨by omega, by omega⟩]
  simp only [Bind.bind, Except.bind, Int.toNat_natCast, found]
  rfl

theorem Eval.setElement_of_inside {s : Session} {a : ArrayId} {i : Nat} (small : i < 2 ^ 53)
    (inside : i < (s.store.elements a).size) (close : Token) (v : Value) :
    setElement close (.array a) (.number (Float.ofNat i)) v s =
      .ok () { s with store := s.store.setAt a i v } := by
  have place : s.store.elementPlace (.array a) (.number (Float.ofNat i)) = .ok (a, i) := by
    rw [Store.elementPlace, if_neg (Nat.ne_of_gt (Nat.zero_lt_of_lt inside)), if_neg (by simp [Value.array?]),
      Value.toElementIndex_of_indexes (Value.indexes_ofNat small), if_pos ⟨by omega, by omega⟩]
    rfl
  have split : setElement close (.array a) (.number (Float.ofNat i)) v s =
      (ofElement close (s.store.elementPlace (.array a) (.number (Float.ofNat i))) >>= fun p =>
        modifyStore fun s => s.setAt p.1 p.2 v) s := rfl
  rw [split, place]
  rfl

theorem Eval.nonEmptyArray_of_found {s : Session} {a : ArrayId} {i : Nat} {v : Value}
    (close : Token) (found : (s.store.elements a)[i]? = some v) :
    nonEmptyArray close (.array a) s = .ok a s := by
  have inside : i < (s.store.elements a).size := (Array.getElem?_eq_some_iff.1 found).1
  have some : (s.store.elements a).isEmpty = false := by
    rw [Array.isEmpty_eq_false_iff_exists_mem]
    exact ⟨v, Array.mem_of_getElem? found⟩
  have split : nonEmptyArray close (.array a) s =
      (do
        if (s.store.elements a).isEmpty then fail close .emptyArray
        return a : Eval ArrayId) s := rfl
  rw [split, some]
  rfl

/-! ### Values of code -/

namespace Code

/-- In these scopes, the code has a value in the session, which it leaves as it is. Its parts nest so
deep. -/
def Has (c : Code) (scopes : List Scope) (depth : Nat) (s : Session) (v : Value) : Prop :=
  ∀ e n, c.At s scopes e → depth ≤ n → Eval.evaluate n e s = .ok v s

variable {s : Session} {scopes : List Scope} {c d : Code} {cs : List Code} {v w : Value}
  {x : String} {f : FrameId} {depth : Nat}

namespace Has

theorem number (n : Nat) : (number n).Has scopes 1 s (.number (Float.ofNat n)) := by
  rintro e (_ | m) place enough
  · cases enough
  · rw [place.number]
    rfl

theorem null : null.Has scopes 1 s .null := by
  rintro e (_ | m) place enough
  · cases enough
  · rw [place.null]
    rfl

theorem name (found : s.Finds scopes x f) (held : s.store.lookup? f x = some v) :
    (name x).Has scopes 1 s v := by
  rintro e (_ | m) place enough
  · cases enough
  · obtain ⟨id, t, rfl, spelled, known⟩ := place.name
    exact Session.valueOf_of_finds known spelled found held

theorem binary {k : TokenKind} {r : Value} (hc : c.Has scopes depth s v)
    (hd : d.Has (bindIn c.bound scopes) depth s w)
    (result : ∀ op : Token, op.kind = k → Eval.binary op v w s = .ok r s) :
    (binary c k d).Has scopes (depth + 1) s r := by
  rintro e (_ | m) place enough
  · cases enough
  · obtain ⟨e, op, e', rfl, kind, left, right⟩ := place.binary
    have first := hc e m left (Nat.le_of_succ_le_succ enough)
    have second := hd e' m right (Nat.le_of_succ_le_succ enough)
    exact (Eval.bind_of_ok first).trans ((Eval.bind_of_ok second).trans (result op kind))

theorem index {a : ArrayId} {i : Nat} (hc : c.Has scopes depth s (.array a))
    (hd : d.Has (bindIn c.bound scopes) depth s (.number (Float.ofNat i))) (small : i < 2 ^ 53)
    (found : (s.store.elements a)[i]? = some v) :
    (index c d).Has scopes (depth + 1) s v := by
  rintro e (_ | m) place enough
  · cases enough
  · obtain ⟨e, e', close, rfl, target, at'⟩ := place.index
    have first := hc e m target (Nat.le_of_succ_le_succ enough)
    have second := hd e' m at' (Nat.le_of_succ_le_succ enough)
    have split : Eval.evaluate (m + 1) (.index e e' close) s =
        (Eval.nonEmptyArray close (.array a) >>= fun b =>
          Eval.evaluate m e' >>= fun j => Eval.readStore (fun s => s.element b j) >>=
            Eval.ofExcept close) s := Eval.bind_of_ok first
    have read : Eval.readStore (fun s => s.element a (.number (Float.ofNat i))) s = .ok (.ok v) s := by
      change EStateM.Result.ok (s.store.element a (.number (Float.ofNat i))) s = _
      rw [Store.element_of_found small found]
    rw [split, Eval.bind_of_ok (Eval.nonEmptyArray_of_found close found), Eval.bind_of_ok second,
      Eval.bind_of_ok read]
    rfl

theorem mono {deeper : Nat} (h : c.Has scopes depth s v) (le : depth ≤ deeper) :
    c.Has scopes deeper s v := fun e n place enough => h e n place (Nat.le_trans le enough)

/-! ### Values of operations -/

theorem bool (b : Bool) : (Code.bool b).Has scopes 1 s (.bool b) := by
  rintro e (_ | m) place enough
  · cases enough
  · rw [place.bool]
    rfl

theorem bang (hc : c.Has scopes depth s v) :
    (Code.unary .bang c).Has scopes (depth + 1) s (.bool (!v.isTruthy)) := by
  rintro e (_ | m) place enough
  · cases enough
  · obtain ⟨op, e, rfl, kind, operand⟩ := place.unary
    have other : op.kind ≠ .minus := by simp [kind]
    have value := hc e m operand (Nat.le_of_succ_le_succ enough)
    refine (Eval.bind_of_ok value).trans ?_
    unfold Eval.unary
    rw [if_neg other]
    rfl

/-- The second value is not needed if the first does not hold. -/
theorem and_refused (hc : c.Has scopes depth s v) (refused : v.isTruthy = false) :
    (Code.logical c .and d).Has scopes (depth + 1) s v := by
  rintro e (_ | m) place enough
  · cases enough
  · obtain ⟨e, op, e', rfl, kind, left, -⟩ := place.logical
    have value := hc e m left (Nat.le_of_succ_le_succ enough)
    refine (Eval.bind_of_ok value).trans ?_
    simp only [kind, refused]
    rfl

/-- If the first value holds, the second is the value. -/
theorem and_goesOn (hc : c.Has scopes depth s v) (holds : v.isTruthy = true)
    (hd : d.Has (bindIn c.bound scopes) depth s w) :
    (Code.logical c .and d).Has scopes (depth + 1) s w := by
  rintro e (_ | m) place enough
  · cases enough
  · obtain ⟨e, op, e', rfl, kind, left, right⟩ := place.logical
    have first := hc e m left (Nat.le_of_succ_le_succ enough)
    have second := hd e' m right (Nat.le_of_succ_le_succ enough)
    refine (Eval.bind_of_ok first).trans ?_
    simp only [kind, holds]
    exact second

section

variable {m n : Nat} (hc : c.Has scopes depth s (.number (Float.ofNat m)))
  (hd : d.Has (bindIn c.bound scopes) depth s (.number (Float.ofNat n)))

include hc hd

theorem less (hm : m < 2 ^ 53) (hn : n < 2 ^ 53) :
    (Code.binary c .less d).Has scopes (depth + 1) s (.bool (decide (m < n))) := by
  refine hc.binary hd fun op kind => ?_
  rw [Eval.binary, kind]
  simp only [Eval.arithmetic, kind]
  rw [decide_eq_decide.2 (Number.ofNat_lt_iff hm hn)]
  rfl

theorem plus (small : m + n < 2 ^ 53) :
    (Code.binary c .plus d).Has scopes (depth + 1) s (.number (Float.ofNat (m + n))) := by
  refine hc.binary hd fun op kind => ?_
  rw [Eval.binary, kind]
  simp only [Eval.arithmetic, kind]
  rw [Number.ofNat_add small]
  rfl

theorem minus (le : n ≤ m) (small : m < 2 ^ 53) :
    (Code.binary c .minus d).Has scopes (depth + 1) s (.number (Float.ofNat (m - n))) := by
  refine hc.binary hd fun op kind => ?_
  rw [Eval.binary, kind]
  simp only [Eval.arithmetic, kind]
  rw [Number.ofNat_sub le small]
  rfl

end

theorem equal (hc : c.Has scopes depth s v) (hd : d.Has (bindIn c.bound scopes) depth s w) :
    (Code.binary c .equalEqual d).Has scopes (depth + 1) s (.bool (v.equal s.store w)) := by
  refine hc.binary hd fun op kind => ?_
  rw [Eval.binary, kind]
  rfl

end Has

/-! ### Calls -/

/-- In these scopes, pieces of code that bind nothing have values in the session. -/
def EachHas (cs : List Code) (scopes : List Scope) (depth : Nat) (s : Session) (vs : List Value) :
    Prop :=
  List.Forall₂ (fun c v => c.bound = [] ∧ c.Has scopes depth s v) cs vs

theorem EachHas.all_eq {es : List Expr} {vs : List Value} {n : Nat}
    (h : EachHas cs scopes depth s vs) (place : EachAt s scopes cs es) (enough : depth ≤ n)
    (before : Array Value) :
    Eval.all (Eval.evaluate n) before es s = .ok (before ++ vs.toArray) s := by
  induction h generalizing es before with
  | nil =>
    cases es with
    | nil => simp [Eval.all, Pure.pure, EStateM.pure]
    | cons => cases place
  | cons h _ ih =>
    cases es with
    | nil => cases place
    | cons e es =>
      obtain ⟨first, rest⟩ := place
      rw [h.1, bindIn_nil] at rest
      rw [Eval.all, Eval.bind_of_ok (h.2 e n first enough), ih rest]
      simp

/-- A function is called once it and its arguments have their values. -/
theorem evaluate_call {es : List Expr} {callee : Expr} {close : Token} {vs : Array Value}
    {t : Session} {n : Nat} (place : c.At s scopes callee) (callee' : c.Has scopes depth s v)
    (enough : depth ≤ n) (args : Eval.all (Eval.evaluate n) #[] es s = .ok vs t) :
    Eval.evaluate (n + 1) (.call callee es close) s =
      Eval.invoke (Eval.evaluate n) close v vs.toList t :=
  (Eval.bind_of_ok (callee' callee n place enough)).trans (Eval.bind_of_ok args)

/-- A name gets a new value once the value is there. -/
theorem evaluate_assign {id : NodeId} {name : Token} {e : Expr} {t : Session} {n : Nat}
    (value : Eval.evaluate n e s = .ok v t) (owner : t.owner id name = .ok f) :
    Eval.evaluate (n + 1) (.assign id name e) s = .ok v (t.replace f name.lexeme v) := by
  have found : Eval.ownerOf id name t = .ok f t := by
    have split : Eval.ownerOf id name t = Eval.ofExcept name (t.owner id name) t := rfl
    rw [split, owner]
    rfl
  exact (Eval.bind_of_ok value).trans (Eval.bind_of_ok found)

/-- The length of an array. -/
theorem Has.length {a : ArrayId} {id : FunctionId} (hc : c.Has scopes depth s (.array a))
    (bound : c.bound = []) (free : Resolution.hopsTo? "len" scopes = none)
    (native : s.store.lookup? Store.root "len" = some (.function (.builtin id .len)))
    (deep : 1 ≤ depth) :
    (call (Code.name "len") [c]).Has scopes (depth + 1) s
      (.number (Float.ofNat (s.store.elements a).size)) := by
  rintro e (_ | m) place enough
  · cases enough
  · have enough := Nat.le_of_succ_le_succ enough
    obtain ⟨callee, es, close, rfl, first, rest⟩ := place.call
    have finds : s.Finds scopes "len" Store.root := by
      rw [Session.Finds, free]
    rw [Code.bound, bindIn_nil] at rest
    have args := EachHas.all_eq (.cons ⟨bound, hc⟩ .nil) rest enough #[]
    rw [evaluate_call first (Has.name finds native) (Nat.le_trans deep enough) args]
    rfl

/-- An array of so many nulls is made, if there is memory for it. -/
theorem evaluate_array {e : Expr} {n k : Nat} {id : FunctionId}
    (place : (call (Code.name "Array") [c]).At s scopes e)
    (hc : c.Has scopes depth s (.number (Float.ofNat n))) (bound : c.bound = [])
    (free : Resolution.hopsTo? "Array" scopes = none)
    (native : s.store.lookup? Store.root "Array" = some (.function (.builtin id .newArray)))
    (small : n < 2 ^ 53) (deep : 1 ≤ depth) (enough : depth ≤ k) :
    ∃ x : Token, Eval.evaluate (k + 1) e s =
      if n ≤ s.memory then
        .ok (.array (s.store.newArray (Array.replicate n .null)).1)
          { s with store := (s.store.newArray (Array.replicate n .null)).2 }
      else .error (.failed (.runtime x.location (.builtin (.outOfMemory (Float.ofNat n))))) s := by
  obtain ⟨callee, es, x, rfl, first, rest⟩ := place.call
  have finds : s.Finds scopes "Array" Store.root := by
    unfold Session.Finds
    rw [free]
  rw [Code.bound, bindIn_nil] at rest
  have args := EachHas.all_eq (.cons ⟨bound, hc⟩ .nil) rest enough #[]
  have made : Eval.invoke (Eval.evaluate k) x (.function (.builtin id .newArray))
      [.number (Float.ofNat n)] s = Eval.arrayOfLength x (.number (Float.ofNat n)) s := rfl
  have called : Eval.evaluate (k + 1) (.call callee es x) s = _ :=
    evaluate_call first (Has.name finds native) (Nat.le_trans deep enough) args
  refine ⟨x, (called.trans made).trans ?_⟩
  rw [Eval.arrayOfLength]
  simp only [Number.toWhole?_ofNat small]
  refine (Eval.bind_of_ok (show (get : Eval Session) s = .ok s s from rfl)).trans ?_
  split <;> rfl

end Code

end FoxScript
