import FoxScript.Proofs.Library.Invocation

/-!
# Calls that work by themselves

Some functions of the library call nothing but builtin functions. What they do can be told step by
step: a block in the frame of the call holds their names, and the values of these are all that
changes, with the arrays that they have made.

## Main definitions

* `Session.Knows`: the value that a name has from a session on.
* `Workshop`, `Workshop.Holds`: the frames of such a call, and what the block holds.
* `Session.HasBuiltins`: builtin functions that have their names.

## Main statements

* `Eval.exists_iterate`, `Eval.exists_loopWhile`: a loop whose rounds use something up ends.
* `Workshop.Holds.declare`, `Workshop.Holds.assign`, `Workshop.Holds.counts`: what becomes of the
  block.
* `Workshop.Holds.leaves`: the call has changed nothing that was there before.
* `Session.Bundles.starts`, `Session.Bundles.opens`: how calls of functions of the library begin.
-/
namespace FoxScript

/-! ### Loops that end -/

/-- If something of which there is `d` is used up in each round, then there are not more rounds, and
the loop stops as a round would begin. -/
theorem Eval.exists_iterate {eval : Expr → Eval Value} {condition : Eval Bool} {body : Expr}
    {I : Nat → Session → Prop} {stopped : Session → Prop}
    (turn : ∀ d s, I d s → (condition s = .ok false s ∧ stopped s) ∨
      ∃ d' v t, d = d' + 1 ∧ condition s = .ok true s ∧ eval body s = .ok v t ∧ I d' t)
    {d rounds : Nat} (enough : d < rounds) {s : Session} (h : I d s) (last : Value) :
    ∃ v t, iterate eval condition body rounds last s = .ok v t ∧ stopped t := by
  induction rounds generalizing d s last with
  | zero => cases enough
  | succ k ih =>
    obtain ⟨refused, stopped⟩ | ⟨d, v, t, rfl, holds, value, next⟩ := turn d s h
    · exact ⟨last, s, iterate_of_stops (.refused refused) k, stopped⟩
    · rw [iterate_of_round holds value]
      exact ih (Nat.lt_of_succ_lt_succ enough) next v

/-- So does a loop whose condition only looks at the session. -/
theorem Eval.exists_loopWhile {n : Nat} {keyword : Token} {condition body : Expr}
    {I : Nat → Session → Prop} {stopped : Session → Prop}
    (turn : ∀ d s, I d s →
      (Eval.evaluate n condition s = .ok (.bool false) s ∧ stopped s) ∨
      ∃ d' v t, d = d' + 1 ∧ Eval.evaluate n condition s = .ok (.bool true) s ∧
        Eval.evaluate n body s = .ok v t ∧ I d' t)
    {d : Nat} (enough : d < n) {s : Session} (h : I d s) :
    ∃ v t, Eval.evaluate (n + 1) (.loopWhile keyword condition body) s = .ok v t ∧ stopped t := by
  refine exists_iterate (fun d s h => ?_) enough h .null
  obtain ⟨refused, stopped⟩ | ⟨d', v, t, rfl, holds, value, next⟩ := turn d s h
  · exact .inl ⟨bind_of_ok refused, stopped⟩
  · exact .inr ⟨d', v, t, rfl, bind_of_ok holds, value, next⟩

/-! ### Names -/

/-- From the session on, which stands in these scopes, the name has the value. -/
def Session.Knows (s : Session) (scopes : List Scope) (x : String) (v : Value) : Prop :=
  ∃ f, s.Finds scopes x f ∧ s.store.lookup? f x = some v

namespace Session.Knows

variable {s : Session} {scopes : List Scope} {x : String} {v : Value}

theorem has (h : s.Knows scopes x v) : (Code.name x).Has scopes 1 s v := by
  obtain ⟨f, found, held⟩ := h
  exact .name found held

/-- The session may be in the frame. -/
theorem here {p : FrameId} (h : { s with frame := p }.Knows scopes x v) (frame : s.frame = p) :
    s.Knows scopes x v := by
  subst frame
  exact h

/-- What is known from a frame is known from the frames inside it. -/
theorem inside {p : FrameId} (h : { s with frame := p }.Knows scopes x v)
    (around : s.store.parent? s.frame = some p) : s.Knows ([] :: scopes) x v := by
  obtain ⟨f, found, held⟩ := h
  exact ⟨f, found.inside around, held⟩

end Session.Knows

namespace Session.Bound

variable {s b : Session} {call : FrameId} {bound : List (String × Value)} {scopes : List Scope}
  {x : String} {v : Value}

/-- In the frame of a call, the parameters are known. -/
theorem knows (h : s.Bound call bound b) (mem : (x, v) ∈ bound)
    (hops : Resolution.hopsTo? x scopes = some 0) : b.Knows scopes x v := by
  refine ⟨call, ?_, h.bound _ mem⟩
  unfold Session.Finds
  rw [hops, h.frame]
  rfl

/-- So are the names that are global. -/
theorem knows_global (h : s.Bound call bound b) (root : s.store.HasFrame Store.root)
    (held : s.store.lookup? Store.root x = some v) (hops : Resolution.hopsTo? x scopes = none) :
    b.Knows scopes x v := by
  have other : Store.root ≠ call := fun same => h.newCall (same ▸ root)
  refine ⟨Store.root, ?_, (h.tends.store.lookup? root other x).trans held⟩
  unfold Session.Finds
  rw [hops]

/-- When the call is over, nothing that was there before has changed. -/
theorem leaves (h : s.Bound call bound b) {t : Session} (tends : b.Tends .none t) (f : FrameId) :
    s.Tends .none { t with frame := f } := by
  have made : s.Tends .none b :=
    ⟨h.tends.rest, h.tends.store.mono (fun g held same => h.newCall (same ▸ held)) fun _ _ => id⟩
  exact (made.trans tends).trans (.of_store t (.refl _ _) f)

end Session.Bound

/-! ### The frames of a call -/

/-- A call of a function whose body is a block. -/
structure Workshop where
  /-- The session in which the function is called. -/
  start : Session
  /-- The frame of the call. -/
  call : FrameId
  /-- The frame of the block in it. -/
  block : FrameId
  /-- The arguments, under the names of the parameters. -/
  bound : List (String × Value)
  /-- The session in which the members of the block are begun. -/
  base : Session
  /-- The frames have just been made. -/
  entered : start.Entered call block bound base
  /-- There is a frame of global names. -/
  root : start.store.HasFrame Store.root

namespace Workshop

/-- In the session, the block holds these names with their values, among others. Since the call has
begun, only the block and the arrays in `kept` have changed. -/
structure Holds (W : Workshop) (kept : ArrayId → Prop) (vars : List (String × Value))
    (s : Session) : Prop where
  /-- Nothing else has changed. -/
  tends : W.base.Tends ⟨(· = W.block), kept⟩ s
  /-- The block stays in its place. -/
  around : s.store.parent? W.block = some W.call
  /-- It holds the names. -/
  held : ∀ p ∈ vars, s.store.lookup? W.block p.1 = some p.2

variable {W : Workshop} {kept : ArrayId → Prop} {vars vars' : List (String × Value)}
  {scopes : List Scope} {s t : Session} {x : String} {v w : Value}

/-- When the members are begun, the block is empty. -/
theorem begins (W : Workshop) (kept : ArrayId → Prop) : W.Holds kept [] W.base :=
  ⟨.refl _ _, W.entered.around, nofun⟩

namespace Holds

theorem hasBlock (h : W.Holds kept vars s) : s.store.HasFrame W.block :=
  Store.hasFrame_of_parent? h.around

theorem recalls (h : W.Holds kept vars s) : W.start.Recalls s :=
  W.entered.tends.recalls.trans h.tends.recalls

theorem block_ne_root (W : Workshop) : Store.root ≠ W.block := by
  intro same
  exact W.entered.newBlock (same ▸ W.root)

/-- The names that are global keep their values. -/
theorem lookup?_root (h : W.Holds kept vars s) (x : String) :
    s.store.lookup? Store.root x = W.start.store.lookup? Store.root x := by
  have root : W.base.store.HasFrame Store.root :=
    Nat.lt_of_lt_of_le W.root W.entered.tends.store.frames
  exact (h.tends.store.lookup? root (block_ne_root W) x).trans
    (W.entered.tends.store.lookup? W.root id x)

/-- So do arrays that are not kept by the call. -/
theorem elements (h : W.Holds kept vars s) {a : ArrayId} (ha : W.start.store.HasArray a)
    (free : ¬kept a) : s.store.elements a = W.start.store.elements a := by
  have old : W.base.store.HasArray a := Nat.lt_of_lt_of_le ha W.entered.tends.store.arrays
  exact (h.tends.store.elements old free).trans (W.entered.tends.store.elements ha id)

/-- The frame of the session does not matter. -/
theorem inFrame (h : W.Holds kept vars s) (f : FrameId) : W.Holds kept vars { s with frame := f } :=
  ⟨h.tends.trans (.of_store s (.refl _ _) f), h.around, h.held⟩

/-! ### What is known in the block -/

theorem knows (h : W.Holds kept vars s) (mem : (x, v) ∈ vars)
    (hops : Resolution.hopsTo? x scopes = some 0) :
    { s with frame := W.block }.Knows scopes x v := by
  refine ⟨W.block, ?_, h.held _ mem⟩
  unfold Session.Finds
  rw [hops]
  rfl

theorem knows_parameter (h : W.Holds kept vars s) (mem : (x, v) ∈ W.bound)
    (hops : Resolution.hopsTo? x scopes = some 1) :
    { s with frame := W.block }.Knows scopes x v := by
  refine ⟨W.call, ?_, ?_⟩
  · unfold Session.Finds
    rw [hops]
    simp [Store.ancestor?, h.around]
  · exact (h.tends.store.lookup? W.entered.hasCall W.entered.apart x).trans (W.entered.bound _ mem)

theorem knows_global (h : W.Holds kept vars s)
    (bound : W.start.store.lookup? Store.root x = some v)
    (hops : Resolution.hopsTo? x scopes = none) :
    { s with frame := W.block }.Knows scopes x v := by
  refine ⟨Store.root, ?_, (h.lookup?_root x).trans bound⟩
  unfold Session.Finds
  rw [hops]

/-! ### What becomes of the block -/

/-- A name of the block has a new value, in a session in which all else is as it was. -/
theorem change (h : W.Holds kept vars s) (tends : s.Tends ⟨(· = W.block), kept⟩ t)
    (tree : s.store.SameTree t.store) (has : t.store.lookup? W.block x = some v)
    (others : ∀ y, y ≠ x → t.store.lookup? W.block y = s.store.lookup? W.block y)
    (among : ∀ p ∈ vars', p = (x, v) ∨ p ∈ vars ∧ p.1 ≠ x) : W.Holds kept vars' t := by
  refine ⟨h.tends.trans tends, (tree.parent W.block).trans h.around, fun p hp => ?_⟩
  obtain rfl | ⟨old, other⟩ := among p hp
  · exact has
  · exact (others p.1 other).trans (h.held p old)

/-- A name is made in the block. -/
theorem declare {tok : Token} {e : Expr} {n : Nat} (h : W.Holds kept vars t)
    (value : Eval.evaluate n e s = .ok v t) (frame : t.frame = W.block)
    (among : ∀ p ∈ vars', p = (tok.lexeme, v) ∨ p ∈ vars ∧ p.1 ≠ tok.lexeme) :
    Eval.evaluate (n + 1) (.declareAs tok e) s = .ok v (t.define tok.lexeme v) ∧
      W.Holds kept vars' (t.define tok.lexeme v) := by
  refine ⟨Eval.bind_of_ok value, ?_⟩
  have there : t.store.HasFrame t.frame := frame ▸ h.hasBlock
  have look (y : String) : (t.define tok.lexeme v).store.lookup? W.block y =
      if W.block = t.frame ∧ y = tok.lexeme then some v else t.store.lookup? W.block y :=
    t.store.lookup?_define there W.block tok.lexeme y v
  refine h.change (.of_store t (t.store.tends_define frame _ v) _)
    (t.store.sameTree_define _ _ _) ((look _).trans (if_pos ⟨frame.symm, rfl⟩))
    (fun y other => ?_) among
  exact (look y).trans (if_neg fun same => other same.2)

/-- A name of the block gets a new value, from a frame inside it. -/
theorem assign {c : Code} {e : Expr} {n : Nat}
    (place : (Code.assign x c).At W.start ([] :: scopes) e) (bound : c.bound = [])
    (hops : Resolution.hopsTo? x scopes = some 0) :
    ∃ e', c.At W.start ([] :: scopes) e' ∧ ∀ {vars vars' s t v w}, W.Holds kept vars t →
      Eval.evaluate n e' s = .ok v t → t.store.parent? t.frame = some W.block → (x, w) ∈ vars →
      (∀ p ∈ vars', p = (x, v) ∨ p ∈ vars ∧ p.1 ≠ x) →
      Eval.evaluate (n + 1) e s = .ok v (t.replace W.block x v) ∧
        W.Holds kept vars' (t.replace W.block x v) := by
  obtain ⟨id, name, e', rfl, spelled, value, -⟩ := place.assign
  refine ⟨e', value, fun {vars vars' s t v w} h done inside mem among => ?_⟩
  obtain ⟨_, _, _, same, -, -, known⟩ := (place.mono h.recalls).assign
  cases same
  rw [bound, Code.bindIn_nil] at known
  have held := h.held _ mem
  have found : t.Finds ([] :: scopes) x W.block := by
    refine Session.Finds.inside ?_ inside
    unfold Session.Finds
    rw [hops]
    rfl
  have look (y : String) : (t.replace W.block x v).store.lookup? W.block y =
      if W.block = W.block ∧ y = x ∧ (t.store.lookup? W.block x).isSome then some v
      else t.store.lookup? W.block y := t.store.lookup?_replace W.block W.block x y v
  have assigned := Code.evaluate_assign done (Session.owner_of_finds known spelled found held)
  rw [spelled] at assigned
  refine ⟨assigned, h.change (.of_store t (t.store.tends_replace rfl x v) _)
    (t.store.sameTree_replace _ _ _) ((look x).trans (if_pos ⟨rfl, rfl, by simp [held]⟩))
    (fun y other => (look y).trans (if_neg fun same => other same.2.1)) among⟩

/-- The index is counted up. -/
theorem counts {e : Expr} {i n : Nat}
    (place : (Code.assign "i" (.binary (.name "i") .plus (.number 1))).At W.start ([] :: scopes) e)
    (hops : Resolution.hopsTo? "i" scopes = some 0) (h : W.Holds kept vars t)
    (inside : t.store.parent? t.frame = some W.block)
    (mem : ("i", .number (Float.ofNat i)) ∈ vars) (small : i + 1 < 2 ^ 53) (enough : 2 ≤ n)
    (among : ∀ p ∈ vars', p = ("i", .number (Float.ofNat (i + 1))) ∨ p ∈ vars ∧ p.1 ≠ "i") :
    Eval.evaluate (n + 1) e t = .ok (.number (Float.ofNat (i + 1)))
        (t.replace W.block "i" (.number (Float.ofNat (i + 1)))) ∧
      W.Holds kept vars' (t.replace W.block "i" (.number (Float.ofNat (i + 1)))) := by
  obtain ⟨e', sum, assigns⟩ := assign (n := n) place rfl hops
  have index : (Code.name "i").Has ([] :: scopes) 1 t (.number (Float.ofNat i)) :=
    ((h.knows mem hops).inside inside).has
  have added := index.plus (.number 1) small e' n (sum.mono h.recalls) enough
  exact assigns h added inside mem among

/-- A frame is made inside the block. -/
theorem enter (h : W.Holds kept vars s) (origin : Origin) :
    W.Holds kept vars (s.enter origin W.block) ∧
      (s.enter origin W.block).store.parent? (s.enter origin W.block).frame = some W.block := by
  have tends : s.Tends ⟨(· = W.block), kept⟩ (s.enter origin W.block) :=
    .of_store s (s.store.tends_branch _ origin W.block) _
  have inside := h.hasBlock
  refine ⟨⟨h.tends.trans tends, ?_, fun p hp => ?_⟩, s.store.parent?_branch origin W.block⟩
  · refine (s.store.parent?_branch_eq origin W.block W.block).trans ?_
    rw [if_neg (Nat.ne_of_lt inside), h.around]
  · exact (s.store.lookup?_branch origin W.block W.block p.1).trans (h.held p hp)

/-- Only an array changes that is kept, or one is made. -/
theorem arrays (h : W.Holds kept vars s) {store : Store}
    (tends : s.store.Tends ⟨(· = W.block), kept⟩ store) (frames : store.frames = s.store.frames) :
    W.Holds kept vars { s with store := store } where
  tends := h.tends.trans (.of_store s tends _)
  around := (Store.parent?_of_frames_eq frames _).trans h.around
  held p hp := (Store.lookup?_of_frames_eq frames _ _).trans (h.held p hp)

/-- An array that is new since the call has begun may be kept. -/
theorem keep (h : W.Holds (fun _ => False) vars s) (a : ArrayId) :
    W.Holds (· = a) vars s where
  tends := ⟨h.tends.rest, h.tends.store.mono (fun _ _ => id) fun _ _ => nofun⟩
  around := h.around
  held := h.held

/-- The body of a loop is a block of two members. -/
theorem round {e₁ e₂ : Expr} {n : Nat} {y z : Value} {u : Session} (frame : s.frame = W.block)
    (first : Eval.evaluate n e₁ (s.enter (.block [e₁, e₂]) W.block) = .ok y t)
    (second : Eval.evaluate n e₂ t = .ok z u) :
    Eval.evaluate (n + 1) (.block [e₁, e₂]) s = .ok z { u with frame := W.block } := by
  have members : Eval.last (Eval.evaluate n) .null [e₁, e₂] (s.enter (.block [e₁, e₂]) W.block) =
      .ok z u := (Eval.bind_of_ok first).trans (Eval.bind_of_ok second)
  have split : Eval.evaluate (n + 1) (.block [e₁, e₂]) s =
      Eval.inNewFrame (.block [e₁, e₂]) s.frame
        (Eval.last (Eval.evaluate n) .null [e₁, e₂]) s := rfl
  rw [split, Eval.inNewFrame_eq, frame, members]
  rfl

/-- When the call is over, nothing that was there before has changed. -/
theorem leaves (h : W.Holds kept vars s) (new : ∀ a, kept a → ¬W.start.store.HasArray a)
    (f : FrameId) : W.start.Tends .none { s with frame := f } := by
  have wide : W.start.Tends ⟨(· = W.block), kept⟩ W.base :=
    ⟨W.entered.tends.rest, W.entered.tends.store.mono (fun _ _ => nofun) fun _ _ => nofun⟩
  have all := (wide.trans h.tends).trans (.of_store s (.refl _ _) f)
  refine ⟨all.rest, all.store.mono (fun g held same => W.entered.newBlock ?_) fun a held own => ?_⟩
  · obtain rfl : g = W.block := same
    exact held
  · exact new a own held

end Holds

end Workshop

/-! ### How a call begins -/

namespace Session

variable {s : Session} {c : Value}

/-- These builtin functions have their names. -/
def HasBuiltins (s : Session) (bs : List Builtin) : Prop :=
  ∀ b ∈ bs, ∃ id, s.store.lookup? Store.root b.name = some (.function (.builtin id b))

/-- What the library does by itself takes no names away. -/
theorem HasBuiltins.mono {bs : List Builtin} {t : Session} (h : s.HasBuiltins bs)
    (root : s.store.HasFrame Store.root) (tends : s.Tends .none t) : t.HasBuiltins bs := by
  intro b hb
  rw [tends.store.lookup? root not_false]
  exact h b hb

/-- A function of the library begins: a frame binds the parameters, and the body is evaluated
there. -/
theorem Bundles.starts {r : Routine} (h : s.Bundles r c) (sound : s.Sound)
    (hr : r ∈ Library.routines) (close : Token) {vs : List Value}
    (length : r.params.length = vs.length) (apart : r.params.Nodup) :
    ∃ call b e, s.Bound call (r.params.zip vs) b ∧ r.body.At s [r.scope] e ∧
      ∀ n r', Eval.evaluate n e b = r' → (∀ k u, r' ≠ .error (.broke k) u) →
        Eval.invoke (Eval.evaluate n) close c vs s =
          Eval.restored (fun u => { u with frame := s.frame }) r' := by
  obtain ⟨id, name, params, body, rfl, names, place⟩ := h.at_body sound hr
  rw [← names] at apart length ⊢
  rw [List.length_map] at length
  obtain ⟨call, b, bound, leaves⟩ :=
    s.exists_bound close id (some name) body Store.root length apart
  exact ⟨call, b, body, bound, place, leaves⟩

/-- If the body is a block, its members are evaluated in a frame of their own. -/
theorem Bundles.opens {r : Routine} {cs : List Code} (h : s.Bundles r c) (sound : s.Sound)
    (root : s.store.HasFrame Store.root) (hr : r ∈ Library.routines) (shape : r.body = .block cs)
    (close : Token) {vs : List Value} (length : r.params.length = vs.length)
    (apart : r.params.Nodup) :
    ∃ (W : Workshop) (es : List Expr), W.start = s ∧ W.bound = r.params.zip vs ∧
      W.base.frame = W.block ∧ W.base.store.arrays = s.store.arrays ∧
      r.body.At s [r.scope] (.block es) ∧
      ∀ n r', Eval.last (Eval.evaluate n) .null es W.base = r' →
        (∀ k u, r' ≠ .error (.broke k) u) →
        Eval.invoke (Eval.evaluate (n + 1)) close c vs s =
          Eval.restored (fun u => { u with frame := s.frame }) r' := by
  obtain ⟨call, b, e, bound, place, leaves⟩ := h.starts sound hr close length apart
  rw [shape] at place
  obtain ⟨es, rfl, -⟩ := place.block
  rw [← shape] at place
  refine ⟨⟨s, call, _, _, _, bound.entered (.block es), root⟩, es, rfl, rfl, rfl, bound.arrays,
    place, fun n r' members other => ?_⟩
  rw [leaves (n + 1) _ (bound.evaluate_block n es)]
  · rw [members]
    cases r' <;> rfl
  · rw [members]
    cases r' with
    | ok v u => exact fun _ _ => nofun
    | error e u =>
      intro k w same
      cases same
      exact other k u rfl

end Session

end FoxScript
