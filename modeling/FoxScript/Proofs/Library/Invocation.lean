import FoxScript.Proofs.Library.Loop

/-!
# A call of a function that goes through an array

The frame of the call binds the parameters, and the frame of the block in it what is gathered and the
index. Then the loop is run, and what was gathered is the value.

## Main definitions

* `Library.Layout`: the parts of the body of such a function.
* `Setting.Called`: what is known of a call.
* `Session.Bound`, `Session.Entered`: what the frames of the call hold before the loop.
* `Session.Evaluable`, `Session.Calls`: calls in a program.

## Main statements

* `Session.exists_bound`, `Session.exists_entered`: how the call begins.
* `Setting.Called.comes`: what the call comes to.
-/
namespace FoxScript

/-! ### Parts of the body -/

namespace Library

/-- The parts of the body of a function that goes through an array. -/
structure Layout where
  /-- The name of what is gathered. -/
  result : Token
  /-- What it is at first. -/
  first : Expr
  /-- The index. -/
  counter : Token
  /-- What it is at first. -/
  zero : Expr
  /-- The keyword of the loop. -/
  keyword : Token
  /-- The condition of the loop. -/
  condition : Expr
  /-- The work of a round. -/
  work : Expr
  /-- The end of a round. -/
  count : Expr
  /-- The value of the body. -/
  answer : Expr

/-- The members of the body. -/
def Layout.members (l : Layout) : List Expr :=
  [.declareAs l.result l.first, .declareAs l.counter l.zero,
    .loopWhile l.keyword l.condition (.block [l.work, l.count]), l.answer]

/-- The parts are in their places. -/
structure Layout.At (l : Layout) (s : Session) (x : String) (first work : Code) (scope : Scope) :
    Prop where
  /-- What is gathered has a name. -/
  result : l.result.lexeme = x
  /-- It begins with this. -/
  first : first.At s [[(x, false)], scope] l.first
  /-- The index has a name. -/
  counter : l.counter.lexeme = "i"
  /-- It begins with zero. -/
  zero : l.zero = .literal (.number (Float.ofNat 0))
  /-- The condition compares it with the number of elements. -/
  condition : (Code.binary (.name "i") .less (.call (.name "len") [.name "xs"])).At s
    (loopScopes x scope) l.condition
  /-- The work comes first in a round. -/
  work : work.At s ([] :: loopScopes x scope) l.work
  /-- Then the index is counted up. -/
  count : (Code.assign "i" (.binary (.name "i") .plus (.number 1))).At s ([] :: loopScopes x scope)
    l.count
  /-- The value is what was gathered. -/
  answer : (Code.name x).At s (loopScopes x scope) l.answer

/-- Every body that is code of this form has these parts. -/
theorem exists_layout {s : Session} {x : String} {first work : Code} {scope : Scope} {e : Expr}
    (h : (traversal x first work).At s [scope] e) (hf : first.bound = []) (hw : work.bound = []) :
    ∃ l : Layout, e = .block l.members ∧ l.At s x first work scope := by
  obtain ⟨es, rfl, members⟩ := h.block
  obtain ⟨e₁, es, rfl, h₁, members⟩ := members.cons
  obtain ⟨e₂, es, rfl, h₂, members⟩ := members.cons
  obtain ⟨e₃, es, rfl, h₃, members⟩ := members.cons
  obtain ⟨e₄, es, rfl, h₄, members⟩ := members.cons
  obtain rfl := members.nil
  simp only [Code.bound, hf, Code.boundBy, Code.bindIn_cons, List.append_nil, List.nil_append,
    List.cons_append] at h₂ h₃ h₄
  obtain ⟨a, first, rfl, named, begins⟩ := h₁.declareAs
  obtain ⟨c, zero, rfl, counter, starts⟩ := h₂.declareAs
  obtain ⟨keyword, condition, w, step, rfl, compares, works, counts⟩ := h₃.rounds
  simp only [Code.bound, hw, Code.boundBy, Code.bindIn_nil, List.append_nil] at works counts
  exact ⟨⟨a, first, c, zero, keyword, condition, w, step, e₄⟩, rfl,
    ⟨named, begins, counter, starts.number, compares, works, counts, h₄⟩⟩

end Library

/-! ### How a call begins -/

/-- Parameters with different names are bound to the arguments in the frame of the session. Nothing
else changes. -/
theorem Eval.exists_bindParameters {s : Session} {σ : Secret} (secret : σ.frames s.frame)
    (held : s.store.HasFrame s.frame) (params : List Token) (vs : List Value)
    (apart : (params.map Token.lexeme).Nodup) :
    ∃ t, bindParameters params vs s = .ok () t ∧ s.Tends σ t ∧ t.frame = s.frame ∧
      (∀ p ∈ (params.map Token.lexeme).zip vs, t.store.lookup? s.frame p.1 = some p.2) ∧
      (∀ x, x ∉ params.map Token.lexeme →
        t.store.lookup? s.frame x = s.store.lookup? s.frame x) ∧
      t.store.arrays = s.store.arrays := by
  induction params generalizing vs s with
  | nil => exact ⟨s, rfl, .refl σ s, rfl, nofun, fun _ _ => rfl, rfl⟩
  | cons p ps ih =>
    cases vs with
    | nil => exact ⟨s, rfl, .refl σ s, rfl, by simp, fun _ _ => rfl, rfl⟩
    | cons v vs =>
      obtain ⟨new, apart⟩ := List.nodup_cons.1 apart
      have tends : s.Tends σ (s.define p.lexeme v) :=
        .of_store s (s.store.tends_define secret p.lexeme v) _
      have there : (s.define p.lexeme v).store.HasFrame s.frame :=
        Nat.lt_of_lt_of_le held tends.store.frames
      obtain ⟨t, binds, more, frame, bound, others, arrays⟩ := ih (s := s.define p.lexeme v) secret there vs apart
      have look (x : String) : (s.define p.lexeme v).store.lookup? s.frame x =
          if s.frame = s.frame ∧ x = p.lexeme then some v else s.store.lookup? s.frame x :=
        s.store.lookup?_define held s.frame p.lexeme x v
      refine ⟨t, binds, tends.trans more, frame, List.forall_mem_cons.2 ⟨?_, bound⟩, fun x hx => ?_,
        arrays⟩
      · exact (others _ new).trans ((look _).trans (if_pos ⟨rfl, rfl⟩))
      · have other : x ≠ p.lexeme := List.ne_of_not_mem_cons hx
        exact (others x (List.not_mem_of_not_mem_cons hx)).trans
          ((look x).trans (if_neg fun same => other same.2))

/-- After `s` the frames of a call are made: one that binds parameters, and a block in it in which there
is nothing yet. -/
structure Session.Entered (s : Session) (call block : FrameId) (bound : List (String × Value))
    (t : Session) : Prop where
  /-- Nothing that was there before has changed. -/
  tends : s.Tends .none t
  /-- The session is in the block. -/
  frame : t.frame = block
  /-- The block lies in the call. -/
  around : t.store.parent? block = some call
  /-- The frame of the call is new. -/
  newCall : ¬s.store.HasFrame call
  /-- It is there. -/
  hasCall : t.store.HasFrame call
  /-- The frame of the block is new. -/
  newBlock : ¬s.store.HasFrame block
  /-- It is another one. -/
  apart : call ≠ block
  /-- The parameters are bound. -/
  bound : ∀ p ∈ bound, t.store.lookup? call p.1 = some p.2

namespace Session.Entered

variable {s t u : Session} {call block : FrameId} {bound : List (String × Value)}

theorem hasBlock (h : s.Entered call block bound t) : t.store.HasFrame block :=
  Store.hasFrame_of_parent? h.around

/-- What changes the block only keeps this. -/
theorem mono (h : s.Entered call block bound t) (g : t.Tends ⟨(· = block), fun _ => False⟩ u)
    (frame : u.frame = t.frame) (around : u.store.parent? block = t.store.parent? block) :
    s.Entered call block bound u where
  tends := by
    have wide : s.Tends ⟨(· = block), fun _ => False⟩ t :=
      ⟨h.tends.rest, h.tends.store.mono (fun _ _ => nofun) fun _ _ => nofun⟩
    have all := wide.trans g
    refine ⟨all.rest, all.store.mono (fun f held same => h.newBlock ?_) fun _ _ => id⟩
    obtain rfl : f = block := same
    exact held
  frame := frame.trans h.frame
  around := around.trans h.around
  newCall := h.newCall
  hasCall := Nat.lt_of_lt_of_le h.hasCall g.store.frames
  newBlock := h.newBlock
  apart := h.apart
  bound p hp := (g.store.lookup? h.hasCall h.apart _).trans (h.bound p hp)

/-- The parameters are found from the block. -/
theorem finds (h : s.Entered call block bound t) {scopes : List Scope} {x : String}
    (hops : Resolution.hopsTo? x scopes = some 1) : t.Finds scopes x call := by
  unfold Session.Finds
  rw [hops, h.frame]
  simp [Store.ancestor?, h.around]

/-- The builtin functions have their names. -/
theorem natives (h : s.Entered call block bound t) (root : s.store.HasFrame Store.root)
    (natives : s.HasNatives) : t.HasNatives := by
  intro b hb
  rw [h.tends.store.lookup? root id]
  exact natives b hb

end Session.Entered

/-- The frame of a block is made in the frame of a call. -/
theorem Session.Tends.entered {s b : Session} {call : FrameId} {bound : List (String × Value)}
    (tends : s.Tends ⟨(· = call), fun _ => False⟩ b) (new : ¬s.store.HasFrame call)
    (there : b.store.HasFrame call) (binds : ∀ p ∈ bound, b.store.lookup? call p.1 = some p.2)
    (frame : b.frame = call) (origin : Origin) :
    s.Entered call (b.enter origin call).frame bound (b.enter origin call) := by
  have inner : b.Tends ⟨(· = call), fun _ => False⟩ (b.enter origin call) :=
    .of_store b (b.store.tends_branch _ _ _) _
  have all := tends.trans inner
  have fresh : ¬b.store.HasFrame (b.enter origin call).frame := Nat.lt_irrefl _
  refine ⟨⟨all.rest, all.store.mono (fun f held same => new ?_) fun _ _ => id⟩, rfl,
    b.store.parent?_branch _ _, new, Nat.lt_of_lt_of_le there inner.store.frames, ?_, ?_,
    fun p hp => (b.store.lookup?_branch _ _ _ _).trans (binds p hp)⟩
  · obtain rfl : f = call := same
    exact held
  · exact fun held => fresh (Nat.lt_of_lt_of_le held tends.store.frames)
  · rintro same
    exact fresh (same ▸ there)

/-- After `s` the frame of a call is made, which binds parameters. -/
structure Session.Bound (s : Session) (call : FrameId) (bound : List (String × Value)) (t : Session) :
    Prop where
  /-- Nothing that was there before has changed. -/
  tends : s.Tends ⟨(· = call), fun _ => False⟩ t
  /-- No array is made. -/
  arrays : t.store.arrays = s.store.arrays
  /-- The session is in the call. -/
  frame : t.frame = call
  /-- The frame of the call is new. -/
  newCall : ¬s.store.HasFrame call
  /-- It is there. -/
  hasCall : t.store.HasFrame call
  /-- The parameters are bound. -/
  bound : ∀ p ∈ bound, t.store.lookup? call p.1 = some p.2

/-- A function is called: a frame binds the parameters, and the body is evaluated there. -/
theorem Session.exists_bound (s : Session) (close : Token) (id : FunctionId) (name : Option Token)
    {params : List Token} (body : Expr) (f : FrameId) {vs : List Value}
    (length : params.length = vs.length) (apart : (params.map Token.lexeme).Nodup) :
    ∃ call b, s.Bound call ((params.map Token.lexeme).zip vs) b ∧
      ∀ n r, Eval.evaluate n body b = r → (∀ k u, r ≠ .error (.broke k) u) →
        Eval.invoke (Eval.evaluate n) close (.function (.closure id name params body f)) vs s =
          Eval.restored (fun u => { u with frame := s.frame }) r := by
  let c := s.enter (.call params body) f
  have made : s.Tends ⟨(· = c.frame), fun _ => False⟩ c := .of_store s (s.store.tends_branch _ _ _) _
  have there : c.store.HasFrame c.frame := s.store.hasFrame_branch _ _
  obtain ⟨b, binds, tends, frame, bound, -, arrays⟩ :=
    Eval.exists_bindParameters (σ := ⟨(· = c.frame), fun _ => False⟩) rfl there params vs apart
  have hasCall : b.store.HasFrame c.frame := Nat.lt_of_lt_of_le there tends.store.frames
  refine ⟨c.frame, b, ⟨made.trans tends, arrays, frame, Nat.lt_irrefl _, hasCall, bound⟩,
    fun n r ends other => ?_⟩
  have body' : (do Eval.bindParameters params vs; Eval.confined (Eval.evaluate n body)) c = r := by
    refine (Eval.bind_of_ok binds).trans ?_
    rw [Eval.confined, ends]
    cases r with
    | ok v u => rfl
    | error e u =>
      cases e with
      | broke k => exact absurd rfl (other k u)
      | _ => rfl
  have arity : (Function.closure id name params body f).arity = vs.length := length
  rw [Eval.invoke, arity, if_neg (by simp), Eval.inNewFrame_eq, body']

namespace Session.Bound

variable {s b : Session} {call : FrameId} {bound : List (String × Value)}

/-- The frame of a block is made in the frame of the call. -/
theorem entered (h : s.Bound call bound b) (origin : Origin) :
    s.Entered call (b.enter origin call).frame bound (b.enter origin call) :=
  h.tends.entered h.newCall h.hasCall h.bound h.frame origin

/-- If the body is a block, its members are evaluated in that frame. -/
theorem evaluate_block (h : s.Bound call bound b) (n : Nat) (es : List Expr) :
    Eval.evaluate (n + 1) (.block es) b =
      Eval.restored (fun u => { u with frame := call })
        (Eval.last (Eval.evaluate n) .null es (b.enter (.block es) call)) := by
  have split : Eval.evaluate (n + 1) (.block es) b =
      Eval.inNewFrame (.block es) b.frame (Eval.last (Eval.evaluate n) .null es) b := rfl
  rw [split, Eval.inNewFrame_eq, h.frame]

end Session.Bound

/-- A function whose body is a block is called: a frame binds the parameters, and the members of the
block are evaluated in a frame inside it. -/
theorem Session.exists_entered (s : Session) (close : Token) (id : FunctionId) (name : Option Token)
    {params : List Token} (es : List Expr) (f : FrameId) {vs : List Value}
    (length : params.length = vs.length) (apart : (params.map Token.lexeme).Nodup) :
    ∃ call block t, s.Entered call block ((params.map Token.lexeme).zip vs) t ∧
      ∀ n r, Eval.last (Eval.evaluate n) .null es t = r → (∀ k u, r ≠ .error (.broke k) u) →
        Eval.invoke (Eval.evaluate (n + 1)) close
          (.function (.closure id name params (.block es) f)) vs s =
            Eval.restored (fun u => { u with frame := s.frame }) r := by
  obtain ⟨call, b, bound, leaves⟩ := s.exists_bound close id name (.block es) f length apart
  refine ⟨call, _, _, bound.entered (.block es), fun n r ends other => ?_⟩
  have body := bound.evaluate_block n es
  rw [ends] at body
  rw [leaves (n + 1) _ body]
  · cases r <;> rfl
  · cases r with
    | ok v u => exact fun _ _ => nofun
    | error e u =>
      intro k w same
      cases same
      exact other k u rfl

/-! ### Calls in a program -/

namespace Session

variable {s t u : Session} {c : Value} {vs : List Value} {n : Nat} {callee e : Expr} {close : Token}

/-- The expression can be evaluated in the session, and nothing dangles there. -/
structure Evaluable (t : Session) (e : Expr) : Prop where
  /-- The session is sound. -/
  tied : Tie.placed.Tied t t
  /-- The expression stands at its place. -/
  ready : Tie.placed.ready t t e e
  /-- Nothing dangles. -/
  secludes : t.store.Secludes .none
  /-- The frame of the session is there. -/
  active : t.store.OpenFrame .none t.frame

/-- Evaluated in `t`, the expression calls `c` with `vs` in `s`. The parts of the call are evaluated
within a budget of `n`. -/
inductive Calls (t : Session) (n : Nat) : Expr → Value → List Value → Session → Prop
  /-- The callee is evaluated, and then the arguments. -/
  | call {callee : Expr} {args : List Expr} {close : Token} {c : Value} {vs : List Value}
    {u s : Session} (called : Eval.evaluate n callee t = .ok c u)
    (given : Eval.all (Eval.evaluate n) #[] args u = .ok vs.toArray s) :
    Calls t n (.call callee args close) c vs s

theorem Reachable.evaluable_of_visits {s₀ : Session} (h : s₀.Reachable) {program : List Expr}
    (accepted : (s₀.baseDirectory, program) ∈ s₀.programs) {N : Nat}
    (visits : s₀.Visits N program t e) : t.Evaluable e := by
  obtain ⟨tied, ready⟩ := h.tied_of_visits accepted visits
  obtain ⟨secludes, active⟩ := h.secludes_of_visits visits
  exact ⟨tied, ready, secludes, active⟩

/-- The arguments can be evaluated once the callee has its value. -/
theorem Evaluable.after_callee {args : List Expr} (h : t.Evaluable (.call callee args close))
    (called : Eval.evaluate n callee t = .ok c u) :
    Tie.placed.Tied u u ∧ List.Forall₂ (Tie.placed.ready u u) args args ∧
      u.store.Secludes .none ∧ u.store.OpenFrame .none u.frame := by
  cases Tie.placed_lawful.form h.tied.scoping h.ready with
  | call first rest =>
    have ends := Tie.placed_lawful.simulates_evaluate n t t callee callee h.tied first
    rw [Tie.Agree, called] at ends
    obtain ⟨tied, left, right, -⟩ := ends
    have discreet := Eval.discreet_evaluate h.secludes h.active n callee
    rw [called] at discreet
    obtain ⟨spares, -⟩ := discreet
    exact ⟨tied, Tie.placed_lawful.allReady_mono rest left right, spares.secludes,
      spares.active h.active⟩

/-- An argument can be evaluated then. -/
theorem Evaluable.argument (h : t.Evaluable (.call callee [e] close))
    (called : Eval.evaluate n callee t = .ok c u) : u.Evaluable e := by
  obtain ⟨tied, ready, secludes, active⟩ := h.after_callee called
  cases ready with
  | cons first _ => exact ⟨tied, first, secludes, active⟩

/-- Where something is called the session is sound and nothing dangles. The arguments lead to nothing
that is not there. -/
theorem Evaluable.of_calls (h : t.Evaluable e) (calls : t.Calls n e c vs s) :
    s.Sound ∧ s.store.Secludes .none ∧ ∀ v ∈ vs, v.Open .none s.store := by
  cases calls with
  | @call _ args _ _ _ _ _ called given =>
    obtain ⟨tied, ready, secludes, active⟩ := h.after_callee called
    have ends := Tie.placed_lawful.agree_all (Tie.placed_lawful.simulates_evaluate n) tied ready .nil
    rw [Tie.Agree, given] at ends
    obtain ⟨tied, -, -, -⟩ := ends
    have rest := (Eval.discreet_all (Eval.keepsApart_evaluate .none n) secludes active args .empty).ends
    rw [given] at rest
    obtain ⟨spares, «open»⟩ := rest
    exact ⟨tied.scoping.2.1, spares.secludes, fun v hv => «open» v (List.mem_toArray.2 hv)⟩

/-- The call is what is left to do. -/
theorem Calls.evaluate_eq (h : t.Calls n e c vs s) :
    ∃ close, Eval.evaluate (n + 1) e t = Eval.invoke (Eval.evaluate n) close c vs s := by
  cases h with
  | @call callee args close _ _ _ _ called given =>
    exact ⟨close, (Eval.bind_of_ok called).trans (Eval.bind_of_ok given)⟩

end Session

/-! ### What the call comes to -/

namespace Setting

/-- What is known of a call. -/
structure Called (S : Setting) : Prop where
  /-- Nothing dangles. -/
  secludes : S.start.store.Secludes .none
  /-- The array is there. -/
  array : S.start.store.HasArray S.xs
  /-- So is what the function leads to. -/
  function : S.f.Open .none S.start.store
  /-- The number of elements. -/
  length : (S.start.store.elements S.xs).size = S.n
  /-- It is a number without loss. -/
  small : S.n < 2 ^ 53
  /-- The builtin functions have their names. -/
  natives : S.start.HasNatives

variable {S : Setting} {bound : List (String × Value)} {s t u : Session} {σ : Secret} {β : Type}
  {T : Traversal β} {G : Gathering T S} {b : β} {v w : Value}

/-- All that is made in the call is secret. -/
theorem Called.holds (h : S.Called) (entered : S.start.Entered S.call S.block bound u)
    (array : ("xs", .array S.xs) ∈ bound) (function : (S.given, S.f) ∈ bound)
    (kept : ∀ a, S.kept a → ¬S.start.store.HasArray a ∧ u.store.HasArray a) :
    S.Holds (Secret.none.since S.start.store u.store) u where
  secludes := h.secludes.tends entered.tends.store
  call := .inr ⟨entered.newCall, entered.hasCall⟩
  block := .inr ⟨entered.newBlock, entered.hasBlock⟩
  apart := entered.apart
  kept a own := .inr (kept a own)
  around := entered.around
  array := entered.bound _ array
  function := entered.bound _ function
  openArray := entered.tends.store.openArray ⟨h.array, id⟩
  openFunction := entered.tends.store.open h.function
  length := (congrArg Array.size (entered.tends.store.elements h.array id)).trans h.length
  grown := entered.tends.store.arrays
  recalls := entered.tends.recalls

/-- A name of the block gets its first value. -/
theorem Holds.define (h : S.Holds σ u) (frame : u.frame = S.block) (x : String) (v : Value) :
    u.Tends S.own (u.define x v) ∧ S.Holds (σ.since u.store (u.define x v).store) (u.define x v) ∧
      (u.define x v).store.lookup? S.block x = some v ∧
      ∀ y, y ≠ x → (u.define x v).store.lookup? S.block y = u.store.lookup? S.block y := by
  have tends : u.Tends S.own (u.define x v) :=
    .of_store u (u.store.tends_define frame x v) _
  have parent : (u.define x v).store.parent? S.block = some S.call :=
    ((u.store.sameTree_define u.frame x v).parent S.block).trans h.around
  have there : u.store.HasFrame u.frame := frame ▸ h.secludes.frames _ h.block
  have look (y : String) : (u.define x v).store.lookup? S.block y =
      if S.block = u.frame ∧ y = x then some v else u.store.lookup? S.block y :=
    u.store.lookup?_define there S.block x y v
  refine ⟨tends, h.tends tends parent, (look x).trans (if_pos ⟨frame.symm, rfl⟩), fun y other => ?_⟩
  exact (look y).trans (if_neg fun same => other same.2)

/-- The invariant holds before the loop. -/
theorem Holds.begin (h : S.Holds σ u) (frame : u.frame = S.block) (resolved : S.Resolved)
    (gathers : G.holds σ 0 u.store v b) :
    ∃ τ, u.Tends S.own ((u.define S.gathered v).define "i" (.number (Float.ofNat 0))) ∧
      S.Round G τ 0 0 b v ((u.define S.gathered v).define "i" (.number (Float.ofNat 0))) := by
  obtain ⟨tends₁, h₁, bound₁, -⟩ := h.define frame S.gathered v
  obtain ⟨tends₂, h₂, bound₂, others⟩ := h₁.define frame "i" (.number (Float.ofNat 0))
  have gathers := G.tends (G.tends gathers (h.wide tends₁.store) rfl) (h₁.wide tends₂.store) rfl
  exact ⟨_, tends₁.trans tends₂, h₂, bound₂, (others _ resolved.apart).trans bound₁, gathers⟩

/-- A call comes to what the loop comes to. -/
theorem Holds.goes_through (h : S.Holds σ u) (frame : u.frame = S.block) (natives : u.HasNatives)
    (resolved : S.Resolved) (small : S.n < 2 ^ 53) {l : Library.Layout} {first work : Code}
    (layout : l.At S.start S.gathered first work S.scope) {m : Nat} (enough : S.n + 1 ≤ m)
    {close : Token} (works : S.Works G m close l.work)
    (value : Eval.evaluate (m + 3) l.first t = .ok v u) (gathers : G.holds σ 0 u.store v b)
    {back : Session → Session} (restores : ∀ u, u.Tends S.own (back u) ∧ (back u).frame = s.frame)
    {r : EStateM.Result Exit Session Value}
    (leaves : ∀ r', Eval.last (Eval.evaluate (m + 4)) .null l.members t = r' →
      (∀ k u, r' ≠ .error (.broke k) u) → r = Eval.restored back r')
    {result : β → Session → Value → Prop}
    (results : ∀ τ b v t, S.Round G τ S.n S.n b v t → result b (back t) v) :
    ∃ ending, T.Runs S.own S.xs S.n (Eval.invoke (Eval.evaluate m) close S.f) 0 b u ending ∧
      ending.Gives s S.own result r := by
  obtain ⟨τ, tends, round⟩ := h.begin frame resolved gathers
  have L : S.Loop G m close l.condition l.work l.count :=
    ⟨resolved, small, by omega, layout.condition, layout.count, works⟩
  have declares : Eval.evaluate (m + 4) (.declareAs l.result l.first) t =
      .ok v (u.define S.gathered v) := by
    rw [← layout.result]
    exact Eval.bind_of_ok value
  have counts : Eval.evaluate (m + 4) (.declareAs l.counter l.zero) (u.define S.gathered v) =
      .ok (.number (Float.ofNat 0))
        ((u.define S.gathered v).define "i" (.number (Float.ofNat 0))) := by
    rw [layout.zero, ← layout.counter]
    rfl
  have members : Eval.last (Eval.evaluate (m + 4)) .null l.members t =
      (Eval.evaluate (m + 4) (.loopWhile l.keyword l.condition (.block [l.work, l.count])) >>=
        fun w => Eval.last (Eval.evaluate (m + 4)) w [l.answer])
          ((u.define S.gathered v).define "i" (.number (Float.ofNat 0))) :=
    (Eval.bind_of_ok declares).trans (Eval.bind_of_ok counts)
  obtain ⟨ending, runs, ends⟩ := L.runs round frame (h.natives tends natives) (Nat.zero_le _)
    (show S.n - 0 < m + 3 by omega) .null
  refine ⟨ending, runs.after tends, ?_⟩
  generalize loop : Eval.iterate _ _ _ _ _ _ = r' at ends
  have looped : Eval.evaluate (m + 4) (.loopWhile l.keyword l.condition (.block [l.work, l.count]))
      ((u.define S.gathered v).define "i" (.number (Float.ofNat 0))) = r' := loop
  cases ends with
  | @done τ b w r' t' h frame =>
    have here : t' = { t' with frame := S.block } := by rw [← frame]
    have gathered : (Code.name S.gathered).Has S.scopes 1 t' w := by
      refine .name ?_ h.held
      rw [here]
      exact Holds.finds_gathered resolved
    have answer := gathered l.answer (m + 4) (layout.answer.mono h.recalls) (Nat.le_add_left 1 _)
    have all : Eval.last (Eval.evaluate (m + 4)) .null l.members t = .ok w t' := by
      rw [members, Eval.bind_of_ok looped]
      exact Eval.bind_of_ok answer
    rw [leaves _ all fun _ _ => nofun]
    exact .done (restores t').1 (restores t').2 (results τ b w t' h)
  | @failed e u' t' other tends =>
    have all : Eval.last (Eval.evaluate (m + 4)) .null l.members t = .error e t' := by
      rw [members, Eval.bind_of_error looped]
    rw [leaves _ all fun k u same => other k (by cases same; rfl)]
    exact .failed (tends.trans (restores t').1) (restores t').2
  | spoilt => exact .spoilt r

/-- A call comes to what its loop comes to, once what is gathered has its first value. -/
theorem Called.comes (h : S.Called) (resolved : S.Resolved)
    (entered : S.start.Entered S.call S.block bound t) (array : ("xs", .array S.xs) ∈ bound)
    (function : (S.given, S.f) ∈ bound) {l : Library.Layout} {first work : Code}
    (layout : l.At S.start S.gathered first work S.scope) {m : Nat} (enough : S.n + 1 ≤ m)
    (works : ∃ close, S.Works G m close l.work) (value : Eval.evaluate (m + 3) l.first t = .ok v u)
    (makes : t.Tends .none u) (frame : u.frame = t.frame)
    (kept : ∀ a, S.kept a → ¬S.start.store.HasArray a ∧ u.store.HasArray a)
    (gathers : G.holds (Secret.none.since S.start.store u.store) 0 u.store v b)
    {r : EStateM.Result Exit Session Value}
    (leaves : ∀ r', Eval.last (Eval.evaluate (m + 4)) .null l.members t = r' →
      (∀ k u, r' ≠ .error (.broke k) u) →
      r = Eval.restored (fun u => { u with frame := S.start.frame }) r')
    {result : β → Session → Value → Prop}
    (results : ∀ τ b v t, S.Round G τ S.n S.n b v t →
      result b { t with frame := S.start.frame } v) :
    ∃ close, T.Comes S.start S.xs (Eval.invoke (Eval.evaluate m) close S.f) b result r := by
  obtain ⟨close, works⟩ := works
  have wide : t.Tends ⟨(· = S.block), fun _ => False⟩ u :=
    ⟨makes.rest, makes.store.mono (fun _ _ => nofun) fun _ _ => nofun⟩
  have entered := entered.mono wide frame (makes.store.parent? entered.hasBlock id)
  have own : S.start.Tends S.own u :=
    ⟨entered.tends.rest, entered.tends.store.mono (fun _ _ => nofun) fun _ _ => nofun⟩
  obtain ⟨ending, runs, gives⟩ := (h.holds entered array function kept).goes_through entered.frame
    (entered.natives h.secludes.root.1 h.natives) resolved h.small layout enough works value gathers
    (s := S.start) (fun u => ⟨.of_store u (.refl _ _) _, rfl⟩) leaves results
  rw [← h.length] at runs
  refine ⟨close, S.own, ending, fun f same => ?_, fun a ha => (kept a ha).1, runs.after own, gives⟩
  obtain rfl : f = S.block := same
  exact entered.newBlock

end Setting

end FoxScript
