import FoxScript.Proofs.Session.Addressing
import FoxScript.Proofs.Session.Seclusion

/-!
# Evaluations that are discreet

Whatever is evaluated in an open frame, what is kept apart stays as it is, nothing leads to it
afterwards, and the value does not lead to it either. So it is for the steps that evaluation is made
of, with one case for each form of expression, and then by induction on the budget.

## Main definitions

* `Session.Spares`: what evaluations leave as it is.
* `Eval.Discreet`: a step that spares what is secret.

## Main statements

* `Eval.discreet_step`: one level of evaluation.
* `Eval.discreet_evaluate`, `Eval.discreet_invoke`: evaluations and calls of any depth.
* `Session.Reachable.secludes`, `Session.Reachable.secludes_of_visits`: nothing leads astray in
  sessions that can be reached, nor where a program is being run.
-/
namespace FoxScript

/-- The session in which an evaluation ends that spares what is secret. -/
structure Session.Spares (σ : Secret) (s t : Session) : Prop where
  /-- Nothing open leads to a secret. -/
  secludes : t.store.Secludes σ
  /-- The secrets are as they were. -/
  store : s.store.Spares σ t.store
  /-- The evaluation ends in the frame in which it starts. -/
  frame : t.frame = s.frame

namespace Session.Spares

variable {σ : Secret} {s t u : Session}

theorem refl (h : s.store.Secludes σ) : s.Spares σ s := ⟨h, .refl σ s.store, rfl⟩

theorem trans (h : s.Spares σ t) (g : t.Spares σ u) : s.Spares σ u :=
  ⟨g.secludes, h.store.trans g.store, g.frame.trans h.frame⟩

theorem active (h : s.Spares σ t) (active : s.store.OpenFrame σ s.frame) :
    t.store.OpenFrame σ t.frame := h.frame ▸ h.store.openFrame active

/-- What changes neither frames nor arrays spares all of them. -/
theorem of_store_eq (h : s.store.Secludes σ) (frames : t.store.frames = s.store.frames)
    (arrays : t.store.arrays = s.store.arrays) (frame : t.frame = s.frame) : s.Spares σ t :=
  have spares := h.of_eq frames arrays
  ⟨spares.1, spares.2, frame⟩

end Session.Spares

namespace Eval

/-- An end of an evaluation that spares what is secret, with a value of which `post` holds. -/
inductive Spared {α : Type} (σ : Secret) (s : Session) (post : Session → α → Prop) :
    EStateM.Result Exit Session α → Prop
  /-- It ends with a value. -/
  | ok {t : Session} {a : α} (spares : s.Spares σ t) (h : post t a) : Spared σ s post (.ok a t)
  /-- It ends without one. -/
  | error {t : Session} (e : Exit) (spares : s.Spares σ t) : Spared σ s post (.error e t)

/-- A step that spares what is secret. The first of the two steps is watched; it does what the
second does. -/
structure Discreet {α : Type} (σ : Secret) (s : Session) (post : Session → α → Prop)
    (act act' : Eval α) : Prop where
  /-- How the step ends. -/
  ends : Spared σ s post (act s)
  /-- It ends as if it was not watched. -/
  same : act s = act' s

/-- A value that leads to no secret. -/
def Opens (σ : Secret) (t : Session) (v : Value) : Prop := v.Open σ t.store

/-- Values that lead to no secret. -/
def AllOpen (σ : Secret) (t : Session) (vs : Array Value) : Prop := ∀ v ∈ vs, v.Open σ t.store

/-- What a nested program gives leads to no secret. -/
def Gives (σ : Secret) (t : Session) (r : Except (List Diagnostic) Value) : Prop :=
  ∀ v, r = .ok v → v.Open σ t.store

variable {σ : Secret} {s t u : Session} {α β : Type} {post : Session → α → Prop}
  {post' : Session → β → Prop} {act act' : Eval α}

theorem AllOpen.empty : AllOpen σ s #[] := nofun

theorem AllOpen.mono {vs : Array Value} (h : AllOpen σ s vs) (spares : s.Spares σ t) :
    AllOpen σ t vs := fun v hv => spares.store.open (h v hv)

theorem Spared.from {r : EStateM.Result Exit Session α} (h : Spared σ t post r)
    (spares : s.Spares σ t) : Spared σ s post r := by
  cases h with
  | ok g h => exact .ok (spares.trans g) h
  | error e g => exact .error e (spares.trans g)

theorem Spared.spares {r : EStateM.Result Exit Session α} (h : Spared σ s post r) :
    s.Spares σ (sessionAfter r) := by
  cases h with
  | ok g | error _ g => exact g

namespace Discreet

/-! ### Steps -/

theorem imp {post'' : Session → α → Prop} (h : Discreet σ s post act act')
    (hp : ∀ t a, s.Spares σ t → post t a → post'' t a) : Discreet σ s post'' act act' := by
  refine ⟨?_, h.same⟩
  generalize act s = r, h.ends = ends
  cases ends with
  | ok g h => exact .ok g (hp _ _ g h)
  | error e g => exact .error e g

/-- A step that leads to a value. -/
theorem value {a : α} (h : act s = .ok a t) (spares : s.Spares σ t) (hp : post t a) :
    Discreet σ s post act act :=
  ⟨h ▸ .ok spares hp, rfl⟩

theorem pure (h : s.store.Secludes σ) {a : α} (hp : post s a) :
    Discreet σ s post (pure a) (pure a) := value rfl (.refl h) hp

theorem throw (h : s.store.Secludes σ) (e : Exit) : Discreet σ s post (throw e) (throw e) :=
  ⟨.error e (.refl h), rfl⟩

theorem fail (h : s.store.Secludes σ) (x : Token) (f : Fault) :
    Discreet σ s post (Eval.fail x f) (Eval.fail x f) := throw h _

theorem bind {next next' : α → Eval β} (h : Discreet σ s post act act')
    (hn : ∀ t a, s.Spares σ t → post t a → Discreet σ t post' (next a) (next' a)) :
    Discreet σ s post' (act >>= next) (act' >>= next') := by
  obtain ⟨ends, same⟩ := h
  cases ha : act s with
  | ok a t =>
    rw [ha] at ends same
    cases ends with
    | ok g hp =>
      have second := hn t a g hp
      refine ⟨?_, ?_⟩
      · rw [bind_of_ok ha]
        exact second.ends.from g
      · rw [bind_of_ok ha, bind_of_ok same.symm]
        exact second.same
  | error e t =>
    rw [ha] at ends same
    cases ends with
    | error _ g =>
      refine ⟨?_, ?_⟩
      · rw [bind_of_error ha]
        exact .error e g
      · rw [bind_of_error ha, bind_of_error same.symm]

/-- Reading the session before another step. -/
theorem get {next next' : Session → Eval β} (h : Discreet σ s post' (next s) (next' s)) :
    Discreet σ s post' (MonadState.get >>= next) (MonadState.get >>= next') := ⟨h.ends, h.same⟩

/-- Reading the store before another step. -/
theorem look {f : Store → α} {next next' : α → Eval β}
    (h : Discreet σ s post' (next (f s.store)) (next' (f s.store))) :
    Discreet σ s post' (readStore f >>= next) (readStore f >>= next') := ⟨h.ends, h.same⟩

theorem ofExcept (h : s.store.Secludes σ) (x : Token) {r : Except Fault α}
    (hp : ∀ a, r = .ok a → post s a) :
    Discreet σ s post (Eval.ofExcept x r) (Eval.ofExcept x r) := by
  cases r with
  | ok a => exact pure h (hp a rfl)
  | error f => exact fail h x f

theorem ite {c : Prop} [Decidable c] {a b a' b' : Eval α} (pos : c → Discreet σ s post a a')
    (neg : ¬c → Discreet σ s post b b') :
    Discreet σ s post (if c then a else b) (if c then a' else b') := by
  by_cases h : c
  · rw [if_pos h, if_pos h]
    exact pos h
  · rw [if_neg h, if_neg h]
    exact neg h

/-! ### What happens to ends -/

/-- A step that does another step, maybe in another session, and changes how it ends. -/
theorem change (change : EStateM.Result Exit Session α → EStateM.Result Exit Session β)
    {other other' : Eval β} (h : Discreet σ u post act act') (eq : other s = change (act u))
    (eq' : other' s = change (act' u))
    (ends : ∀ r, Spared σ u post r → Spared σ s post' (change r)) :
    Discreet σ s post' other other' :=
  ⟨eq ▸ ends _ h.ends, by rw [eq, eq', h.same]⟩

theorem untilBreak (h : Discreet σ s post act act') :
    Discreet σ s (fun t r => ∀ a, r = some a → post t a) (Eval.untilBreak act)
      (Eval.untilBreak act') := by
  refine h.change (fun r => Eval.untilBreak (fun _ => r) s) rfl rfl fun r ends => ?_
  cases ends with
  | ok g hp => exact .ok g fun a ha => Option.some.inj ha ▸ hp
  | error e g =>
    cases e with
    | broke k => exact .ok g nofun
    | _ => exact .error _ g

theorem confined (h : Discreet σ s post act act') :
    Discreet σ s post (Eval.confined act) (Eval.confined act') := by
  refine h.change (fun r => Eval.confined (fun _ => r) s) rfl rfl fun r ends => ?_
  cases ends with
  | ok g hp => exact .ok g hp
  | error e g =>
    cases e with
    | _ => exact .error _ g

theorem contained {act act' : Eval Value} (h : Discreet σ s (Opens σ) act act') :
    Discreet σ s (Gives σ) (Eval.contained act) (Eval.contained act') := by
  refine h.change (fun r => Eval.contained (fun _ => r) s) rfl rfl fun r ends => ?_
  cases ends with
  | ok g hp => exact .ok g fun v hv => Except.ok.inj hv ▸ hp
  | error e g =>
    cases e with
    | failed d => exact .ok g nofun
    | _ => exact .error _ g

/-- A step that is done elsewhere: in a session that is changed, and changed back at the end. -/
theorem elsewhere {other other' : Eval α} {back : Session → Session}
    (h : Discreet σ u post act act') (eq : other s = restored back (act u))
    (eq' : other' s = restored back (act' u)) (enters : s.store.Spares σ u.store)
    (store : ∀ t, (back t).store = t.store)
    (frame : ∀ t, t.frame = u.frame → (back t).frame = s.frame)
    (hp : ∀ t a, post t a → post (back t) a) : Discreet σ s post other other' := by
  have comes {t : Session} (g : u.Spares σ t) : s.Spares σ (back t) :=
    ⟨store t ▸ g.secludes, store t ▸ enters.trans g.store, frame t g.frame⟩
  refine h.change (restored back) eq eq' fun r ends => ?_
  cases ends with
  | ok g h => exact .ok (comes g) (hp _ _ h)
  | error e g => exact .error e (comes g)

end Discreet

/-! ### Changes of the store -/

theorem discreet_modifyStore {f : Store → Store}
    (h : (f s.store).Secludes σ ∧ s.store.Spares σ (f s.store)) :
    Discreet σ s (fun _ _ => True) (modifyStore f) (modifyStore f) :=
  .value rfl ⟨h.1, h.2, rfl⟩ trivial

theorem discreet_define (h : s.store.Secludes σ) (active : s.store.OpenFrame σ s.frame)
    (x : String) {v : Value} (hv : v.Open σ s.store) :
    Discreet σ s (fun _ _ => True) (define x v) (define x v) :=
  have done := h.define active.2 x hv
  .value rfl ⟨done.1, done.2, rfl⟩ trivial

theorem discreet_newArray (h : s.store.Secludes σ) {vs : Array Value} (hvs : AllOpen σ s vs) :
    Discreet σ s (Opens σ) (newArray vs) (newArray vs) := by
  obtain ⟨secludes, spares, made⟩ := h.newArray hvs
  exact .value rfl ⟨secludes, spares, rfl⟩ made

theorem discreet_setElement (h : s.store.Secludes σ) (x : Token) {target : Value}
    (ht : target.Open σ s.store) (index : Value) {v : Value} (hv : v.Open σ s.store) :
    Discreet σ s (fun _ _ => True) (setElement x target index v)
      (setElement x target index v) := by
  have place : Discreet σ s (fun t p => t = s ∧ ¬σ.arrays p.1)
      (ofElement x (s.store.elementPlace target index))
      (ofElement x (s.store.elementPlace target index)) := by
    cases found : s.store.elementPlace target index with
    | ok p =>
      obtain ⟨rfl, -⟩ := Store.elementPlace_eq_ok found
      exact .pure h ⟨rfl, ht.2⟩
    | error e =>
      cases e with
      | fault f => exact .fail h x f
      | aliased => exact .throw h .crashed
  refine .look (place.bind fun t p _ hp => ?_)
  obtain ⟨rfl, free⟩ := hp
  exact discreet_modifyStore (h.setAt free p.2 hv)

/-- What changes neither frames nor arrays. -/
theorem discreet_outside {f : Session → α × Session} (h : s.store.Secludes σ)
    (store : (f s).2.store = s.store) (frame : (f s).2.frame = s.frame) :
    Discreet σ s (fun _ _ => True) (modifyGet f) (modifyGet f) :=
  .value rfl (.of_store_eq h (by rw [store]) (by rw [store]) frame) trivial

/-! ### Names -/

/-- The frame that a use means is open. -/
theorem openFrame_of_owner (h : s.store.Secludes σ) (active : s.store.OpenFrame σ s.frame)
    {id : NodeId} {x : Token} {f : FrameId} (found : s.owner id x = .ok f) :
    s.store.OpenFrame σ f := by
  rw [Session.owner] at found
  split at found
  · rw [Store.findAt] at found
    split at found
    · split at found <;> cases found
      exact h.openFrame_ancestor active ‹_›
    · cases found
  · rw [Store.find_root] at found
    split at found <;> cases found
    exact h.root

theorem discreet_ownerOf (h : s.store.Secludes σ) (active : s.store.OpenFrame σ s.frame)
    (id : NodeId) (x : Token) :
    Discreet σ s (fun t f => t = s ∧ s.store.OpenFrame σ f) (ownerOf id x) (ownerOf id x) := by
  have looked : Discreet σ s (fun t f => t = s ∧ s.store.OpenFrame σ f)
      (ofExcept x (s.owner id x)) (ofExcept x (s.owner id x)) :=
    .ofExcept h x fun f found => ⟨rfl, openFrame_of_owner h active found⟩
  exact ⟨looked.ends, looked.same⟩

theorem discreet_valueOf (h : s.store.Secludes σ) (active : s.store.OpenFrame σ s.frame)
    (id : NodeId) (x : Token) :
    Discreet σ s (Opens σ) (valueOf id x) (valueOf id x) := by
  refine (discreet_ownerOf h active id x).bind fun t f spares hf => ?_
  obtain ⟨rfl, hf⟩ := hf
  refine .value rfl spares ?_
  change ((t.store.lookup? f x.lexeme).getD .null).Open σ t.store
  cases held : t.store.lookup? f x.lexeme with
  | none => trivial
  | some v => exact h.values f x.lexeme v hf.2 held

/-! ### Functions -/

/-- A function is made, and bound to its name if it has one. -/
theorem discreet_closure (h : s.store.Secludes σ) (active : s.store.OpenFrame σ s.frame)
    (name : Option Token) (params : List Token) (e : Expr) :
    Discreet σ s (Opens σ) (closure name params e) (closure name params e) := by
  have made : Discreet σ s (fun _ _ => True) (changeStore Store.newFunction)
      (changeStore Store.newFunction) := .value rfl (.of_store_eq h rfl rfl rfl) trivial
  refine made.bind fun t id spares _ => .get ?_
  have active := spares.active active
  cases name with
  | none => exact .pure spares.secludes active
  | some x =>
    refine Discreet.bind (discreet_define spares.secludes active x.lexeme
      (v := .function (.closure id (some x) params e t.frame)) active) fun u _ later _ => ?_
    exact .pure later.secludes (later.store.openFrame active)

theorem discreet_bindParameters (h : s.store.Secludes σ) (active : s.store.OpenFrame σ s.frame)
    (params : List Token) {vs : List Value} (hvs : ∀ v ∈ vs, v.Open σ s.store) :
    Discreet σ s (fun _ _ => True) (bindParameters params vs) (bindParameters params vs) := by
  induction params generalizing s vs with
  | nil => exact .pure h trivial
  | cons x params ih =>
    cases vs with
    | nil => exact .pure h trivial
    | cons v vs =>
      obtain ⟨hv, hvs⟩ := List.forall_mem_cons.1 hvs
      refine (discreet_define h active x.lexeme hv).bind fun t _ spares _ => ?_
      exact ih spares.secludes (spares.active active) fun w hw => spares.store.open (hvs w hw)

/-! ### Steps within steps -/

/-- A step in a new frame inside an open one. -/
theorem discreet_inNewFrame {act act' : Eval Value} (h : s.store.Secludes σ) {origin : Origin}
    {f : FrameId} (hf : s.store.OpenFrame σ f)
    (inside : (s.enter origin f).store.Secludes σ →
      (s.enter origin f).store.OpenFrame σ (s.enter origin f).frame →
        Discreet σ (s.enter origin f) (Opens σ) act act') :
    Discreet σ s (Opens σ) (inNewFrame origin f act) (inNewFrame origin f act') := by
  obtain ⟨secludes, spares⟩ := h.branch origin hf
  exact (inside secludes (h.openFrame_branch origin f)).elsewhere (inNewFrame_eq s act origin f)
    (inNewFrame_eq s act' origin f) spares (fun _ => rfl) (fun _ _ => rfl) fun _ _ => id

/-! ### What is evaluated inside -/

/-- Evaluations in open frames are discreet. -/
def KeepsApart (σ : Secret) (eval eval' : Expr → Eval Value) : Prop :=
  ∀ s e, s.store.Secludes σ → s.store.OpenFrame σ s.frame →
    Discreet σ s (Opens σ) (eval e) (eval' e)

section

variable {eval eval' : Expr → Eval Value} (keeps : KeepsApart σ eval eval')

include keeps

theorem discreet_last (h : s.store.Secludes σ) (active : s.store.OpenFrame σ s.frame)
    (es : List Expr) {v : Value} (hv : v.Open σ s.store) :
    Discreet σ s (Opens σ) (last eval v es) (last eval' v es) := by
  induction es generalizing s v with
  | nil => exact .pure h hv
  | cons e es ih =>
    refine (keeps s e h active).bind fun t w spares hw => ?_
    exact ih spares.secludes (spares.active active) hw

theorem discreet_all (h : s.store.Secludes σ) (active : s.store.OpenFrame σ s.frame)
    (es : List Expr) {vs : Array Value} (hvs : AllOpen σ s vs) :
    Discreet σ s (AllOpen σ) (all eval vs es) (all eval' vs es) := by
  induction es generalizing s vs with
  | nil => exact .pure h hvs
  | cons e es ih =>
    refine (keeps s e h active).bind fun t w spares hw => ?_
    refine ih spares.secludes (spares.active active) fun v hv => ?_
    obtain hv | rfl := Array.mem_push.1 hv
    · exact hvs.mono spares v hv
    · exact hw

/-! ### Nested programs -/

theorem discreet_interpret (h : s.store.Secludes σ) (active : s.store.OpenFrame σ s.frame)
    (program : List Expr) :
    Discreet σ s (Opens σ) (interpret eval program) (interpret eval' program) :=
  (discreet_last keeps h active program (v := .null) trivial).confined

/-- A text is run in the frame of global names, whatever the frame of the session is. -/
theorem discreet_runNested (h : s.store.Secludes σ) (source : String) (base : Path) :
    Discreet σ s (Gives σ) (runNested eval source base) (runNested eval' source base) := by
  let inRoot : Session := { s with baseDirectory := base, frame := Store.root }
  have compiles : Discreet σ inRoot (fun _ _ => True) (modifyGet fun s => s.compile source)
      (modifyGet fun s => s.compile source) :=
    discreet_outside h (inRoot.store_compile source) (inRoot.grows_compile source).frame
  have same (t : Session) : t.store.Spares σ t.store := .refl σ t.store
  refine Discreet.elsewhere (u := { s with baseDirectory := base }) ?_ (inDirectory_eq _ s base)
    (inDirectory_eq _ s base) (same _) (fun _ => rfl) (fun _ => id) fun _ _ => id
  refine Discreet.elsewhere (u := inRoot) ?_ (inFrame_eq _ _ Store.root)
    (inFrame_eq _ _ Store.root) (same _) (fun _ => rfl) (fun _ _ => rfl) fun _ _ => id
  refine compiles.bind fun t r spares _ => ?_
  cases r with
  | error ds => exact .pure spares.secludes nofun
  | ok program =>
    exact (discreet_interpret keeps spares.secludes (spares.active h.root) program).contained

omit keeps in
theorem discreet_settle (h : s.store.Secludes σ) (x : Token)
    (describe : List Diagnostic → Fault) {r : Except (List Diagnostic) Value} (hr : Gives σ s r) :
    Discreet σ s (Opens σ) (settle x describe r) (settle x describe r) := by
  cases r with
  | ok v => exact .pure h (hr v rfl)
  | error ds =>
    refine .get ?_
    cases s.policy with
    | contain => exact .pure h trivial
    | propagate => exact .throw h _

theorem discreet_importFile (h : s.store.Secludes σ) (x : Token) :
    Discreet σ s (Opens σ) (importFile eval x) (importFile eval' x) := by
  have settled {run run' : Eval (Except (List Diagnostic) Value)}
      (describe : List Diagnostic → Fault) (nested : Discreet σ s (Gives σ) run run') :
      Discreet σ s (Opens σ) (run >>= settle x describe) (run' >>= settle x describe) :=
    nested.bind fun t r spares hr => discreet_settle spares.secludes x describe hr
  rw [importFile, importFile]
  split
  · exact .fail h x _
  refine .get ?_
  split
  · exact settled _ (discreet_runNested keeps h _ _)
  dsimp only
  split
  · exact .fail h x _
  split
  · exact .fail h x _
  rename_i place source _ _
  have inside (base : Path) : Discreet σ { s with importing := place :: s.importing } (Gives σ)
      (runNested eval source base) (runNested eval' source base) :=
    discreet_runNested (s := { s with importing := place :: s.importing }) keeps h source base
  exact settled _ ((inside _).elsewhere (whileImporting_eq _ s place)
    (whileImporting_eq _ s place) (.refl σ s.store) (fun _ => rfl) (fun _ => id) fun _ _ => id)

end

/-! ### Builtin functions -/

theorem discreet_textArg (h : s.store.Secludes σ) (x : Token) (b : Builtin) (v : Value) :
    Discreet σ s (fun _ _ => True) (textArg x b v) (textArg x b v) := by
  cases v with
  | text text => exact .pure h trivial
  | _ => exact .fail h x _

theorem discreet_arrayArg (h : s.store.Secludes σ) (x : Token) (b : Builtin) {v : Value}
    (hv : v.Open σ s.store) : Discreet σ s (AllOpen σ) (arrayArg x b v) (arrayArg x b v) := by
  cases v with
  | array a => exact .value rfl (.refl h) fun w hw => h.elements a w hw hv.2
  | _ => exact .fail h x _

theorem discreet_patternArg (h : s.store.Secludes σ) (x : Token) (b : Builtin) (v : Value) :
    Discreet σ s (fun _ _ => True) (patternArg x b v) (patternArg x b v) := by
  refine (discreet_textArg h x b v).bind fun t pattern spares _ => ?_
  split
  · exact .pure spares.secludes trivial
  · exact .fail spares.secludes x _

theorem discreet_arrayOfLength (h : s.store.Secludes σ) (x : Token) (v : Value) :
    Discreet σ s (Opens σ) (arrayOfLength x v) (arrayOfLength x v) := by
  have invalid : Discreet σ s (Opens σ)
      (do builtinFault x (.badCapacity (← readStore fun s => v.render s)))
      (do builtinFault x (.badCapacity (← readStore fun s => v.render s))) :=
    .look (.fail h x _)
  cases v with
  | number y =>
    simp only [arrayOfLength]
    split
    · refine .get (.ite (fun _ => discreet_newArray h fun v hv => ?_) fun _ => .fail h x _)
      rw [Array.eq_of_mem_replicate hv]
      trivial
    · exact invalid
  | _ => exact invalid

theorem discreet_read (h : s.store.Secludes σ) {γ : Type} (f : Input → γ × Input) :
    Discreet σ s (fun _ _ => True)
      (modifyGet (m := Eval) fun s => ((f s.input).1, { s with input := (f s.input).2 }))
      (modifyGet (m := Eval) fun s => ((f s.input).1, { s with input := (f s.input).2 })) :=
  discreet_outside h rfl rfl

theorem discreet_print (h : s.store.Secludes σ) (text : String) :
    Discreet σ s (fun _ _ => True) (print text) (print text) := discreet_outside h rfl rfl

theorem discreet_builtin {eval eval' : Expr → Eval Value} (keeps : KeepsApart σ eval eval')
    (h : s.store.Secludes σ) (x : Token) (b : Builtin) {vs : List Value}
    (hvs : ∀ v ∈ vs, v.Open σ s.store) :
    Discreet σ s (Opens σ) (builtin eval x b vs) (builtin eval' x b vs) := by
  unfold builtin
  split
  · exact .get (.pure h trivial)
  · exact .look ((discreet_print h _).bind fun t _ g _ => .pure g.secludes trivial)
  · exact .look ((discreet_print h _).bind fun t _ g _ => .pure g.secludes trivial)
  · refine .look ((discreet_print h _).bind fun t _ g _ => ?_)
    refine (discreet_read g.secludes Input.readLine).bind fun u line later _ => ?_
    cases line with
    | ok cs => exact .pure later.secludes trivial
    | error cause => exact .fail later.secludes x _
  · refine (discreet_read h Input.readByte).bind fun t byte g _ => ?_
    cases byte with
    | some b => exact .pure g.secludes trivial
    | none => exact .pure g.secludes trivial
  · unfold charOfCode
    split
    · exact .ite (fun _ => .pure h trivial) fun _ => .fail h x _
    · exact .fail h x _
  · unfold lengthOf
    split
    · exact .pure h trivial
    · exact .look (.pure h trivial)
    · exact .fail h x _
  · refine (discreet_textArg h x _ _).bind fun t source g _ => .get ?_
    refine (discreet_runNested keeps g.secludes _ _).bind fun u r later hr => ?_
    exact discreet_settle later.secludes x _ hr
  · exact discreet_arrayOfLength h x _
  · obtain ⟨ht, -, hv, -⟩ : _ ∧ _ ∧ _ ∧ True := by simpa using hvs
    refine (discreet_setElement h x ht _ hv).bind fun t _ g _ => ?_
    exact .pure g.secludes (g.store.open ht)
  · obtain ⟨hv, hw, -⟩ : _ ∧ _ ∧ True := by simpa using hvs
    refine (discreet_arrayArg h x _ hv).bind fun t vs g hvs => ?_
    refine (discreet_arrayArg g.secludes x _ (g.store.open hw)).bind fun u ws later hws => ?_
    refine discreet_newArray later.secludes fun v hv => ?_
    obtain hv | hv := Array.mem_append.1 hv
    · exact hvs.mono later v hv
    · exact hws v hv
  · refine (discreet_textArg h x _ _).bind fun t text g _ => ?_
    refine (discreet_patternArg g.secludes x _ _).bind fun u pattern later _ => ?_
    refine discreet_newArray later.secludes fun v hv => ?_
    obtain ⟨cs, -, rfl⟩ := List.mem_map.1 (List.mem_toArray.1 hv)
    trivial
  · exact (discreet_textArg h x _ _).bind fun t _ g _ =>
      (discreet_patternArg g.secludes x _ _).bind fun u _ g _ =>
        (discreet_textArg g.secludes x _ _).bind fun w _ g _ => .pure g.secludes trivial
  · exact (discreet_textArg h x _ _).bind fun t _ g _ => .pure g.secludes trivial
  · exact .pure h trivial
  · unfold numberOf
    split
    · exact .pure h trivial
    · refine .look ?_
      split
      · exact .pure h trivial
      · exact .fail h x _
  · exact .pure h trivial

/-! ### Operators -/

theorem discreet_binary (h : s.store.Secludes σ) (op : Token) (v w : Value) :
    Discreet σ s (Opens σ) (binary op v w) (binary op v w) := by
  unfold binary
  split
  · exact .value rfl (.refl h) trivial
  · exact .value rfl (.refl h) trivial
  · split
    · unfold arithmetic
      split
      case h_4 => exact .ite (fun _ => .fail h op _) fun _ => .pure h trivial
      case h_9 => exact .throw h _
      all_goals exact .pure h trivial
    · refine .ite (fun _ => ?_) fun _ => .fail h op _
      unfold join
      split
      · exact .value rfl (.refl h) trivial
      · exact .value rfl (.refl h) trivial
      · exact .fail h op _

theorem discreet_unary (h : s.store.Secludes σ) (op : Token) (v : Value) :
    Discreet σ s (Opens σ) (unary op v) (unary op v) := by
  unfold unary
  refine .ite (fun _ => ?_) fun _ => .pure h trivial
  split
  · exact .pure h trivial
  · exact .fail h op _

/-! ### Calls, matches and loops -/

section

variable {eval eval' : Expr → Eval Value} (keeps : KeepsApart σ eval eval')

include keeps

/-- A function is called, whatever the frame of the session is. -/
theorem discreet_invokeBy (h : s.store.Secludes σ) (x : Token) {v : Value}
    (hv : v.Open σ s.store) {vs : List Value} (hvs : ∀ w ∈ vs, w.Open σ s.store) :
    Discreet σ s (Opens σ) (invoke eval x v vs) (invoke eval' x v vs) := by
  cases v with
  | function f =>
    refine .ite (fun _ => .fail h x _) fun _ => ?_
    cases f with
    | builtin id b => exact discreet_builtin keeps h x b hvs
    | closure id name params body f =>
      refine discreet_inNewFrame h hv fun secludes active => ?_
      have spares := (h.branch (.call params body) hv).2
      refine (discreet_bindParameters secludes active params fun w hw =>
        spares.open (hvs w hw)).bind fun t _ g _ => ?_
      exact (keeps t body g.secludes (g.active active)).confined
  | _ => exact .fail h x _

theorem discreet_accepts (v : Value) (c : Expr) (h : s.store.Secludes σ)
    (active : s.store.OpenFrame σ s.frame) :
    Discreet σ s (fun _ _ => True) (accepts eval v c) (accepts eval' v c) := by
  induction c using Expr.induction_parts generalizing s with
  | step c ih =>
  cases c with
  | anyPattern wildcard => exact .pure h trivial
  | orPattern left pipe right =>
    refine (ih [] _ left List.mem_cons_self h active).bind fun t accepted g _ => ?_
    cases accepted with
    | true => exact .pure g.secludes trivial
    | false =>
      exact ih [] _ right (List.mem_cons_of_mem _ List.mem_cons_self) g.secludes (g.active active)
  | _ => exact (keeps s _ h active).bind fun t w g _ => .value rfl (.refl g.secludes) trivial

theorem discreet_choose (v : Value) (cs : List Case) (h : s.store.Secludes σ)
    (active : s.store.OpenFrame σ s.frame) :
    Discreet σ s (Opens σ) (choose eval v cs) (choose eval' v cs) := by
  induction cs generalizing s with
  | nil => exact .pure h trivial
  | cons c cs ih =>
    obtain ⟨arrow, condition, body⟩ := c
    refine (discreet_accepts keeps v condition h active).bind fun t accepted g _ => ?_
    cases accepted with
    | true => exact keeps t body g.secludes (g.active active)
    | false => exact ih g.secludes (g.active active)

theorem discreet_iterate {condition condition' : Eval Bool} (h : s.store.Secludes σ)
    (active : s.store.OpenFrame σ s.frame)
    (hc : ∀ t, s.Spares σ t → Discreet σ t (fun _ _ => True) condition condition') (e : Expr)
    (n : Nat) {v : Value} (hv : v.Open σ s.store) :
    Discreet σ s (Opens σ) (iterate eval condition e n v) (iterate eval' condition' e n v) := by
  induction n generalizing s v with
  | zero => exact .throw h .exhausted
  | succ n ih =>
    refine (hc s (.refl h)).untilBreak.bind fun t r g _ => ?_
    have stays : Discreet σ t (Opens σ) (Pure.pure v) (Pure.pure v) :=
      .pure g.secludes (g.store.open hv)
    cases r with
    | none => exact stays
    | some b =>
      cases b with
      | false => exact stays
      | true =>
        refine (keeps t e g.secludes (g.active active)).untilBreak.bind fun u r later hr => ?_
        have both := g.trans later
        cases r with
        | none => exact .pure later.secludes (both.store.open hv)
        | some w =>
          exact ih later.secludes (both.active active)
            (fun x further => hc x (both.trans further)) (hr w rfl)

omit keeps in
theorem discreet_nonEmptyArray (h : s.store.Secludes σ) (x : Token) {v : Value}
    (hv : v.Open σ s.store) :
    Discreet σ s (fun t a => t.store.OpenArray σ a) (nonEmptyArray x v) (nonEmptyArray x v) := by
  cases v with
  | array a =>
    refine .look ?_
    cases (s.store.elements a).isEmpty with
    | true => exact .fail h x _
    | false => exact .pure h hv
  | _ => exact .fail h x _

/-! ### One level of evaluation -/

/-- One level of evaluation: one case for each form of expression. -/
theorem discreet_step (h : s.store.Secludes σ) (active : s.store.OpenFrame σ s.frame)
    (rounds : Nat) (e : Expr) : Discreet σ s (Opens σ) (step eval rounds e) (step eval' rounds e) := by
  have value {t : Session} (e : Expr) (g : s.Spares σ t) := keeps t e g.secludes (g.active active)
  have first (e : Expr) := value e (.refl h)
  cases e with
  | literal v =>
    refine .pure h ?_
    cases v <;> trivial
  | «variable» id x => exact discreet_valueOf h active id x
  | array es close =>
    exact (discreet_all keeps h active es .empty).bind fun t vs g hvs =>
      discreet_newArray g.secludes hvs
  | assign id x e =>
    refine (first e).bind fun t v g hv => ?_
    refine (discreet_ownerOf g.secludes (g.active active) id x).bind fun u f _ hf => ?_
    obtain ⟨rfl, hf⟩ := hf
    refine (discreet_modifyStore (g.secludes.replace hf.2 x.lexeme hv)).bind fun w _ later _ => ?_
    exact .pure later.secludes (later.store.open hv)
  | assignElement id x i e =>
    refine (first i).bind fun t j g _ => ?_
    refine (value e g).bind fun u v later hv => ?_
    have both := g.trans later
    refine (discreet_valueOf later.secludes (both.active active) id x).bind fun w a g ha => ?_
    refine (discreet_setElement g.secludes x ha j (g.store.open hv)).bind fun z _ last _ => ?_
    exact .pure last.secludes ((g.trans last).store.open hv)
  | binary left op right =>
    refine (first left).bind fun t v g _ => ?_
    exact (value right g).bind fun u w later _ => discreet_binary later.secludes op v w
  | block es =>
    refine .get (discreet_inNewFrame h active fun secludes inside => ?_)
    exact discreet_last keeps secludes inside es trivial
  | «break» keyword => exact .throw h _
  | call callee args close =>
    refine (first callee).bind fun t v g hv => ?_
    refine (discreet_all keeps g.secludes (g.active active) args .empty).bind
      fun u vs later hvs => ?_
    exact discreet_invokeBy keeps later.secludes close (later.store.open hv) fun w hw =>
      hvs w (Array.mem_toList_iff.1 hw)
  | function name params body => exact discreet_closure h active name params body
  | group e => exact first e
  | «import» path => exact discreet_importFile keeps h path
  | index target i close =>
    refine (first target).bind fun t v g hv => ?_
    refine (discreet_nonEmptyArray g.secludes close hv).bind fun u a later ha => ?_
    refine (value i (g.trans later)).bind fun w j last _ => ?_
    refine .look (.ofExcept last.secludes close fun x hx => ?_)
    obtain old | rfl := Store.mem_of_element hx
    · exact last.secludes.elements a x old ha.2
    · trivial
  | slice target lower upper close =>
    refine (first target).bind fun t v g hv => ?_
    refine (discreet_nonEmptyArray g.secludes close hv).bind fun u a later ha => ?_
    have both := g.trans later
    refine (value lower both).bind fun w i further _ => ?_
    refine (value upper (both.trans further)).bind fun x j last _ => ?_
    have cut : Discreet σ x (AllOpen σ) (ofExcept close (x.store.slice a i j))
        (ofExcept close (x.store.slice a i j)) :=
      .ofExcept last.secludes close fun vs hvs v hv =>
        last.secludes.elements a v (Store.mem_of_slice hvs v hv) ha.2
    exact .look (cut.bind fun y vs ends hvs => discreet_newArray ends.secludes hvs)
  | logical left op right =>
    refine (first left).bind fun t v g hv => ?_
    exact .ite (fun _ => .pure g.secludes hv) fun _ => value right g
  | «match» keyword e cs =>
    exact (first e).bind fun t v g _ => discreet_choose keeps v cs g.secludes (g.active active)
  | orPattern | anyPattern => exact .throw h _
  | ternary c yes no op =>
    refine (first c).bind fun t v g _ => ?_
    exact .ite (fun _ => value yes g) fun _ => value no g
  | unary op e => exact (first e).bind fun t v g _ => discreet_unary g.secludes op v
  | declare x =>
    exact (discreet_define h active x.lexeme (v := .null) trivial).bind fun t _ g _ =>
      .pure g.secludes trivial
  | declareAs x e =>
    refine (first e).bind fun t v g hv => ?_
    refine (discreet_define g.secludes (g.active active) x.lexeme hv).bind fun u _ later _ => ?_
    exact .pure later.secludes (later.store.open hv)
  | loop keyword e =>
    exact discreet_iterate keeps h active (fun t g => .pure g.secludes trivial) e rounds trivial
  | loopWhile keyword c e =>
    exact discreet_iterate keeps h active (fun t g => (value c g).bind fun u v later _ =>
      .pure later.secludes trivial) e rounds trivial

end

/-! ### Evaluation of any depth -/

/-- An evaluation that is watched goes on as long as all that is met passes. -/
theorem keepsApart_watched {check : Session → Expr → Prop} (alarm : Exit)
    (passes : ∀ s e, s.store.Secludes σ → s.store.OpenFrame σ s.frame → check s e) (n : Nat) :
    KeepsApart σ (watched check alarm n) (evaluate n) := by
  induction n with
  | zero => exact fun s e h _ => .throw h .exhausted
  | succ n ih =>
    intro s e h active
    have same := watched_of_check (passes s e h active) alarm n
    have step := discreet_step ih h active n e
    exact ⟨same ▸ step.ends, same ▸ step.same⟩

theorem keepsApart_evaluate (σ : Secret) (n : Nat) : KeepsApart σ (evaluate n) (evaluate n) := by
  have keeps : KeepsApart σ (watched (fun _ _ => True) .exhausted n) (evaluate n) :=
    keepsApart_watched .exhausted (fun _ _ _ _ => trivial) n
  rwa [watched_true] at keeps

/-- Evaluations in open frames do not touch what is kept apart. -/
theorem discreet_evaluate (h : s.store.Secludes σ) (active : s.store.OpenFrame σ s.frame) (n : Nat)
    (e : Expr) : Spared σ s (Opens σ) (evaluate n e s) :=
  (keepsApart_evaluate σ n s e h active).ends

/-- Nor do calls of open functions with open arguments, wherever they are called. -/
theorem discreet_invoke (h : s.store.Secludes σ) (n : Nat) (x : Token) {v : Value}
    (hv : v.Open σ s.store) {vs : List Value} (hvs : ∀ w ∈ vs, w.Open σ s.store) :
    Spared σ s (Opens σ) (invoke (evaluate n) x v vs s) :=
  (discreet_invokeBy (keepsApart_evaluate σ n) h x hv hvs).ends

end Eval

namespace Session

variable {s t : Session}

/-- A program is evaluated as if it was not watched, if all that is met passes. -/
theorem interpretBy_of_keepsApart {eval eval' : Expr → Eval Value}
    (keeps : Eval.KeepsApart .none eval eval') (h : s.store.Secludes .none)
    (active : s.store.OpenFrame .none s.frame) (program : List Expr) :
    (s.interpretBy eval program).2.store.Secludes .none ∧
      s.interpretBy eval program = s.interpretBy eval' program := by
  obtain ⟨ends, same⟩ := Eval.discreet_interpret keeps h active program
  refine ⟨?_, by rw [interpretBy, interpretBy, same]⟩
  rw [Eval.interpretBy_snd]
  exact ends.spares.secludes

/-- Nothing dangles in sessions that can be reached: all frames and arrays that something leads to
are there. -/
theorem Reachable.secludes (h : s.Reachable) : s.store.Secludes .none := by
  induction h with
  | new files base policy input now =>
    refine ⟨⟨(sound_new files base policy input now).root.hasFrame, id⟩, fun f p _ around => ?_,
      fun f x v _ found => ?_, fun a v mem _ => ?_, nofun, nofun⟩
    · have none := (Store.parent?_empty f).symm.trans
        (Store.empty.sameTree_addBuiltins.parent f).symm
      cases none.trans around
    · obtain old | ⟨id, b, -, -, -, rfl⟩ := Store.lookup?_addBuiltins found
      · rw [Store.lookup?_empty] at old
        cases old
      · trivial
    · have none : (Session.new files base policy input now).store.elements a = #[] := by
        rw [Store.elements, Session.new, Store.arrays_addBuiltins]
        rfl
      simp [none] at mem
  | @compile s _ source ih =>
    rw [store_compile]
    exact ih
  | @interpret s h program accepted n ih =>
    have active : s.store.OpenFrame .none s.frame := h.tied.1.symm ▸ ih.root
    exact (interpretBy_of_keepsApart (Eval.keepsApart_evaluate .none n) ih active program).1
  | adjust _ _ _ _ _ _ _ _ ih => exact ih

/-- Nor does it where a program is being run. -/
theorem Reachable.secludes_of_visits (h : s.Reachable) {n : Nat} {program : List Expr} {e : Expr}
    (visits : s.Visits n program t e) :
    t.store.Secludes .none ∧ t.store.OpenFrame .none t.frame := by
  obtain ⟨alarm, differs⟩ := visits
  by_contra unfit
  have active : s.store.OpenFrame .none s.frame := h.tied.1.symm ▸ h.secludes.root
  refine differs (interpretBy_of_keepsApart (Eval.keepsApart_watched alarm ?_ n) h.secludes active
    program).2
  rintro u d secludes active ⟨rfl, rfl⟩
  exact unfit ⟨secludes, active⟩

end Session

end FoxScript
