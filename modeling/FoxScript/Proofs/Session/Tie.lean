import FoxScript.Proofs.Session.Growth

/-!
# Sessions that run side by side

Two sessions are tied if they differ in nothing that a program can observe. What they may differ in
is left to a `Tie`: how the names of frames correspond, which functions correspond, and when two
expressions are ready to be evaluated side by side. If the tie is lawful, such evaluations end alike
and leave the sessions tied.

## Main definitions

* `Value.Alike`: values that differ in the functions written in the language at most.
* `Tie`, `Tie.Tied`: what may differ between two sessions, and that nothing else does.
* `Tie.Form`: expressions that are ready have the same form, and their parts are ready.
* `Tie.Lawful`: what is asked of a tie.
* `Tie.Agree`: two steps of evaluation end alike.
-/
namespace FoxScript

/-- What a function that is written in the language consists of: the parameters, the body, and the
frame in which it was made. -/
structure Closure where
  /-- The parameters. -/
  params : List Token
  /-- The body. -/
  body : Expr
  /-- The frame in which the function was made. -/
  frame : FrameId

/-- Values that differ in the functions written in the language at most, of which `closure` says
when they correspond. Builtin functions have to satisfy `lends`. -/
inductive Value.Alike (closure : Closure → Closure → Prop) (lends : Builtin → Prop) :
    Value → Value → Prop
  /-- No value. -/
  | null : Alike closure lends .null .null
  /-- A truth value. -/
  | bool (b : Bool) : Alike closure lends (.bool b) (.bool b)
  /-- A number. -/
  | number (x : Float) : Alike closure lends (.number x) (.number x)
  /-- A text. -/
  | text (t : String) : Alike closure lends (.text t) (.text t)
  /-- An array. -/
  | array (a : ArrayId) : Alike closure lends (.array a) (.array a)
  /-- A builtin function. -/
  | builtin (id : FunctionId) {b : Builtin} (h : lends b) :
    Alike closure lends (.function (.builtin id b)) (.function (.builtin id b))
  /-- A function that is written in the language. -/
  | closure (id : FunctionId) (name : Option Token) {params params' : List Token}
    {body body' : Expr} {f f' : FrameId} (h : closure ⟨params, body, f⟩ ⟨params', body', f'⟩) :
    Alike closure lends (.function (.closure id name params body f))
      (.function (.closure id name params' body' f'))

/-- What may differ between two sessions that run side by side. -/
structure Tie where
  /-- How the frames, the programs and what is known about uses correspond. -/
  scoping : Session → Session → Prop
  /-- Which functions correspond. -/
  closure : Session → Session → Closure → Closure → Prop
  /-- The builtin functions that can be met. -/
  lends : Builtin → Prop
  /-- Which names, when they are bound now, correspond. -/
  binds : Session → Session → Token → Token → Prop
  /-- Which uses of names, when they are evaluated now, correspond. -/
  uses : Session → Session → NodeId → Token → NodeId → Token → Prop
  /-- Which expressions, when they are evaluated now, correspond. -/
  ready : Session → Session → Expr → Expr → Prop
  /-- Which failures correspond. -/
  diag : Diagnostic → Diagnostic → Prop

/-- The frame that a use of a name means. -/
def Session.owner (s : Session) (id : NodeId) (name : Token) : Except Fault FrameId :=
  match s.hops[id]? with
  | some hops => s.store.findAt s.frame hops name.lexeme
  | none => s.store.find Store.root name.lexeme

namespace Tie

variable (T : Tie) (s s' : Session)

/-- Values of two sessions that correspond. -/
def Alike : Value → Value → Prop := Value.Alike (T.closure s s') T.lends

/-- Two sessions that differ in what the tie allows only. -/
structure Tied : Prop where
  /-- There are as many arrays. -/
  arrays : s'.store.arrays.size = s.store.arrays.size
  /-- The elements of arrays correspond. -/
  elements : ∀ a, List.Forall₂ (T.Alike s s') (s.store.elements a).toList
    (s'.store.elements a).toList
  /-- As many functions were made. -/
  functions : s'.store.functions = s.store.functions
  /-- As many uses were numbered. -/
  fresh : s'.fresh = s.fresh
  /-- Imports are seen from the same directory. -/
  baseDirectory : s'.baseDirectory = s.baseDirectory
  /-- The same files are being imported. -/
  importing : s'.importing = s.importing
  /-- The policies are the same. -/
  policy : s'.policy = s.policy
  /-- The same was printed. -/
  output : s'.output = s.output
  /-- The same can be read. -/
  input : s'.input = s.input
  /-- The files are the same. -/
  files : s'.files = s.files
  /-- The time is the same. -/
  now : s'.now = s.now
  /-- There is as much memory. -/
  memory : s'.memory = s.memory
  /-- Names correspond. -/
  scoping : T.scoping s s'

/-! ### Expressions of the same form -/

/-- Cases whose conditions and bodies are ready. -/
inductive CaseReady : Case → Case → Prop
  /-- A case. -/
  | mk (arrow : Token) {c c' e e' : Expr} (condition : T.ready s s' c c')
    (body : T.ready s s' e e') : CaseReady (.mk arrow c e) (.mk arrow c' e')

/-- What two functions need in order to be called side by side. -/
structure Enters (c c' : Closure) : Prop where
  /-- The frames of the calls correspond. -/
  scoping : T.scoping (s.enter (.call c.params c.body) c.frame)
    (s'.enter (.call c'.params c'.body) c'.frame)
  /-- The parameters can be bound. -/
  params : List.Forall₂ (T.binds (s.enter (.call c.params c.body) c.frame)
    (s'.enter (.call c'.params c'.body) c'.frame)) c.params c'.params
  /-- The bodies are ready. -/
  body : T.ready (s.enter (.call c.params c.body) c.frame)
    (s'.enter (.call c'.params c'.body) c'.frame) c.body c'.body

/-- Expressions of the same form whose parts are ready. -/
inductive Form : Expr → Expr → Prop
  /-- A constant. -/
  | literal (value : Literal) : Form (.literal value) (.literal value)
  /-- A use of a name. -/
  | variable {id id' : NodeId} {x x' : Token} (use : T.uses s s' id x id' x') :
    Form (.variable id x) (.variable id' x')
  /-- An array. -/
  | array {es es' : List Expr} (close : Token) (elements : List.Forall₂ (T.ready s s') es es') :
    Form (.array es close) (.array es' close)
  /-- A new value for a name. -/
  | assign {id id' : NodeId} {x x' : Token} {e e' : Expr} (value : T.ready s s' e e')
    (use : T.uses s s' id x id' x') : Form (.assign id x e) (.assign id' x' e')
  /-- A new value for an element of an array. -/
  | assignElement {id id' : NodeId} {x x' : Token} {i i' e e' : Expr}
    (index : T.ready s s' i i') (value : T.ready s s' e e') (use : T.uses s s' id x id' x') :
    Form (.assignElement id x i e) (.assignElement id' x' i' e')
  /-- An operation on two values. -/
  | binary {d d' e e' : Expr} (left : T.ready s s' d d') (op : Token)
    (right : T.ready s s' e e') : Form (.binary d op e) (.binary d' op e')
  /-- Expressions in a scope of their own. -/
  | block {es es' : List Expr}
    (scoping : T.scoping (s.enter (.block es) s.frame) (s'.enter (.block es') s'.frame))
    (members : List.Forall₂ (T.ready (s.enter (.block es) s.frame)
      (s'.enter (.block es') s'.frame)) es es') : Form (.block es) (.block es')
  /-- The end of a loop. -/
  | break (keyword : Token) : Form (.break keyword) (.break keyword)
  /-- A call. -/
  | call {e e' : Expr} {es es' : List Expr} (callee : T.ready s s' e e')
    (args : List.Forall₂ (T.ready s s') es es') (close : Token) :
    Form (.call e es close) (.call e' es' close)
  /-- A function. -/
  | function {name : Option Token} {params params' : List Token} {e e' : Expr}
    (binds : ∀ x ∈ name, T.binds s s' x x)
    (closure : T.closure s s' ⟨params, e, s.frame⟩ ⟨params', e', s'.frame⟩) :
    Form (.function name params e) (.function name params' e')
  /-- An expression in parentheses. -/
  | group {e e' : Expr} (inner : T.ready s s' e e') : Form (.group e) (.group e')
  /-- A file to be run. -/
  | import (path : Token) (lends : T.lends .eval) : Form (.import path) (.import path)
  /-- An element of an array. -/
  | index {e e' i i' : Expr} (target : T.ready s s' e e') (index : T.ready s s' i i')
    (close : Token) : Form (.index e i close) (.index e' i' close)
  /-- A part of an array. -/
  | slice {e e' i i' j j' : Expr} (target : T.ready s s' e e') (lower : T.ready s s' i i')
    (upper : T.ready s s' j j') (close : Token) : Form (.slice e i j close) (.slice e' i' j' close)
  /-- The first value if it decides. -/
  | logical {d d' e e' : Expr} (left : T.ready s s' d d') (op : Token)
    (right : T.ready s s' e e') : Form (.logical d op e) (.logical d' op e')
  /-- The first of several cases. -/
  | match (keyword : Token) {e e' : Expr} {cs cs' : List Case}
    (scrutinee : T.ready s s' e e') (cases : List.Forall₂ (T.CaseReady s s') cs cs') :
    Form (.match keyword e cs) (.match keyword e' cs')
  /-- One of two conditions. -/
  | orPattern {d d' e e' : Expr} (left : T.ready s s' d d') (pipe : Token)
    (right : T.ready s s' e e') : Form (.orPattern d pipe e) (.orPattern d' pipe e')
  /-- The condition that always holds. -/
  | anyPattern (wildcard : Token) : Form (.anyPattern wildcard) (.anyPattern wildcard)
  /-- One of two values. -/
  | ternary {c c' d d' e e' : Expr} (condition : T.ready s s' c c') (yes : T.ready s s' d d')
    (no : T.ready s s' e e') (op : Token) : Form (.ternary c d e op) (.ternary c' d' e' op)
  /-- An operation on one value. -/
  | unary (op : Token) {e e' : Expr} (operand : T.ready s s' e e') :
    Form (.unary op e) (.unary op e')
  /-- A new name. -/
  | declare {x x' : Token} (binds : T.binds s s' x x') : Form (.declare x) (.declare x')
  /-- A new name with a value. -/
  | declareAs {x x' : Token} {e e' : Expr} (binds : T.binds s s' x x')
    (value : T.ready s s' e e') : Form (.declareAs x e) (.declareAs x' e')
  /-- A loop. -/
  | loop (keyword : Token) {e e' : Expr} (body : T.ready s s' e e') :
    Form (.loop keyword e) (.loop keyword e')
  /-- A loop with a condition. -/
  | loopWhile (keyword : Token) {c c' e e' : Expr} (condition : T.ready s s' c c')
    (body : T.ready s s' e e') : Form (.loopWhile keyword c e) (.loopWhile keyword c' e')

/-- What uses of names meet: frames where the values correspond and can be replaced, or none. -/
inductive Meets (x x' : Token) : Except Fault FrameId → Except Fault FrameId → Prop
  /-- Both names are bound. -/
  | ok {f f' : FrameId}
    (value : T.Alike s s' (s.store.valueIn x.lexeme f) (s'.store.valueIn x'.lexeme f'))
    (replace : ∀ v v', T.Alike s s' v v' →
      T.scoping (s.replace f x.lexeme v) (s'.replace f' x'.lexeme v')) :
    Meets x x' (.ok f) (.ok f')
  /-- Neither name is bound. -/
  | error (diag : T.diag (.runtime x.location (.undefinedVariable x.lexeme))
      (.runtime x'.location (.undefinedVariable x'.lexeme))) :
    Meets x x' (.error (.undefinedVariable x.lexeme)) (.error (.undefinedVariable x'.lexeme))

variable {T s s'} in
/-- Uses that look in frames where what is held corresponds meet frames that correspond. -/
theorem Meets.of_rel {x x' : Token} {f f' : FrameId}
    (held : Option.Rel (T.Alike s s') (s.store.lookup? f x.lexeme)
      (s'.store.lookup? f' x'.lexeme))
    (replace : ∀ v v', T.Alike s s' v v' →
      T.scoping (s.replace f x.lexeme v) (s'.replace f' x'.lexeme v'))
    (diag : T.diag (.runtime x.location (.undefinedVariable x.lexeme))
      (.runtime x'.location (.undefinedVariable x'.lexeme))) :
    T.Meets s s' x x'
      (if (s.store.lookup? f x.lexeme).isSome then .ok f
        else .error (.undefinedVariable x.lexeme))
      (if (s'.store.lookup? f' x'.lexeme).isSome then .ok f'
        else .error (.undefinedVariable x'.lexeme)) := by
  have value : s.store.valueIn x.lexeme f = (s.store.lookup? f x.lexeme).getD .null := rfl
  have value' : s'.store.valueIn x'.lexeme f' = (s'.store.lookup? f' x'.lexeme).getD .null := rfl
  revert held value value'
  generalize s.store.lookup? f x.lexeme = a, s'.store.lookup? f' x'.lexeme = b
  intro held value value'
  cases held with
  | none => exact .error diag
  | some h =>
    refine .ok ?_ replace
    rw [value, value']
    exact h

end Tie

/-! ### Lawful ties -/

open Tie in
/-- What is asked of a tie. -/
structure Tie.Lawful (T : Tie) : Prop where
  /-- Functions that correspond do so in all later sessions. -/
  closure_mono {s s' t t' : Session} {c c' : Closure} : T.closure s s' c c' → s.Extends t →
    s'.Extends t' → T.closure t t' c c'
  /-- Names that correspond do so while an evaluation goes on. -/
  binds_mono {s s' t t' : Session} {x x' : Token} : T.binds s s' x x' → s.Grows t →
    s'.Grows t' → T.binds t t' x x'
  /-- Uses that correspond do so while an evaluation goes on. -/
  uses_mono {s s' t t' : Session} {id id' : NodeId} {x x' : Token} : T.uses s s' id x id' x' →
    s.Grows t → s'.Grows t' → T.uses t t' id x id' x'
  /-- Expressions that are ready are so while an evaluation goes on. -/
  ready_mono {s s' t t' : Session} {e e' : Expr} : T.ready s s' e e' → s.Grows t →
    s'.Grows t' → T.ready t t' e e'
  /-- Whether names correspond is a matter of the scopes only. -/
  scoping_congr {s s' t t' : Session} : T.scoping s s' → s.SameScopes t → s'.SameScopes t' →
    T.scoping t t'
  /-- Names that correspond can be bound. -/
  define {s s' : Session} {x x' : Token} {v v' : Value} : T.scoping s s' → T.binds s s' x x' →
    T.Alike s s' v v' → T.scoping (s.define x.lexeme v) (s'.define x'.lexeme v')
  /-- Uses that correspond meet frames that correspond. -/
  meets {s s' : Session} {id id' : NodeId} {x x' : Token} : T.scoping s s' →
    T.uses s s' id x id' x' → T.Meets s s' x x' (s.owner id x) (s'.owner id' x')
  /-- Expressions that are ready have the same form. -/
  form {s s' : Session} {e e' : Expr} : T.scoping s s' → T.ready s s' e e' → T.Form s s' e e'
  /-- Functions that correspond can be called. -/
  enters {s s' : Session} {c c' : Closure} : T.scoping s s' → T.closure s s' c c' →
    T.Enters s s' c c'
  /-- Texts can be run. -/
  compile {s s' t t' : Session} {source : String} {program : List Expr} : T.lends .eval →
    T.Tied s s' → s.frame = Store.root → s'.frame = Store.root →
    s.compile source = (.ok program, t) → s'.compile source = (.ok program, t') →
    T.scoping t t' ∧ ∀ e ∈ program, T.ready t t' e e
  /-- Equal failures correspond. -/
  diag_refl (d : Diagnostic) : T.diag d d
  /-- Failures at uses that correspond do so. -/
  diag_use {s s' : Session} {id id' : NodeId} {x x' : Token} (f : Fault) :
    T.uses s s' id x id' x' → T.diag (.runtime x.location f) (.runtime x'.location f)
  /-- Failures of an import correspond if those inside do. -/
  diag_import {ds ds' : List Diagnostic} (l : Location) (path : String) :
    List.Forall₂ T.diag ds ds' →
    T.diag (.runtime l (.failedImport path (.nested ds)))
      (.runtime l (.failedImport path (.nested ds')))
  /-- Failures of an evaluated text correspond if those inside do. -/
  diag_eval {ds ds' : List Diagnostic} (l : Location) : List.Forall₂ T.diag ds ds' →
    T.diag (.runtime l (.failedEval ds)) (.runtime l (.failedEval ds'))

/-! ### Steps that agree -/

namespace Tie

/-- Exits that correspond. -/
inductive Exits (T : Tie) : Exit → Exit → Prop
  /-- A `break`. -/
  | broke (keyword : Token) : Exits T (.broke keyword) (.broke keyword)
  /-- A failure. -/
  | failed {d d' : Diagnostic} (h : T.diag d d') : Exits T (.failed d) (.failed d')
  /-- An element that cannot be replaced. -/
  | crashed : Exits T .crashed .crashed
  /-- A budget that is used up. -/
  | exhausted : Exits T .exhausted .exhausted

/-- Ends of two evaluations that correspond, with values of which `post` holds. -/
inductive Ends (T : Tie) {α α' : Type} (s s' : Session)
    (post : Session → Session → α → α' → Prop) :
    EStateM.Result Exit Session α → EStateM.Result Exit Session α' → Prop
  /-- Both end with a value. -/
  | ok {t t' : Session} {a : α} {a' : α'} (tied : T.Tied t t') (left : s.Grows t)
    (right : s'.Grows t') (h : post t t' a a') : Ends T s s' post (.ok a t) (.ok a' t')
  /-- Both end without one. -/
  | error {t t' : Session} {e e' : Exit} (tied : T.Tied t t') (left : s.Grows t)
    (right : s'.Grows t') (h : T.Exits e e') : Ends T s s' post (.error e t) (.error e' t')

/-- Two steps of evaluation end alike. -/
def Agree (T : Tie) {α α' : Type} (s s' : Session) (post : Session → Session → α → α' → Prop)
    (act : Eval α) (act' : Eval α') : Prop :=
  T.Ends s s' post (act s) (act' s')

/-- That two steps give the same. -/
def Same {α : Type} (_ _ : Session) (a a' : α) : Prop := a = a'

variable {T : Tie} {s s' t t' : Session} {α α' β β' : Type}
  {post : Session → Session → α → α' → Prop} {post' : Session → Session → β → β' → Prop}

theorem Ends.weaken {post'' : Session → Session → α → α' → Prop}
    {r : EStateM.Result Exit Session α} {r' : EStateM.Result Exit Session α'}
    (h : T.Ends s s' post r r') (left : t.Grows s) (right : t'.Grows s')
    (imp : ∀ u u' a a', s.Grows u → s'.Grows u' → post u u' a a' → post'' u u' a a') :
    T.Ends t t' post'' r r' := by
  cases h with
  | ok tied hl hr h => exact .ok tied (left.trans hl) (right.trans hr) (imp _ _ _ _ hl hr h)
  | error tied hl hr h => exact .error tied (left.trans hl) (right.trans hr) h

namespace Agree

theorem pure (tied : T.Tied s s') {a : α} {a' : α'} (h : post s s' a a') :
    T.Agree s s' post (pure a) (pure a') :=
  .ok tied (.refl s) (.refl s') h

theorem throw (tied : T.Tied s s') {e e' : Exit} (h : T.Exits e e') :
    T.Agree s s' post (throw e) (throw e') :=
  .error tied (.refl s) (.refl s') h

theorem bind {act : Eval α} {act' : Eval α'} {next : α → Eval β} {next' : α' → Eval β'}
    (h : T.Agree s s' post act act')
    (hn : ∀ t t' a a', T.Tied t t' → s.Grows t → s'.Grows t' → post t t' a a' →
      T.Agree t t' post' (next a) (next' a')) :
    T.Agree s s' post' (act >>= next) (act' >>= next') := by
  simp only [Agree, Bind.bind, EStateM.bind] at h ⊢
  revert h
  generalize act s = r, act' s' = r'
  intro h
  cases h with
  | ok tied left right ha =>
    exact (hn _ _ _ _ tied left right ha).weaken left right fun _ _ _ _ _ _ h => h
  | error tied left right he => exact .error tied left right he

/-- The two steps with which a longer step begins give the same. -/
theorem bind_same {act act' : Eval α} {next : α → Eval β} {next' : α → Eval β'}
    (h : T.Agree s s' Same act act')
    (hn : ∀ t t' a, T.Tied t t' → s.Grows t → s'.Grows t' →
      T.Agree t t' post' (next a) (next' a)) :
    T.Agree s s' post' (act >>= next) (act' >>= next') :=
  h.bind fun t t' a _ tied left right same => same ▸ hn t t' a tied left right

/-- Reading the session before another step. -/
theorem get {next next' : Session → Eval β} {post : Session → Session → β → β → Prop}
    (h : T.Agree s s' post (next s) (next' s')) :
    T.Agree s s' post (MonadState.get >>= next) (MonadState.get >>= next') := h

theorem readStore (tied : T.Tied s s') {f : Store → α} {f' : Store → α'}
    (h : post s s' (f s.store) (f' s'.store)) :
    T.Agree s s' post (Eval.readStore f) (Eval.readStore f') :=
  .ok tied (.refl s) (.refl s') h

theorem fail (tied : T.Tied s s') {x x' : Token} {f f' : Fault}
    (h : T.diag (.runtime x.location f) (.runtime x'.location f')) :
    T.Agree s s' post (Eval.fail x f) (Eval.fail x' f') :=
  .throw tied (.failed h)

theorem ite {c c' : Prop} [Decidable c] [Decidable c'] {a b : Eval α} {a' b' : Eval α'}
    (same : c ↔ c') (pos : c → T.Agree s s' post a a') (neg : ¬c → T.Agree s s' post b b') :
    T.Agree s s' post (if c then a else b) (if c' then a' else b') := by
  by_cases h : c
  · rw [if_pos h, if_pos (same.1 h)]
    exact pos h
  · rw [if_neg h, if_neg fun h' => h (same.2 h')]
    exact neg h

/-- A change of both sessions that keeps them tied. -/
theorem change {f f' : Session → Session} (tied : T.Tied (f s) (f' s')) (left : s.Grows (f s))
    (right : s'.Grows (f' s')) {post : Session → Session → Unit → Unit → Prop}
    (h : post (f s) (f' s') () ()) :
    T.Agree s s' post (modify f) (modify f') :=
  .ok tied left right h

end Agree

/-! ### What tied sessions keep -/

namespace Lawful

variable (law : T.Lawful)

include law

theorem alike_mono {v v' : Value} (h : T.Alike s s' v v') (left : s.Extends t)
    (right : s'.Extends t') : T.Alike t t' v v' := by
  cases h with
  | null => exact .null
  | bool b => exact .bool b
  | number x => exact .number x
  | text x => exact .text x
  | array a => exact .array a
  | builtin id h => exact .builtin id h
  | closure id name h => exact .closure id name (law.closure_mono h left right)

theorem allAlike_mono {vs vs' : List Value} (h : List.Forall₂ (T.Alike s s') vs vs')
    (left : s.Extends t) (right : s'.Extends t') : List.Forall₂ (T.Alike t t') vs vs' :=
  h.imp fun _ _ h => law.alike_mono h left right

theorem allReady_mono {es es' : List Expr} (h : List.Forall₂ (T.ready s s') es es')
    (left : s.Grows t) (right : s'.Grows t') : List.Forall₂ (T.ready t t') es es' :=
  h.imp fun _ _ h => law.ready_mono h left right

end Lawful

end Tie

end FoxScript
