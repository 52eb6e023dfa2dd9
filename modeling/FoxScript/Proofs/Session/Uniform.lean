import FoxScript.Session.Evaluation

/-!
# Steps around an evaluation

A form of expression says how its evaluation is put together from the evaluations of other
expressions. Here this is said once for all forms but the import, of two evaluations at a time: if
what is inside is evaluated in two ways, the two steps around it are put together alike. What holds
of an expression because it holds of those inside can then be shown by going through the few kinds
of steps instead of the forms.

## Main definitions

* `Eval.Change`: the changes of the store that steps make.
* `Eval.Uniform`: two steps that are put together alike around two evaluations.

## Main statements

* `Eval.Uniform.step`: one step of evaluation is uniform, for each form but the import.
-/
namespace FoxScript

/-- Whether an evaluation ends with a fault of a text that was not evaluated. -/
def Exit.isStatic : Exit → Bool
  | .failed d => d.isStatic
  | _ => false

namespace Eval

/-- The changes of the store that steps make, given the frame of the session. -/
inductive Change : {α : Type} → (FrameId → Store → α × Store) → Prop
  /-- A frame is added. -/
  | branch (origin : Origin) (parent : FrameId) : Change fun _ store => store.branch origin parent
  /-- A name is bound. -/
  | define (name : String) (v : Value) : Change fun f store => ((), store.define f name v)
  /-- A name gets a new value. -/
  | replace (f : FrameId) (name : String) (v : Value) :
    Change fun _ store => ((), store.replace f name v)
  /-- An array is added. -/
  | newArray (vs : Array Value) : Change fun _ store => store.newArray vs
  /-- An element of an array is replaced. -/
  | setAt (a : ArrayId) (i : Nat) (v : Value) : Change fun _ store => ((), store.setAt a i v)
  /-- A function is numbered. -/
  | newFunction : Change fun _ store => store.newFunction

/-- Two steps that are put together alike from a few kinds of steps, the one around the evaluation
`eval` of other expressions, the other around `eval'`. -/
inductive Uniform (eval eval' : Expr → Eval Value) : {α : Type} → Eval α → Eval α → Prop
  /-- An expression is evaluated. -/
  | eval (e : Expr) : Uniform eval eval' (eval e) (eval' e)
  /-- A value. -/
  | pure {α : Type} (a : α) : Uniform eval eval' (pure a) (pure a)
  /-- An exit, though not with a fault of a text. -/
  | throw {α : Type} {e : Exit} (h : e.isStatic = false) :
    Uniform eval eval' (throw e : Eval α) (throw e)
  /-- A step after another. -/
  | bind {α β : Type} {act act' : Eval α} {next next' : α → Eval β}
    (h : Uniform eval eval' act act') (hn : ∀ a, Uniform eval eval' (next a) (next' a)) :
    Uniform eval eval' (act >>= next) (act' >>= next')
  /-- A step that depends on the session, though not on its policy. -/
  | look {α : Type} {next next' : Session → Eval α}
    (h : ∀ s, Uniform eval eval' (next s) (next' s))
    (blind : ∀ s policy, next { s with policy := policy } = next s) :
    Uniform eval eval' (get >>= next) (get >>= next')
  /-- A change of the store. -/
  | change {α : Type} {f : FrameId → Store → α × Store} (h : Change f) :
    Uniform eval eval'
      (modifyGet fun s => ((f s.frame s.store).1, { s with store := (f s.frame s.store).2 }))
      (modifyGet fun s => ((f s.frame s.store).1, { s with store := (f s.frame s.store).2 }))
  /-- A print. -/
  | print (text : String) : Uniform eval eval' (print text) (print text)
  /-- A read of a line. -/
  | readLine : Uniform eval eval'
    (modifyGet fun s => (s.input.readLine.1, { s with input := s.input.readLine.2 }))
    (modifyGet fun s => (s.input.readLine.1, { s with input := s.input.readLine.2 }))
  /-- A read of a byte. -/
  | readByte : Uniform eval eval'
    (modifyGet fun s => (s.input.readByte.1, { s with input := s.input.readByte.2 }))
    (modifyGet fun s => (s.input.readByte.1, { s with input := s.input.readByte.2 }))
  /-- A step in another frame. -/
  | inFrame {α : Type} {act act' : Eval α} (f : FrameId) (h : Uniform eval eval' act act') :
    Uniform eval eval' (inFrame f act) (inFrame f act')
  /-- A step that a `break` may end. -/
  | untilBreak {α : Type} {act act' : Eval α} (h : Uniform eval eval' act act') :
    Uniform eval eval' (untilBreak act) (untilBreak act')
  /-- A step that no `break` may leave. -/
  | confined {α : Type} {act act' : Eval α} (h : Uniform eval eval' act act') :
    Uniform eval eval' (confined act) (confined act')
  /-- A text that is run, and what becomes of its failures. -/
  | text (t : Token) (describe : List Diagnostic → Fault) (source : String) (base : Path) :
    Uniform eval eval' (runNested eval source base >>= settle t describe)
      (runNested eval' source base >>= settle t describe)

namespace Uniform

variable {eval eval' : Expr → Eval Value} {α : Type} {act act' : Eval α}

theorem ite {c : Prop} [Decidable c] {other other' : Eval α} (h : Uniform eval eval' act act')
    (h' : Uniform eval eval' other other') :
    Uniform eval eval' (if c then act else other) (if c then act' else other') := by
  split
  · exact h
  · exact h'

theorem fail (t : Token) (f : Fault) :
    Uniform eval eval' (fail t f : Eval α) (Eval.fail t f) := .throw rfl

theorem ofExcept (t : Token) (r : Except Fault α) :
    Uniform eval eval' (ofExcept t r) (Eval.ofExcept t r) := by
  cases r with
  | ok a => exact .pure a
  | error f => exact .fail t f

theorem ofElement (t : Token) (r : Except ElementFailure α) :
    Uniform eval eval' (ofElement t r) (Eval.ofElement t r) := by
  cases r with
  | ok a => exact .pure a
  | error f =>
    cases f with
    | fault f => exact .fail t f
    | aliased => exact .throw rfl

/-! ### The store and the console -/

theorem readStore (f : Store → α) : Uniform eval eval' (readStore f) (Eval.readStore f) :=
  .look (fun _ => .pure _) fun _ _ => rfl

theorem newArray (vs : Array Value) :
    Uniform eval eval' (newArray vs) (Eval.newArray vs) :=
  (change (.newArray vs)).bind fun _ => .pure _

theorem define (name : String) (v : Value) :
    Uniform eval eval' (define name v) (Eval.define name v) :=
  change (.define name v)

theorem setElement (t : Token) (target index v : Value) :
    Uniform eval eval' (setElement t target index v) (Eval.setElement t target index v) :=
  (readStore _).bind fun _ => (ofElement t _).bind fun (a, i) => change (.setAt a i v)

theorem inNewFrame {act act' : Eval Value} (h : Uniform eval eval' act act') (origin : Origin)
    (parent : FrameId) :
    Uniform eval eval' (inNewFrame origin parent act) (Eval.inNewFrame origin parent act') :=
  (change (.branch origin parent)).bind fun f => h.inFrame f

/-! ### Names and operators -/

theorem ownerOf (id : NodeId) (name : Token) :
    Uniform eval eval' (ownerOf id name) (Eval.ownerOf id name) :=
  .look (fun _ => ofExcept name _) fun _ _ => rfl

theorem valueOf (id : NodeId) (name : Token) :
    Uniform eval eval' (valueOf id name) (Eval.valueOf id name) :=
  (ownerOf id name).bind fun _ => readStore _

theorem closure (name : Option Token) (params : List Token) (body : Expr) :
    Uniform eval eval' (closure name params body) (Eval.closure name params body) := by
  refine (change .newFunction).bind fun _ => .look (fun _ => ?_) fun _ _ => rfl
  cases name with
  | none => exact .pure _
  | some name => exact (define _ _).bind fun _ => .pure _

theorem arithmetic (op : Token) (x y : Float) :
    Uniform eval eval' (arithmetic op x y) (Eval.arithmetic op x y) := by
  unfold Eval.arithmetic
  split
  case h_4 => exact .ite (.fail op _) (.pure _)
  case h_9 => exact .throw rfl
  all_goals exact .pure _

theorem join (op : Token) (v w : Value) :
    Uniform eval eval' (join op v w) (Eval.join op v w) := by
  unfold Eval.join
  split
  · exact readStore _
  · exact readStore _
  · exact .fail op _

theorem binary (op : Token) (v w : Value) :
    Uniform eval eval' (binary op v w) (Eval.binary op v w) := by
  unfold Eval.binary
  split
  · exact readStore _
  · exact readStore _
  · split
    · exact arithmetic op _ _
    · exact .ite (join op v w) (.fail op _)

theorem unary (op : Token) (v : Value) :
    Uniform eval eval' (unary op v) (Eval.unary op v) := by
  unfold Eval.unary
  refine .ite ?_ (.pure _)
  split
  · exact .pure _
  · exact .fail op _

/-! ### Builtin functions -/

theorem textArg (t : Token) (b : Builtin) (v : Value) :
    Uniform eval eval' (textArg t b v) (Eval.textArg t b v) := by
  unfold Eval.textArg
  split
  · exact .pure _
  · exact .fail t _

theorem arrayArg (t : Token) (b : Builtin) (v : Value) :
    Uniform eval eval' (arrayArg t b v) (Eval.arrayArg t b v) := by
  unfold Eval.arrayArg
  split
  · exact readStore _
  · exact .fail t _

theorem patternArg (t : Token) (b : Builtin) (v : Value) :
    Uniform eval eval' (patternArg t b v) (Eval.patternArg t b v) := by
  refine (textArg t b v).bind fun _ => ?_
  split
  · exact .pure _
  · exact .fail t _

theorem inputLine (t : Token) : Uniform eval eval' (Eval.readLine t) (Eval.readLine t) := by
  refine readLine.bind fun _ => ?_
  split
  · exact .pure _
  · exact .fail t _

theorem inputByte : Uniform eval eval' Eval.readByte Eval.readByte := by
  refine readByte.bind fun _ => ?_
  split <;> exact .pure _

theorem charOfCode (t : Token) (v : Value) :
    Uniform eval eval' (charOfCode t v) (Eval.charOfCode t v) := by
  unfold Eval.charOfCode
  split
  · exact .ite (.pure _) (.fail t _)
  · exact .fail t _

theorem lengthOf (t : Token) (v : Value) :
    Uniform eval eval' (lengthOf t v) (Eval.lengthOf t v) := by
  unfold Eval.lengthOf
  split
  · exact .pure _
  · exact (readStore _).bind fun _ => .pure _
  · exact .fail t _

theorem arrayOfLength (t : Token) (v : Value) :
    Uniform eval eval' (arrayOfLength t v) (Eval.arrayOfLength t v) := by
  have invalid (f : Store → String) : Uniform eval eval'
      (do builtinFault t (.badCapacity (← Eval.readStore f)) : Eval Value)
      (do builtinFault t (.badCapacity (← Eval.readStore f))) :=
    (readStore f).bind fun _ => .fail t _
  unfold Eval.arrayOfLength
  split
  · split
    · exact .look (fun _ => .ite (newArray _) (.fail t _)) fun _ _ => rfl
    · exact invalid _
  · exact invalid _

theorem numberOf (t : Token) (v : Value) :
    Uniform eval eval' (numberOf t v) (Eval.numberOf t v) := by
  unfold Eval.numberOf
  split
  · exact .pure _
  · refine (readStore _).bind fun _ => ?_
    split
    · exact .pure _
    · exact .fail t _

theorem builtin (t : Token) (b : Builtin) (args : List Value) :
    Uniform eval eval' (builtin eval t b args) (Eval.builtin eval' t b args) := by
  unfold Eval.builtin
  split
  · exact .look (fun _ => .pure _) fun _ _ => rfl
  · exact (readStore _).bind fun _ => (print _).bind fun _ => .pure _
  · exact (readStore _).bind fun _ => (print _).bind fun _ => .pure _
  · exact (readStore _).bind fun _ => (print _).bind fun _ => inputLine t
  · exact inputByte
  · exact charOfCode t _
  · exact lengthOf t _
  · exact (textArg t _ _).bind fun _ => .look (fun _ => .text t _ _ _) fun _ _ => rfl
  · exact arrayOfLength t _
  · exact (setElement t _ _ _).bind fun _ => .pure _
  · exact (arrayArg t _ _).bind fun _ => (arrayArg t _ _).bind fun _ => newArray _
  · exact (textArg t _ _).bind fun _ => (patternArg t _ _).bind fun _ => newArray _
  · exact (textArg t _ _).bind fun _ => (patternArg t _ _).bind fun _ =>
      (textArg t _ _).bind fun _ => .pure _
  · exact (textArg t _ _).bind fun _ => .pure _
  · exact .pure _
  · exact numberOf t _
  · exact .pure _

/-! ### What evaluates other expressions -/

theorem last (v : Value) (es : List Expr) :
    Uniform eval eval' (last eval v es) (Eval.last eval' v es) := by
  induction es generalizing v with
  | nil => exact .pure v
  | cons e es ih => exact (Uniform.eval e).bind fun v => ih v

theorem all (before : Array Value) (es : List Expr) :
    Uniform eval eval' (all eval before es) (Eval.all eval' before es) := by
  induction es generalizing before with
  | nil => exact .pure before
  | cons e es ih => exact (Uniform.eval e).bind fun v => ih _

theorem interpret (program : List Expr) :
    Uniform eval eval' (interpret eval program) (Eval.interpret eval' program) :=
  (last .null program).confined

theorem bindParameters (params : List Token) (args : List Value) :
    Uniform eval eval' (bindParameters params args) (Eval.bindParameters params args) := by
  induction params generalizing args with
  | nil => exact .pure ()
  | cons p ps ih =>
    cases args with
    | nil => exact .pure ()
    | cons v vs => exact (define _ _).bind fun _ => ih vs

theorem invoke (t : Token) (callee : Value) (args : List Value) :
    Uniform eval eval' (invoke eval t callee args) (Eval.invoke eval' t callee args) := by
  unfold Eval.invoke
  split
  · refine .ite (.fail t _) ?_
    split
    · exact builtin t _ args
    · exact inNewFrame ((bindParameters _ _).bind fun _ => (Uniform.eval _).confined) _ _
  · exact .fail t _

theorem nonEmptyArray (t : Token) (v : Value) :
    Uniform eval eval' (nonEmptyArray t v) (Eval.nonEmptyArray t v) := by
  unfold Eval.nonEmptyArray
  split
  · refine (readStore _).bind fun empty => ?_
    split
    · exact (fail t _).bind fun _ => .pure _
    · exact (pure _).bind fun _ => .pure _
  · exact .fail t _

theorem accepts (scrutinee : Value) (condition : Expr) :
    Uniform eval eval' (accepts eval scrutinee condition)
      (Eval.accepts eval' scrutinee condition) := by
  fun_induction Eval.accepts eval scrutinee condition with
  | case1 => exact .pure _
  | case2 left pipe right ihl ihr =>
    refine ihl.bind fun accepted => ?_
    split
    · exact .pure _
    · exact ihr
  | case3 e noPattern noOr =>
    rw [Eval.accepts.eq_3 eval' scrutinee e noPattern noOr]
    exact (Uniform.eval e).bind fun v => readStore _

theorem choose (scrutinee : Value) (cases : List Case) :
    Uniform eval eval' (choose eval scrutinee cases) (Eval.choose eval' scrutinee cases) := by
  induction cases with
  | nil => exact .pure _
  | cons c cs ih =>
    obtain ⟨arrow, condition, body⟩ := c
    refine (accepts scrutinee condition).bind fun accepted => ?_
    split
    · exact .eval body
    · exact ih

theorem iterate {condition condition' : Eval Bool} (hc : Uniform eval eval' condition condition')
    (body : Expr) (n : Nat) (v : Value) :
    Uniform eval eval' (iterate eval condition body n v)
      (Eval.iterate eval' condition' body n v) := by
  induction n generalizing v with
  | zero => exact .throw rfl
  | succ n ih =>
    refine hc.untilBreak.bind fun holds => ?_
    split
    · refine (Uniform.eval body).untilBreak.bind fun r => ?_
      cases r with
      | some v => exact ih v
      | none => exact .pure v
    · exact .pure v

/-- One step is uniform: one case for each form of expression but the import. -/
theorem step (rounds : Nat) {e : Expr} (noImport : ∀ path, e ≠ .import path) :
    Uniform eval eval' (step eval rounds e) (Eval.step eval' rounds e) := by
  cases e with
  | literal value => exact .pure _
  | «variable» id name => exact valueOf id name
  | array elements close => exact (all #[] elements).bind fun _ => newArray _
  | assign id name value =>
    exact (Uniform.eval value).bind fun v => (ownerOf id name).bind fun f =>
      (change (.replace f name.lexeme v)).bind fun _ => .pure _
  | assignElement id name index value =>
    exact (Uniform.eval index).bind fun _ => (Uniform.eval value).bind fun _ =>
      (valueOf id name).bind fun _ => (setElement name _ _ _).bind fun _ => .pure _
  | binary left op right =>
    exact (Uniform.eval left).bind fun _ => (Uniform.eval right).bind fun _ => binary op _ _
  | block members =>
    exact .look (fun _ => inNewFrame (last .null members) _ _) fun _ _ => rfl
  | «break» keyword => exact .throw rfl
  | call callee args close =>
    exact (Uniform.eval callee).bind fun _ => (all #[] args).bind fun _ => invoke close _ _
  | function name params body => exact closure name params body
  | group inner => exact .eval inner
  | «import» path => exact absurd rfl (noImport path)
  | index target i close =>
    exact (Uniform.eval target).bind fun _ => (nonEmptyArray close _).bind fun _ =>
      (Uniform.eval i).bind fun _ => (readStore _).bind fun _ => ofExcept close _
  | slice target lower upper close =>
    exact (Uniform.eval target).bind fun _ => (nonEmptyArray close _).bind fun _ =>
      (Uniform.eval lower).bind fun _ => (Uniform.eval upper).bind fun _ =>
        (readStore _).bind fun _ => (ofExcept close _).bind fun _ => newArray _
  | logical left op right =>
    refine (Uniform.eval left).bind fun v => ?_
    split
    · exact .pure v
    · exact .eval right
  | «match» keyword scrutinee cases =>
    exact (Uniform.eval scrutinee).bind fun v => choose v cases
  | orPattern left pipe right => exact .throw rfl
  | anyPattern wildcard => exact .throw rfl
  | ternary condition yes no op =>
    refine (Uniform.eval condition).bind fun v => ?_
    split
    · exact .eval yes
    · exact .eval no
  | unary op operand => exact (Uniform.eval operand).bind fun v => unary op v
  | declare name => exact (define _ _).bind fun _ => .pure _
  | declareAs name value =>
    exact (Uniform.eval value).bind fun _ => (define _ _).bind fun _ => .pure _
  | loop keyword body => exact iterate (.pure true) body rounds .null
  | loopWhile keyword condition body =>
    exact iterate ((Uniform.eval condition).bind fun _ => .pure _) body rounds .null

end Uniform

end Eval

end FoxScript
