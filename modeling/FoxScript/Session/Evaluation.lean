import FoxScript.Session.Builtins

/-!
# Evaluation

`step` says how an expression is evaluated, given the evaluation `eval` of what it contains or
calls. `evaluate` ties the knot with a budget, which bounds how deep evaluations can nest and how
often a loop can go round. More budget never changes an outcome other than running out of it.
-/
namespace FoxScript

namespace Eval

/-! ### Operators -/

/-- An operation on two numbers. Division by zero is no operation of this kind. -/
def arithmetic (op : Token) (x y : Float) : Eval Value :=
  match op.kind with
  | .plus => return .number (x + y)
  | .minus => return .number (x - y)
  | .star => return .number (x * y)
  | .slash => if y == 0 then fail op .divideByZero else return .number (x / y)
  | .greater => return .bool (y < x)
  | .greaterEqual => return .bool (y ≤ x)
  | .less => return .bool (x < y)
  | .lessEqual => return .bool (x ≤ y)
  | _ => throw (.failed (.system (.unknownOperator op.lexeme)))

/-- A sum where one side is no number: texts are joined with what the other side shows. -/
def join (op : Token) (v w : Value) : Eval Value :=
  let joined : Eval Value := readStore fun s => .text (v.render s ++ w.render s)
  match v, w with
  | .text _, _ => joined
  | _, .text _ => joined
  | _, _ => fail op (.invalidAddition v.kind w.kind)

/-- An operation on two values. -/
def binary (op : Token) (v w : Value) : Eval Value :=
  match op.kind with
  | .equalEqual => readStore fun s => .bool (v.equal s w)
  | .bangEqual => readStore fun s => .bool (!v.equal s w)
  | kind =>
    match v, w with
    | .number x, .number y => arithmetic op x y
    | _, _ =>
      if kind = .plus then join op v w else fail op (.operandsNotNumbers v.kind w.kind)

/-- An operation on one value. -/
def unary (op : Token) (v : Value) : Eval Value :=
  if op.kind = .minus then
    match v with
    | .number x => return .number (-x)
    | _ => fail op (.operandNotNumber v.kind)
  else return .bool (!v.isTruthy)

/-! ### Names -/

/-- The frame that a use of a name means: by its hop count from the frame of the session, or the
frame of global names. -/
def ownerOf (id : NodeId) (name : Token) : Eval FrameId := do
  let s ← get
  ofExcept name (match s.hops[id]? with
    | some hops => s.store.findAt s.frame hops name.lexeme
    | none => s.store.find Store.root name.lexeme)

/-- The value of a use of a name. -/
def valueOf (id : NodeId) (name : Token) : Eval Value := do
  let f ← ownerOf id name
  readStore fun s => s.valueIn name.lexeme f

/-- Makes a function that is written in the language, and binds it to its name if it has one. -/
def closure (name : Option Token) (params : List Token) (body : Expr) : Eval Value := do
  let id ← changeStore Store.newFunction
  let v := Value.function (.closure id name params body (← get).frame)
  if let some name := name then define name.lexeme v
  return v

/-! ### What contains other expressions -/

section

variable (eval : Expr → Eval Value)

/-- Evaluates expressions in turn and adds their values to those before. -/
def all (before : Array Value) : List Expr → Eval (Array Value)
  | [] => return before
  | e :: es => do all (before.push (← eval e)) es

/-- Does a step in a new frame inside `parent`. -/
def inNewFrame (origin : Origin) (parent : FrameId) (act : Eval Value) : Eval Value := do
  let f ← changeStore fun s => s.branch origin parent
  inFrame f act

/-- Binds parameters to arguments. -/
def bindParameters : List Token → List Value → Eval Unit
  | p :: ps, v :: vs => do
    define p.lexeme v
    bindParameters ps vs
  | _, _ => return ()

/-- Calls a function. -/
def invoke (t : Token) (callee : Value) (args : List Value) : Eval Value :=
  match callee with
  | .function f =>
    if f.arity != args.length then fail t (.arity f.arity args.length)
    else
      match f with
      | .builtin _ b => builtin eval t b args
      | .closure _ _ params body frame =>
        inNewFrame (.call params body) frame do
          bindParameters params args
          confined (eval body)
  | _ => fail t (.notCallable callee.kind)

/-- The elements of an array that has some. -/
def nonEmptyArray (t : Token) (v : Value) : Eval ArrayId := do
  match v with
  | .array a =>
    if ← readStore fun s => (s.elements a).isEmpty then fail t .emptyArray
    return a
  | _ => fail t (.notAnArray v.kind)

/-- Whether the condition of a case accepts a value. -/
def accepts (scrutinee : Value) : Expr → Eval Bool
  | .anyPattern _ => return true
  | .orPattern left _ right => do
    if ← accepts scrutinee left then return true
    accepts scrutinee right
  | e => do
    let v ← eval e
    readStore fun s => v.equal s scrutinee

/-- Evaluates the body of the first case that accepts a value; if there is none the value is
null. -/
def choose (scrutinee : Value) : List Case → Eval Value
  | [] => return .null
  | .mk _ condition body :: cases => do
    if ← accepts eval scrutinee condition then eval body else choose scrutinee cases

/-- Evaluates the body of a loop again and again, at most so many times, until a `break` or until
the condition does not hold. The value is that of the last body that had one. -/
def iterate (condition : Eval Bool) (body : Expr) : Nat → Value → Eval Value
  | 0, _ => throw .exhausted
  | n + 1, last => do
    match ← untilBreak condition with
    | some true =>
      match ← untilBreak (eval body) with
      | some v => iterate condition body n v
      | none => return last
    | _ => return last

/-- Evaluates an expression; loops go round at most so many times. -/
def step (rounds : Nat) : Expr → Eval Value
  | .literal value => return .ofLiteral value
  | .variable id name => valueOf id name
  | .array elements _ => do newArray (← all eval #[] elements)
  | .assign id name value => do
    let v ← eval value
    let f ← ownerOf id name
    modifyStore fun s => s.replace f name.lexeme v
    return v
  | .assignElement id name index value => do
    let i ← eval index
    let v ← eval value
    setElement name (← valueOf id name) i v
    return v
  | .binary left op right => do
    let v ← eval left
    let w ← eval right
    binary op v w
  | .block members => do
    inNewFrame (.block members) (← get).frame (last eval .null members)
  | .break keyword => throw (.broke keyword)
  | .call callee args close => do
    let f ← eval callee
    let vs ← all eval #[] args
    invoke eval close f vs.toList
  | .function name params body => closure name params body
  | .group inner => eval inner
  | .import path => importFile eval path
  | .index target index close => do
    let a ← nonEmptyArray close (← eval target)
    let i ← eval index
    ofExcept close (← readStore fun s => s.element a i)
  | .slice target lower upper close => do
    let a ← nonEmptyArray close (← eval target)
    let i ← eval lower
    let j ← eval upper
    newArray (← ofExcept close (← readStore fun s => s.slice a i j))
  | .logical left op right => do
    let v ← eval left
    if v.isTruthy == (op.kind == .or) then return v
    eval right
  | .match _ scrutinee cases => do choose eval (← eval scrutinee) cases
  | .orPattern _ pipe _ => throw (.failed (.system (.strayPattern pipe.lexeme)))
  | .anyPattern wildcard => throw (.failed (.system (.strayPattern wildcard.lexeme)))
  | .ternary condition yes no _ => do
    if (← eval condition).isTruthy then eval yes else eval no
  | .unary op operand => do unary op (← eval operand)
  | .declare name => do
    define name.lexeme .null
    return .null
  | .declareAs name value => do
    let v ← eval value
    define name.lexeme v
    return v
  | .loop _ body => iterate eval (return true) body rounds .null
  | .loopWhile _ condition body =>
    iterate eval (do return (← eval condition).isTruthy) body rounds .null

end

/-- Evaluates an expression within a budget. -/
def evaluate : Nat → Expr → Eval Value
  | 0, _ => throw .exhausted
  | n + 1, e => step (evaluate n) n e

/-- The budget of a session, which no program that ends can use up in practice. -/
def budget : Nat := 1000000000000000

end Eval

/-! ### Programs -/

/-- How a program ends. -/
inductive Outcome
  /-- With a value. -/
  | value (v : Value)
  /-- With faults: those of its text, or the one with which it failed. -/
  | failed (ds : List Diagnostic)
  /-- With the replacement of an element at an index from which the array can be reached. -/
  | crashed
  /-- With its budget used up. -/
  | exhausted

namespace Session

/-- Evaluates a program that has been compiled, given the evaluation of its expressions. -/
def interpretBy (eval : Expr → Eval Value) (s : Session) (program : List Expr) :
    Outcome × Session :=
  match Eval.interpret eval program s with
  | .ok v s => (.value v, s)
  | .error (.failed d) s => (.failed [d], s)
  | .error (.broke keyword) s =>
    (.failed [.runtime keyword.location .breakOutsideLoop], s)
  | .error .crashed s => (.crashed, s)
  | .error .exhausted s => (.exhausted, s)

/-- Evaluates a program that has been compiled. -/
def interpret (s : Session) (program : List Expr) : Outcome × Session :=
  s.interpretBy (Eval.evaluate Eval.budget) program

/-- Compiles and evaluates a text. -/
def run (s : Session) (source : String) : Outcome × Session :=
  match s.compile source with
  | (.error ds, s) => (.failed ds, s)
  | (.ok program, s) => s.interpret program

end Session

end FoxScript
