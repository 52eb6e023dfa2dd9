import FoxScript.Console
import FoxScript.Scope.Resolution
import FoxScript.Value.Element
import FoxScript.Value.Equality

/-!
# Sessions

A session is all that programs which are run one after the other share: the store, what is known
about names, the directory that imports are seen from, and the console. An evaluation changes the
session and ends with a value or with an `Exit`.
-/
namespace FoxScript

/-- The state of a session. -/
structure Session where
  /-- The frames and arrays. -/
  store : Store
  /-- The frame in which names are declared. -/
  frame : FrameId
  /-- How far the uses of local names are from their bindings. -/
  hops : HopTable
  /-- The next number for a use of a name. -/
  fresh : Nat
  /-- The programs that were accepted, the latest first, each with the directory from which its
  imports are seen. -/
  programs : List (Path × List Expr)
  /-- The directory from which imports are seen. -/
  baseDirectory : Path
  /-- The files that are being imported, innermost first. -/
  importing : List Place
  /-- What becomes of failures of imports and evaluated texts. -/
  policy : NestedErrors
  /-- What was printed. -/
  output : Capture
  /-- What can be read. -/
  input : Input
  /-- The files. -/
  files : FileSystem
  /-- The time in seconds. -/
  now : Float
  /-- The number of elements up to which memory is found for an array that is made at once. -/
  memory : Nat

/-- A new session, which finds memory for arrays of at most `2 ^ 29` elements. -/
def Session.new (files : FileSystem) (base : Path) (policy : NestedErrors) (input : Input)
    (now : Float) : Session where
  store := Store.empty.addBuiltins
  frame := Store.root
  hops := ∅
  fresh := 0
  programs := []
  baseDirectory := base
  importing := []
  policy := policy
  output := .empty
  input := input
  files := files
  now := now
  memory := 536870912

/-- How an evaluation ends without a value. -/
inductive Exit
  /-- A `break` on its way to its loop. -/
  | broke (keyword : Token)
  /-- A failure. -/
  | failed (d : Diagnostic)
  /-- An element of an array was to be replaced at an index from which the array can be reached. -/
  | crashed
  /-- The budget is used up. -/
  | exhausted

/-- A step of evaluation. -/
abbrev Eval := EStateM Exit Session

namespace Eval

/-- Fails at a token. -/
def fail {α : Type} (t : Token) (f : Fault) : Eval α := throw (.failed (.runtime t.location f))

/-- The outcome of an operation that can fail, as a failure at a token. -/
def ofExcept {α : Type} (t : Token) : Except Fault α → Eval α
  | .ok a => return a
  | .error f => fail t f

/-- The outcome of a replacement of an element. -/
def ofElement {α : Type} (t : Token) : Except ElementFailure α → Eval α
  | .ok a => return a
  | .error (.fault f) => fail t f
  | .error .aliased => throw .crashed

/-- What the store says. -/
def readStore {α : Type} (f : Store → α) : Eval α := return f (← get).store

/-- Changes the store. -/
def modifyStore (f : Store → Store) : Eval Unit := modify fun s => { s with store := f s.store }

/-- Changes the store and gives what the change gives. -/
def changeStore {α : Type} (f : Store → α × Store) : Eval α :=
  modifyGet fun s =>
    let (a, store) := f s.store
    (a, { s with store := store })

/-- A new array. -/
def newArray (vs : Array Value) : Eval Value := do
  let a ← changeStore fun s => s.newArray vs
  return .array a

/-- Binds a name in the frame of the session. -/
def define (name : String) (v : Value) : Eval Unit :=
  modify fun s => { s with store := s.store.define s.frame name v }

/-- Replaces an element of an array. -/
def setElement (t : Token) (target index v : Value) : Eval Unit := do
  let (a, i) ← ofElement t (← readStore fun s => s.elementPlace target index)
  modifyStore fun s => s.setAt a i v

/-- Prints a text. -/
def print (text : String) : Eval Unit := modify fun s => { s with output := s.output.print text }

/-! ### Steps within steps -/

/-- Does a step in another frame and comes back, however the step ends. -/
def inFrame {α : Type} (f : FrameId) (act : Eval α) : Eval α := fun s =>
  let back := s.frame
  match act { s with frame := f } with
  | .ok a t => .ok a { t with frame := back }
  | .error e t => .error e { t with frame := back }

/-- Does a step with imports seen from another directory and comes back, however the step ends. -/
def inDirectory {α : Type} (base : Path) (act : Eval α) : Eval α := fun s =>
  let back := s.baseDirectory
  match act { s with baseDirectory := base } with
  | .ok a t => .ok a { t with baseDirectory := back }
  | .error e t => .error e { t with baseDirectory := back }

/-- Does a step while a file is being imported. -/
def whileImporting {α : Type} (place : Place) (act : Eval α) : Eval α := fun s =>
  let back := s.importing
  match act { s with importing := place :: back } with
  | .ok a t => .ok a { t with importing := back }
  | .error e t => .error e { t with importing := back }

/-- Does a step that a `break` may end; then there is no value. -/
def untilBreak {α : Type} (act : Eval α) : Eval (Option α) := fun s =>
  match act s with
  | .ok a t => .ok (some a) t
  | .error (.broke _) t => .ok none t
  | .error e t => .error e t

/-- Does a step that no `break` may leave. -/
def confined {α : Type} (act : Eval α) : Eval α := fun s =>
  match act s with
  | .error (.broke keyword) t =>
    .error (.failed (.runtime keyword.location .breakOutsideLoop)) t
  | r => r

/-- Does a step and gives its failure as a value. -/
def contained {α : Type} (act : Eval α) : Eval (Except (List Diagnostic) α) := fun s =>
  match act s with
  | .ok a t => .ok (.ok a) t
  | .error (.failed d) t => .ok (.error [d]) t
  | .error e t => .error e t

end Eval

namespace Session

/-- Takes in a program with the hop counts of its uses, which are added to those that are known. -/
def adopt (s : Session) (program : List Expr) (hops : HopTable) : Session :=
  { s with
    hops := hops.fold (fun t id n => t.insert id n) s.hops
    programs := (s.baseDirectory, program) :: s.programs }

/-- Resolves a program and takes it in if it has no faults. -/
def accept (s : Session) (program : List Expr) :
    Except (List Diagnostic) (List Expr) × Session :=
  let r := resolve s.files s.policy s.baseDirectory program
  if r.faults.isEmpty then (.ok program, s.adopt program r.hops) else (.error r.faults, s)

/-- Reads a text as a program, which is taken in if neither its syntax nor its scopes have
faults. -/
def compile (s : Session) (source : String) : Except (List Diagnostic) (List Expr) × Session :=
  let p := Import.read s.fresh source
  let s := { s with fresh := p.fresh }
  if p.faults.isEmpty then s.accept p.exprs else (.error p.faults, s)

end Session

end FoxScript
