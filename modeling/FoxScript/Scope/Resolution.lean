import FoxScript.Expr.Parser
import FoxScript.File.System
import FoxScript.Library
import FoxScript.Token.Lexer
import Std.Data.HashMap

/-!
# Resolution of names

Before a program runs, each use of a name is looked up in the scopes around it: blocks and
functions. If one of them binds the name, the number of scopes between is kept in a `HopTable`; a
use without an entry means a global name. Faults of scopes are reported, and so are faults of the
files that are imported, which are read and checked in turn.
-/
namespace FoxScript

/-- How many scopes lie between a use of a name and the scope that binds it. -/
abbrev HopTable := Std.HashMap NodeId Nat

/-- What becomes of the failure of an import or of an evaluated text. -/
inductive NestedErrors
  /-- It is a failure of the import or evaluation. -/
  | propagate
  /-- The import or evaluation gives null. -/
  | contain
  deriving DecidableEq, Repr

/-- The names that a scope binds so far, with whether each has got its first value. -/
abbrev Scope := List (String × Bool)

/-- The state of resolution. -/
structure Resolution where
  /-- The scopes, innermost first. -/
  scopes : List Scope
  /-- What is found out. -/
  hops : HopTable
  /-- The faults, in order. -/
  faults : List Diagnostic

namespace Resolution

/-- The state at the start. -/
def start : Resolution := ⟨[], ∅, []⟩

/-- A step of resolution. -/
abbrev Step := StateM Resolution

/-- Adds a fault. -/
def report (d : Diagnostic) : Step Unit := modify fun r => { r with faults := r.faults ++ [d] }

/-- Adds a fault of scopes at a token. -/
def reportAt (t : Token) (f : ScopeFault) : Step Unit := report (.scoping t.location f)

/-- Binds a name in the innermost scope, if there is one. -/
def bindName (name : String) (ready : Bool) : Step Unit :=
  modify fun r =>
    match r.scopes with
    | scope :: outer => { r with scopes := ((name, ready) :: scope) :: outer }
    | [] => r

/-- Binds a name that has no value yet. In one scope this can be done once. -/
def declare (name : Token) : Step Unit := do
  match (← get).scopes with
  | [] => return ()
  | scope :: _ =>
    if (scope.lookup name.lexeme).isSome then reportAt name (.alreadyDeclared name.lexeme)
    else bindName name.lexeme false

/-- Marks that a name has its value. -/
def define (name : Token) : Step Unit := bindName name.lexeme true

/-- The number of scopes before the first that binds the name. -/
def hopsTo? (name : String) (scopes : List Scope) : Option Nat :=
  scopes.findIdx? fun scope => (scope.lookup name).isSome

/-- Keeps how far a use is from its binding. -/
def locate (id : NodeId) (name : Token) : Step Unit :=
  modify fun r =>
    match hopsTo? name.lexeme r.scopes with
    | some n => { r with hops := r.hops.insert id n }
    | none => r

/-- Resolves a use, which the name's own first value may not contain. -/
def use (id : NodeId) (name : Token) : Step Unit := do
  match (← get).scopes with
  | scope :: _ =>
    if scope.lookup name.lexeme = some false then reportAt name (.ownInitializer name.lexeme)
    else locate id name
  | [] => locate id name

/-- Does a step in a scope of its own. -/
def inScope (initial : Scope) (step : Step Unit) : Step Unit := do
  modify fun r => { r with scopes := initial :: r.scopes }
  step
  modify fun r => { r with scopes := r.scopes.drop 1 }

/-- Binds the parameters of a function. `seen` holds those before. -/
def parameters (seen : List String) : List Token → Step Unit
  | [] => return ()
  | p :: ps => do
    if seen.contains p.lexeme then reportAt p (.duplicateParameter p.lexeme)
    define p
    parameters (p.lexeme :: seen) ps

section

variable (imports : Token → List Diagnostic)

mutual

/-- Resolves an expression. The faults of an import are given by `imports`. -/
def expr : Expr → Step Unit
  | .literal _ | .break _ | .anyPattern _ => return ()
  | .variable id name => use id name
  | .array elements _ => exprs elements
  | .assign id name value => do
    expr value
    locate id name
  | .assignElement id name index value => do
    expr index
    expr value
    locate id name
  | .binary left _ right | .logical left _ right | .orPattern left _ right => do
    expr left
    expr right
  | .block members => inScope [] (exprs members)
  | .call callee args _ => do
    expr callee
    exprs args
  | .function name params body => do
    match name with
    | some name =>
      declare name
      define name
    | none => pure ()
    inScope [] do
      parameters [] params
      expr body
  | .group inner | .unary _ inner => expr inner
  | .import path => for d in imports path do report d
  | .index target index _ => do
    expr target
    expr index
  | .slice target lower upper _ => do
    expr target
    expr lower
    expr upper
  | .match _ scrutinee branches => do
    expr scrutinee
    cases branches
  | .ternary condition yes no _ => do
    expr condition
    expr yes
    expr no
  | .declare name => do
    declare name
    define name
  | .declareAs name value => do
    declare name
    expr value
    define name
  | .loop _ body => expr body
  | .loopWhile _ condition body => do
    expr condition
    expr body

/-- Resolves several expressions in turn. -/
def exprs : List Expr → Step Unit
  | [] => return ()
  | e :: es => do
    expr e
    exprs es

/-- Resolves the cases of a match. -/
def cases : List Case → Step Unit
  | [] => return ()
  | .mk _ condition body :: rest => do
    expr condition
    expr body
    cases rest

end

end

/-- Resolves a program. -/
def ofProgram (imports : Token → List Diagnostic) (program : List Expr) : Resolution :=
  ((exprs imports program).run start).2

end Resolution

/-! ### Imported files -/

namespace Import

/-- Reads a text as a program, with uses numbered from `fresh` on. -/
def read (fresh : Nat) (source : String) : Parse :=
  let items := Lexer.scan source
  let p := Parse.ofTokens fresh (Lexer.tokens items)
  { p with faults := Lexer.faults items ++ p.faults }

/-- The path of an import, if it is given as a text. -/
def path? (t : Token) : Option String :=
  match t.literal with
  | some (.text path) => some path
  | _ => none

/-- The faults of an import that is seen from the directory `base` while the files at the places
`active` are being checked. The faults of the program in the file, which is seen from a directory
and stands at a place, are given by `inside`. A file that is being checked is not checked again. -/
def faultsBy (fs : FileSystem) (policy : NestedErrors)
    (inside : Path → Place → List Expr → List Diagnostic) (base : Path) (active : List Place)
    (t : Token) : List Diagnostic :=
  let fault (f : ScopeFault) : Diagnostic := .scoping t.location f
  match path? t with
  | none => [fault .importNotText]
  | some path =>
    if (Library.source? path).isSome then []
    else
      let target := base.join (.ofString path)
      match fs.locate target with
      | .error _ => [fault (.importMissing target.toString)]
      | .ok place =>
        if (fs.file? place).isNone then [fault (.importMissing target.toString)]
        else if active.contains place then []
        else
          match fs.readText target with
          | .error cause => [fault (.importUnreadable target.toString cause)]
          | .ok source =>
            let parse := read 0 source
            let nested :=
              if parse.faults.isEmpty then inside target.parent place parse.exprs
              else parse.faults
            match policy with
            | .contain => []
            | .propagate => nested.map fun d => fault (.brokenImport path d)

/-- The faults of an import and of the files that are imported in turn, down to a depth. As no file
is checked inside itself, the depth is bounded by the number of files. -/
def faults (fs : FileSystem) (policy : NestedErrors) :
    Nat → Path → List Place → Token → List Diagnostic
  | 0, base, active, t => faultsBy fs policy (fun _ _ _ => []) base active t
  | depth + 1, base, active, t =>
    let inside (base : Path) (place : Place) (program : List Expr) : List Diagnostic :=
      (Resolution.ofProgram (faults fs policy depth base (place :: active)) program).faults
    faultsBy fs policy inside base active t

end Import

/-- Resolves a program whose imports are seen from the directory `base`. -/
def resolve (fs : FileSystem) (policy : NestedErrors) (base : Path) (program : List Expr) :
    Resolution :=
  .ofProgram (Import.faults fs policy (fs.files.length + 1) base []) program

end FoxScript
