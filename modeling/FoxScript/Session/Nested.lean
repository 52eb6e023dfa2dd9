import FoxScript.Session.Basic

/-!
# Nested programs

A program can evaluate a text or import a file. The text of either is run like a program of its own
in the frame of global names; what becomes of its failures is the policy of the session.
-/
namespace FoxScript.Eval

section

variable (eval : Expr → Eval Value)

/-- Evaluates expressions in turn and gives the last value, or null if there is none. -/
def last : Value → List Expr → Eval Value
  | v, [] => return v
  | _, e :: es => do last (← eval e) es

/-- Evaluates a program. No `break` may leave it. -/
def interpret (program : List Expr) : Eval Value := confined (last eval .null program)

/-- Runs a text in the frame of global names, with imports seen from `base`. -/
def runNested (source : String) (base : Path) : Eval (Except (List Diagnostic) Value) :=
  inDirectory base do
    inFrame Store.root do
      match ← modifyGet fun s => s.compile source with
      | .error ds => return .error ds
      | .ok program => contained (interpret eval program)

end

/-- The value of a nested run. Under `contain` a failure gives null, and under `propagate` it is a
failure of the token `t`. -/
def settle (t : Token) (describe : List Diagnostic → Fault) :
    Except (List Diagnostic) Value → Eval Value
  | .ok v => return v
  | .error ds => do
    match (← get).policy with
    | .contain => return .null
    | .propagate => fail t (describe ds)

/-- Evaluates what the token of an import names: a library, or a file that is seen from the
directory of the session. A file that is being imported cannot be imported again. -/
def importFile (eval : Expr → Eval Value) (t : Token) : Eval Value := do
  match Import.path? t with
  | none => fail t (.failedImport t.lexeme .notText)
  | some path =>
    let describe (ds : List Diagnostic) : Fault := .failedImport path (.nested ds)
    let s ← get
    match Library.source? path with
    | some source => settle t describe (← runNested eval source s.baseDirectory)
    | none =>
      let target := s.baseDirectory.join (.ofString path)
      let file := do return (← s.files.locate target, ← s.files.readText target)
      match file with
      | .error cause => fail t (.failedImport path (.unreadable cause))
      | .ok (place, source) =>
        if s.importing.contains place then fail t (.failedImport path .reentrant)
        else
          settle t describe (← whileImporting place (runNested eval source target.parent))

end FoxScript.Eval
