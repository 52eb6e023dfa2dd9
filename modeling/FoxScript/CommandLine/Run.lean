import FoxScript.CommandLine.Options
import FoxScript.Expr.Printer
import FoxScript.Session.Evaluation
import FoxScript.Text.Blank

/-!
# Running scripts and prompts

A script is run as one program; the exit code tells whether it could be read, compiled and run.
Without a script a prompt asks for lines, each of which is a program, until the input or the line
`exit` ends it.
-/
namespace FoxScript.CommandLine

/-- The exit code of a script whose text has faults. -/
def staticFailure : Nat := 65

/-- The exit code of a script that cannot be read. -/
def noInput : Nat := 66

/-- The exit code of a script that fails while it runs. -/
def runtimeFailure : Nat := 70

/-- The exit code of a prompt that cannot be read. -/
def promptFailure : Nat := 1

/-- The exit code of a program that replaces an element at an index from which the array can be
reached, or uses up its budget. -/
def crash : Nat := 101

/-- What running leaves behind. -/
structure Report where
  /-- The exit code. -/
  code : Nat
  /-- What was printed. -/
  output : String
  /-- What was reported. -/
  errors : String
  deriving DecidableEq, Repr

/-- The lines that report diagnostics. -/
def reportText (ds : List Diagnostic) : String := String.join (ds.map fun d => d.text ++ "\n")

/-- The lines that show the trees of a program. -/
def treeText (program : List Expr) : String :=
  String.join (program.map fun e => e.render ++ "\n")

/-- How a program given to the command line ends, and what is reported on it. -/
structure Ending where
  /-- How it ends. -/
  outcome : Outcome
  /-- The trees, if they are asked for, and the diagnostics. -/
  errors : String
  /-- The session after it. -/
  session : Session

/-- Compiles and evaluates a text, and shows its trees in between if they are asked for. -/
def runText (debug : Bool) (s : Session) (source : String) : Ending :=
  match s.compile source with
  | (.error ds, s) => ⟨.failed ds, reportText ds, s⟩
  | (.ok program, s) =>
    let trees := if debug then treeText program else ""
    let (outcome, s) := s.interpret program
    match outcome with
    | .failed ds => ⟨outcome, trees ++ reportText ds, s⟩
    | _ => ⟨outcome, trees, s⟩

/-- The exit code of a script. -/
def exitCode : Outcome → Nat
  | .value _ => 0
  | .failed ds => if ds.any Diagnostic.isStatic then staticFailure else runtimeFailure
  | .crashed | .exhausted => crash

/-- The text of a script. -/
def readScript (files : FileSystem) (script : String) : Except SystemFault String := do
  match files.readBytes (.ofString script) with
  | .error cause => throw (.io cause)
  | .ok bytes =>
    match Text.Utf8.decode? bytes with
    | some cs => return String.ofList cs
    | none => throw .notUtf8

/-- Runs a script. Its imports are seen from its own directory. -/
def runScript (o : Options) (files : FileSystem) (input : Input) (now : Float) (script : String) :
    Report :=
  match readScript files script with
  | .error f => ⟨noInput, "", reportText [.system f]⟩
  | .ok source =>
    let s := Session.new files (Path.ofString script).parent o.policy input now
    let e := runText o.debug s source
    ⟨exitCode e.outcome, e.session.output.text, e.errors⟩

/-- Asks for lines and runs each, at most so many times. -/
def prompt (debug : Bool) : Nat → Session → String → Report
  | 0, s, errors => ⟨0, s.output.text, errors⟩
  | n + 1, s, errors =>
    let s := { s with output := s.output.print "> " }
    let (read, input) := s.input.promptLine
    let s := { s with input := input }
    match read with
    | .error cause =>
      ⟨promptFailure, s.output.text, errors ++ reportText [.system (.io cause)]⟩
    | .ok [] => ⟨0, s.output.text, errors⟩
    | .ok cs =>
      let line := Text.trim (String.ofList cs)
      if line = "exit" then ⟨0, s.output.text, errors⟩
      else if line = "" then prompt debug n s errors
      else
        let e := runText debug s line
        let errors := errors ++ e.errors
        let s := e.session
        match e.outcome with
        | .value v =>
          let shown := line ++ " ===> " ++ v.render s.store ++ "\n"
          prompt debug n { s with output := s.output.print shown } errors
        | .failed _ => prompt debug n s errors
        | .crashed | .exhausted => ⟨crash, s.output.text, errors⟩

/-- Runs a prompt. Every round but the last reads at least one byte. -/
def runPrompt (o : Options) (files : FileSystem) (input : Input) (now : Float) : Report :=
  prompt o.debug (input.bytes.length + 1) (Session.new files .current o.policy input now) ""

/-- Runs the command line. -/
def run (args : List String) (files : FileSystem) (input : Input) (now : Float) : Report :=
  let o := Options.ofArgs args
  match o.script with
  | some script => runScript o files input now script
  | none => runPrompt o files input now

end FoxScript.CommandLine
