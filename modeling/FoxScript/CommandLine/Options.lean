import FoxScript.Scope.Resolution

/-!
# Command line options
-/
namespace FoxScript

/-- What the arguments of the command line ask for. -/
structure Options where
  /-- The script to run; without one lines are read from a prompt. -/
  script : Option String := none
  /-- Whether the tree of each program is shown before it runs. -/
  debug : Bool := false
  /-- What becomes of failures of imports and evaluated texts. -/
  policy : NestedErrors := .propagate
  deriving DecidableEq, Repr

namespace Options

/-- Takes in one argument. After the first script further ones are ignored. -/
def add (o : Options) (arg : String) : Options :=
  match arg with
  | "-d" | "--debug" => { o with debug := true }
  | "--contain-nested-errors" => { o with policy := .contain }
  | _ => { o with script := o.script <|> some arg }

/-- The options that some arguments give. -/
def ofArgs (args : List String) : Options := args.foldl add {}

/-- The level from which messages are logged unless another is asked for. -/
def logLevel (o : Options) : String := if o.debug then "debug" else "warn"

end Options

end FoxScript
