/-!
# Builtin functions

The functions that every session starts with, by name and number of parameters.
-/
namespace FoxScript

/-- A function that is not written in the language. -/
inductive Builtin
  | clock | print | println | input | getch | charToStr | len | eval | newArray | set | merge
  | split | replace | trim | typeOf | toNumber
  /-- A function that the program around the session lends it. A call gives null. -/
  | host (name : String) (arity : Nat)
  deriving DecidableEq, Repr

namespace Builtin

/-- The name to which the function is bound. -/
def name : Builtin → String
  | clock => "clock"
  | print => "print"
  | println => "println"
  | input => "input"
  | getch => "getch"
  | charToStr => "charToStr"
  | len => "len"
  | eval => "eval"
  | newArray => "Array"
  | set => "set"
  | merge => "merge"
  | split => "split"
  | replace => "replace"
  | trim => "trim"
  | typeOf => "typeOf"
  | toNumber => "Number"
  | host name _ => name

/-- The number of parameters. -/
def arity : Builtin → Nat
  | clock | getch => 0
  | print | println | input | charToStr | len | eval | newArray | trim | typeOf | toNumber => 1
  | merge | split => 2
  | set | replace => 3
  | host _ arity => arity

/-- The functions of a new session. -/
def standard : List Builtin :=
  [clock, print, println, input, getch, charToStr, len, eval, newArray, set, merge, split, replace,
    trim, typeOf, toNumber]

end Builtin

end FoxScript
