import FoxScript.Expr.Basic
import FoxScript.Value.Builtin
import FoxScript.Value.Kind

/-!
# Values

What expressions evaluate to. Arrays and frames are shared: a value holds the number under which
they are kept in a store. Each function that is made has a number of its own, which tells it from
all others.
-/
namespace FoxScript

/-- The number of a frame in a store. -/
structure FrameId where
  /-- The number. -/
  index : Nat
  deriving DecidableEq, Repr

/-- The number of an array in a store. -/
structure ArrayId where
  /-- The number. -/
  index : Nat
  deriving DecidableEq, Repr

/-- The number of a function. -/
structure FunctionId where
  /-- The number. -/
  index : Nat
  deriving DecidableEq, Repr

/-- A function. -/
inductive Function
  /-- One that is not written in the language. -/
  | builtin (id : FunctionId) (b : Builtin)
  /-- One that is written in the language, with the frame in which it was made. -/
  | closure (id : FunctionId) (name : Option Token) (params : List Token) (body : Expr)
    (frame : FrameId)

namespace Function

/-- The number of the function. -/
def id : Function → FunctionId
  | builtin id _ | closure id _ _ _ _ => id

/-- The name of the function, if it has one. -/
def name? : Function → Option String
  | builtin _ b => some b.name
  | closure _ name _ _ _ => name.map Token.lexeme

/-- The number of parameters. -/
def arity : Function → Nat
  | builtin _ b => b.arity
  | closure _ _ params _ _ => params.length

/-- The function as it is shown. -/
def render : Function → String
  | builtin _ _ => "<native fn>"
  | closure _ (some name) _ _ _ => s!"<fn {name.lexeme}>"
  | closure _ none _ _ _ => "<fn>"

end Function

/-- What an expression evaluates to. -/
inductive Value
  /-- The absent value. -/
  | null
  /-- A truth value. -/
  | bool (b : Bool)
  /-- A number. -/
  | number (x : Float)
  /-- A text. -/
  | text (s : String)
  /-- A shared array. -/
  | array (id : ArrayId)
  /-- A function. -/
  | function (f : Function)

instance : Inhabited Value := ⟨.null⟩

namespace Value

/-- The kind of the value. -/
def kind : Value → Kind
  | null => .null
  | bool _ => .boolean
  | number _ => .number
  | text _ => .string
  | array _ => .array
  | function _ => .function

/-- Whether a condition with this value holds: it does unless the value is null or false. -/
def isTruthy : Value → Bool
  | null => false
  | bool b => b
  | _ => true

/-- The value of a constant. -/
def ofLiteral : Literal → Value
  | .null => null
  | .bool b => bool b
  | .number x => number x
  | .text s => text s

/-- The array of the value, if it is one. -/
def array? : Value → Option ArrayId
  | array id => some id
  | _ => none

end Value

end FoxScript
