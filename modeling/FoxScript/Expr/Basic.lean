import FoxScript.Token.Basic

/-!
# Expressions

A program is a list of expressions. Uses of names carry a number of their own, by which what is
found out about a use before the program runs is kept.
-/
namespace FoxScript

/-- The number of a use of a name. -/
structure NodeId where
  /-- The number. -/
  index : Nat
  deriving DecidableEq, Repr, Hashable

mutual

/-- An expression. -/
inductive Expr
  /-- A constant. -/
  | literal (value : Literal)
  /-- A use of a name. -/
  | variable (id : NodeId) (name : Token)
  /-- An array, up to its closing bracket. -/
  | array (elements : List Expr) (close : Token)
  /-- A new value for a name. -/
  | assign (id : NodeId) (name : Token) (value : Expr)
  /-- A new value for an element of the array that has a name. -/
  | assignElement (id : NodeId) (name : Token) (index value : Expr)
  /-- An operation on two values. -/
  | binary (left : Expr) (op : Token) (right : Expr)
  /-- Expressions in a scope of their own. -/
  | block (members : List Expr)
  /-- The end of the loop around it. -/
  | break (keyword : Token)
  /-- A call of a function, up to its closing parenthesis. -/
  | call (callee : Expr) (args : List Expr) (close : Token)
  /-- A function, which is bound to its name if it has one. -/
  | function (name : Option Token) (params : List Token) (body : Expr)
  /-- An expression in parentheses. -/
  | group (inner : Expr)
  /-- A file to be run. -/
  | import (path : Token)
  /-- An element of an array. -/
  | index (target index : Expr) (close : Token)
  /-- A part of an array. -/
  | slice (target lower upper : Expr) (close : Token)
  /-- The first value if it decides, and the second if not. -/
  | logical (left : Expr) (op : Token) (right : Expr)
  /-- The first of several cases that a value meets. -/
  | match (keyword : Token) (scrutinee : Expr) (cases : List Case)
  /-- The condition of a case that accepts what one of two conditions accepts. -/
  | orPattern (left : Expr) (pipe : Token) (right : Expr)
  /-- The condition of a case that accepts every value. -/
  | anyPattern (wildcard : Token)
  /-- One of two values. -/
  | ternary (condition yes no : Expr) (op : Token)
  /-- An operation on one value. -/
  | unary (op : Token) (operand : Expr)
  /-- A new name without a value. -/
  | declare (name : Token)
  /-- A new name with a value. -/
  | declareAs (name : Token) (value : Expr)
  /-- A loop that only a `break` ends. -/
  | loop (keyword : Token) (body : Expr)
  /-- A loop with a condition. -/
  | loopWhile (keyword : Token) (condition body : Expr)

/-- A case of a match. -/
inductive Case
  /-- What is to be done with a value that the condition accepts. -/
  | mk (arrow : Token) (condition body : Expr)

end

namespace Case

/-- The arrow between the condition and the body. -/
def arrow : Case → Token
  | .mk arrow _ _ => arrow

/-- What the value has to meet. -/
def condition : Case → Expr
  | .mk _ condition _ => condition

/-- What is done then. -/
def body : Case → Expr
  | .mk _ _ body => body

end Case

instance : Inhabited Expr := ⟨.literal .null⟩

end FoxScript
