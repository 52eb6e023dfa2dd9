import FoxScript.Expr.Basic

/-!
# The text of expressions

Every expression is written with its operator first and in parentheses, so that the text shows the
shape of the tree.
-/
namespace FoxScript

/-- The text of an import's path. -/
def Token.pathText (t : Token) : String :=
  match t.literal with
  | some l => l.render
  | none => t.lexeme

mutual

/-- The text of an expression. -/
def Expr.render : Expr → String
  | .literal value => value.render
  | .variable _ name => name.lexeme
  | .array elements _ => s!"(array{Expr.renderAll elements})"
  | .assign _ name value => s!"(assign {name.lexeme} {value.render})"
  | .assignElement _ name index value =>
    s!"(assign {name.lexeme}[{index.render}] {value.render})"
  | .binary left op right => s!"({op.lexeme} {left.render} {right.render})"
  | .block members => s!"(block{Expr.renderAll members})"
  | .break _ => "break"
  | .call callee args _ => s!"(call {callee.render}{Expr.renderAll args})"
  | .function name params body =>
    let name := (name.map Token.lexeme).getD "<anon>"
    let params := " ".intercalate (params.map Token.lexeme)
    s!"(defun {name} ({params}) {body.render})"
  | .group inner => s!"(group {inner.render})"
  | .import path => s!"(import {path.pathText})"
  | .index target index _ => s!"(index {target.render} {index.render})"
  | .slice target lower upper _ => s!"(slice {target.render} {lower.render} {upper.render})"
  | .logical left op right => s!"({op.lexeme} {left.render} {right.render})"
  | .match _ scrutinee cases => s!"(match {scrutinee.render}{Case.renderAll cases})"
  | .orPattern left _ right => s!"(| {left.render} {right.render})"
  | .anyPattern _ => "_"
  | .ternary condition yes no _ => s!"(?: {condition.render} {yes.render} {no.render})"
  | .unary op operand => s!"({op.lexeme} {operand.render})"
  | .declare name => s!"(var {name.lexeme})"
  | .declareAs name value => s!"(var {name.lexeme} {value.render})"
  | .loop _ body => s!"(while {body.render})"
  | .loopWhile _ condition body => s!"(while {condition.render} {body.render})"

/-- The texts of several expressions, each after a blank. -/
def Expr.renderAll : List Expr → String
  | [] => ""
  | e :: es => " " ++ e.render ++ Expr.renderAll es

/-- The text of a case. -/
def Case.render : Case → String
  | .mk _ condition body => s!"(case {condition.render} {body.render})"

/-- The texts of several cases, each after a blank. -/
def Case.renderAll : List Case → String
  | [] => ""
  | c :: cs => " " ++ c.render ++ Case.renderAll cs

end

end FoxScript
