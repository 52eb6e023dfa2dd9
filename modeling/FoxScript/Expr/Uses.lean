import FoxScript.Expr.Basic

/-!
# Uses of names

The places of a program at which a name is read or assigned to, in the order of the tree.
-/
namespace FoxScript

/-- A use of a name. -/
structure Use where
  /-- Whether the name is assigned to. -/
  isAssignment : Bool
  /-- The number of the use. -/
  id : NodeId
  /-- The name. -/
  name : Token
  deriving Repr

mutual

/-- The uses in an expression. An assignment comes before the uses in its parts. -/
@[simp] def Expr.uses : Expr → List Use
  | .literal _ | .break _ | .anyPattern _ | .import _ | .declare _ => []
  | .variable id name => [⟨false, id, name⟩]
  | .array elements _ => Expr.usesOf elements
  | .assign id name value => ⟨true, id, name⟩ :: value.uses
  | .assignElement id name index value => ⟨true, id, name⟩ :: (index.uses ++ value.uses)
  | .binary left _ right | .logical left _ right | .orPattern left _ right =>
    left.uses ++ right.uses
  | .block members => Expr.usesOf members
  | .call callee args _ => callee.uses ++ Expr.usesOf args
  | .function _ _ body => body.uses
  | .group inner | .unary _ inner => inner.uses
  | .index target index _ => target.uses ++ index.uses
  | .slice target lower upper _ => target.uses ++ lower.uses ++ upper.uses
  | .match _ scrutinee cases => scrutinee.uses ++ Case.usesOf cases
  | .ternary condition yes no _ => condition.uses ++ yes.uses ++ no.uses
  | .declareAs _ value => value.uses
  | .loop _ body => body.uses
  | .loopWhile _ condition body => condition.uses ++ body.uses

/-- The uses in several expressions. -/
@[simp] def Expr.usesOf : List Expr → List Use
  | [] => []
  | e :: es => e.uses ++ Expr.usesOf es

/-- The uses in the cases of a match. -/
@[simp] def Case.usesOf : List Case → List Use
  | [] => []
  | .mk _ condition body :: cases => condition.uses ++ body.uses ++ Case.usesOf cases

end

end FoxScript
