import FoxScript.Regex.Bracket

/-!
# Reading a whole pattern

`Ast.parse` reads a pattern as a tree, or tells its first fault. Trees that nest too deep are
refused.
-/
namespace FoxScript.Regex

namespace Reader

/-- The tree of a character or an escape. -/
def Primitive.toAst : Primitive → Ast
  | .literal l => .literal l
  | .dot s => .dot s
  | .anchor s k => .anchor s k
  | .unicode s n q => .unicode s n q
  | .perl s n k => .perl s n k

/-- The part of a branch that is read: where it starts, the finished alternatives before it and its
items, both last first. -/
structure Branch where
  /-- The index at which the group's inside starts. -/
  origin : Nat
  /-- The index at which the branch starts. -/
  start : Nat
  /-- The branches before, the last one first. -/
  before : List Ast
  /-- The items of the branch, the last one first. -/
  items : List Ast

/-- The branch that ends at `stop`. -/
def Branch.current (b : Branch) (stop : Nat) : Ast := .ofSequence ⟨b.start, stop⟩ b.items.reverse

/-- The tree of all branches, which end at `stop`. -/
def Branch.finish (b : Branch) (stop : Nat) : Ast :=
  if b.before.isEmpty then b.current stop
  else .alternation ⟨b.origin, stop⟩ (b.current stop :: b.before).reverse

/-- Takes the item that a repetition repeats. -/
def repeated (b : Branch) : Reader (Ast × List Ast) := do
  let here ← index
  match b.items with
  | [] | .empty _ :: _ | .flags _ _ :: _ => fail .repetitionMissing here here
  | item :: before => return (item, before)

/-- Adds a repetition in braces to the branch. -/
def repeatCounted (b : Branch) : Reader Branch := do
  let (item, before) ← repeated b
  let (least, most, greedy) ← counted
  let span : Span := ⟨item.span.start, ← index⟩
  return { b with items := .repetition span least most greedy item :: before }

/-- Adds a repetition by one character to the branch. -/
def repeatMarked (b : Branch) (least : Nat) (most : Option Nat) : Reader Branch := do
  let (item, before) ← repeated b
  bump
  let greedy ← greed
  let span : Span := ⟨item.span.start, ← index⟩
  return { b with items := .repetition span least most greedy item :: before }

/-- Switches the skipping of blank characters as a list of flags says. -/
def setVerbose (items : List FlagItem) : Reader Unit :=
  match flagState .verbose items with
  | some v => modify fun s => { s with verbose := v }
  | none => return ()

/-- Reads up to the closing parenthesis of the group whose opening has the span `outer`, or up to
the end of the pattern where `outer` is missing. The parenthesis is not read. -/
def branches (outer : Option Span) (b : Branch) : Nat → Reader Ast
  | 0 => return b.finish (← index)
  | n + 1 => do
    bumpSpace
    let here ← index
    match ← peek? with
    | none =>
      match outer with
      | some s => fail .groupUnclosed s.start s.stop
      | none => return b.finish here
    | some '(' =>
      match ← opening with
      | .flags span items =>
        setVerbose items
        branches outer { b with items := .flags span items :: b.items } n
      | .group span kind =>
        let verbose := (← get).verbose
        if let .plain items := kind then setVerbose items
        let inner ← index
        let body ← branches (some span) ⟨inner, inner, [], []⟩ n
        modify fun s => { s with verbose := verbose }
        bump
        let group := Ast.group ⟨span.start, ← index⟩ kind body
        branches outer { b with items := group :: b.items } n
    | some ')' =>
      match outer with
      | some _ => return b.finish here
      | none => fail .groupUnopened here (here + 1)
    | some '|' =>
      bump
      branches outer ⟨b.origin, ← index, b.current here :: b.before, []⟩ n
    | some '[' =>
      let item ← bracketed
      branches outer { b with items := item :: b.items } n
    | some '?' => branches outer (← repeatMarked b 0 (some 1)) n
    | some '*' => branches outer (← repeatMarked b 0 none) n
    | some '+' => branches outer (← repeatMarked b 1 none) n
    | some '\x7b' => branches outer (← repeatCounted b) n
    | some _ =>
      let item ← primitive
      branches outer { b with items := Primitive.toAst item :: b.items } n

end Reader

/-! ### Depth -/

/-- The span at which one more level would pass the limit. -/
def deeper? (limit depth : Nat) (span : Span) : Option Span := if depth < limit then none else some span

mutual

/-- The first entry of a class, from outside and from the left, that lies deeper than the limit. -/
def ClassItem.tooDeep? (limit depth : Nat) : ClassItem → Option Span
  | .bracketed span _ body =>
    (deeper? limit depth span).orElse fun _ => body.tooDeep? limit (depth + 1)
  | _ => none

/-- The first part of a class's inside that lies deeper than the limit. -/
def ClassBody.tooDeep? (limit depth : Nat) : ClassBody → Option Span
  | .union _ [] => none
  | .union _ [item] => item.tooDeep? limit depth
  | .union span items =>
    (deeper? limit depth span).orElse fun _ => ClassItem.anyTooDeep? limit (depth + 1) items
  | .operation span _ left right =>
    (deeper? limit depth span).orElse fun _ =>
      (left.tooDeep? limit (depth + 1)).orElse fun _ => right.tooDeep? limit (depth + 1)

/-- The first of several entries that lies deeper than the limit. -/
def ClassItem.anyTooDeep? (limit depth : Nat) : List ClassItem → Option Span
  | [] => none
  | item :: items => (item.tooDeep? limit depth).orElse fun _ =>
    ClassItem.anyTooDeep? limit depth items

end

mutual

/-- The first part of a tree, from outside and from the left, that lies deeper than the limit. -/
def Ast.tooDeep? (limit depth : Nat) : Ast → Option Span
  | .bracketed span _ body =>
    (deeper? limit depth span).orElse fun _ => body.tooDeep? limit (depth + 1)
  | .repetition span _ _ _ body | .group span _ body =>
    (deeper? limit depth span).orElse fun _ => body.tooDeep? limit (depth + 1)
  | .alternation span parts | .concat span parts =>
    (deeper? limit depth span).orElse fun _ => Ast.anyTooDeep? limit (depth + 1) parts
  | _ => none

/-- The first of several trees that lies deeper than the limit. -/
def Ast.anyTooDeep? (limit depth : Nat) : List Ast → Option Span
  | [] => none
  | part :: parts => (part.tooDeep? limit depth).orElse fun _ => Ast.anyTooDeep? limit depth parts

end

/-- The number of levels that a pattern may nest. -/
def nestLimit : Nat := 250

/-- Reads a pattern as a tree. -/
def Ast.parse (pattern : List Char) : Except Error Ast :=
  match (Reader.branches none ⟨0, 0, [], []⟩ (pattern.length + 1)).run
      ⟨pattern, 0, false, 0, []⟩ with
  | .error e _ => .error e
  | .ok ast _ =>
    match ast.tooDeep? nestLimit 0 with
    | some span => .error (.malformed (.nestLimitExceeded nestLimit) span none)
    | none => .ok ast

end FoxScript.Regex
