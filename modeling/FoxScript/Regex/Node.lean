import FoxScript.Unicode.CodeSet

/-!
# Nodes of patterns

What a pattern stands for: texts, sets of characters, conditions on places, groups, and the ways to
put them together. The ways to put them together bring nodes into one form: texts side by side are
one text, a choice between characters is a set, and so on.
-/
namespace FoxScript.Regex

open Unicode (CodeSet)

/-- A condition on a place of the text. Where `unicode` is off, only ASCII characters make words. -/
inductive Look
  /-- The start of the text. -/
  | start
  /-- The end of the text. -/
  | stop
  /-- The start of a line; where `crlf` holds, a carriage return ends lines too. -/
  | lineStart (crlf : Bool)
  /-- The end of a line. -/
  | lineStop (crlf : Bool)
  /-- Exactly one side has a word character. -/
  | wordBoundary (unicode : Bool)
  /-- Both sides have a word character, or none has. -/
  | notWordBoundary (unicode : Bool)
  /-- Only the right side has a word character. -/
  | wordStart (unicode : Bool)
  /-- Only the left side has a word character. -/
  | wordEnd (unicode : Bool)
  /-- The left side has no word character. -/
  | wordStartHalf (unicode : Bool)
  /-- The right side has no word character. -/
  | wordEndHalf (unicode : Bool)
  deriving DecidableEq, Repr

/-- What a pattern stands for. -/
inductive Node
  /-- Nothing. -/
  | empty
  /-- One character or more. -/
  | literal (text : List Char)
  /-- A character of a set. -/
  | chars (set : CodeSet)
  /-- A condition on the place. -/
  | look (kind : Look)
  /-- At least `least` and at most `most` times the same, as many as possible if `greedy`. -/
  | repetition (least : Nat) (most : Option Nat) (greedy : Bool) (body : Node)
  /-- What it matches is kept under a number. -/
  | capture (index : Nat) (body : Node)
  /-- One after another. -/
  | concat (items : List Node)
  /-- The first that leads to a match. -/
  | alternation (branches : List Node)

namespace Node

/-! ### Lengths of matches -/

mutual

/-- Whether every match of the node has no character. -/
def matchesOnlyEmpty : Node → Bool
  | .empty | .look _ => true
  | .literal _ | .chars _ => false
  | .repetition _ most _ body => most == some 0 || body.matchesOnlyEmpty
  | .capture _ body => body.matchesOnlyEmpty
  | .concat items => allMatchOnlyEmpty items
  | .alternation branches => allMatchOnlyEmpty branches

/-- Whether every match of every node of a list has no character. -/
def allMatchOnlyEmpty : List Node → Bool
  | [] => true
  | node :: nodes => node.matchesOnlyEmpty && allMatchOnlyEmpty nodes

end

mutual

/-- The least number of characters of a match, or nothing if some part has no match at all. -/
def shortest? : Node → Option Nat
  | .empty | .look _ => some 0
  | .literal text => some text.length
  | .chars set => if set.ranges.isEmpty then none else some 1
  | .repetition least _ _ body => body.shortest?.map (least * ·)
  | .capture _ body => body.shortest?
  | .concat items => shortestSum? items
  | .alternation [] => none
  | .alternation (branch :: branches) => do shortestMin? (← branch.shortest?) branches

/-- The least number of characters of matches one after another. -/
def shortestSum? : List Node → Option Nat
  | [] => some 0
  | node :: nodes => do return (← node.shortest?) + (← shortestSum? nodes)

/-- The least of `n` and of the numbers of characters of matches of some nodes. -/
def shortestMin? (n : Nat) : List Node → Option Nat
  | [] => some n
  | node :: nodes => do shortestMin? (min n (← node.shortest?)) nodes

end

/-- Whether no match is known to need a character. -/
def canBeEmpty (node : Node) : Bool := node.shortest?.getD 0 == 0

/-! ### Equality -/

mutual

/-- Whether two nodes are the same. -/
def same : Node → Node → Bool
  | .empty, .empty => true
  | .literal s, .literal t => s == t
  | .chars s, .chars t => s == t
  | .look k, .look l => k == l
  | .repetition m n g a, .repetition m' n' g' b => m == m' && n == n' && g == g' && a.same b
  | .capture i a, .capture j b => i == j && a.same b
  | .concat as, .concat bs | .alternation as, .alternation bs => sameAll as bs
  | _, _ => false

/-- Whether two lists have the same nodes. -/
def sameAll : List Node → List Node → Bool
  | [], [] => true
  | a :: as, b :: bs => a.same b && sameAll as bs
  | _, _ => false

end

/-! ### Putting nodes together -/

/-- A character of a set. -/
def ofSet (set : CodeSet) : Node :=
  match set.single? with
  | some n => .literal [Char.ofNat n]
  | none => .chars set

/-- The nodes of which a node is made one after another. -/
def items : Node → List Node
  | .empty => []
  | .concat items => items
  | node => [node]

/-- Makes one text of texts side by side. -/
def joinTexts : List Node → List Node
  | [] => []
  | .literal s :: nodes =>
    match joinTexts nodes with
    | .literal t :: rest => .literal (s ++ t) :: rest
    | rest => .literal s :: rest
  | node :: nodes => node :: joinTexts nodes

/-- Some nodes one after another. -/
def sequence (nodes : List Node) : Node :=
  match joinTexts (nodes.flatMap items) with
  | [] => .empty
  | [node] => node
  | nodes => .concat nodes

/-- A repetition. What matches only the empty text need not be tried twice. -/
def repeated (least : Nat) (most : Option Nat) (greedy : Bool) (body : Node) : Node :=
  let once := body.matchesOnlyEmpty
  let least := if once then min least 1 else least
  let most := if once then some (min (most.getD 1) 1) else most
  if least = 0 && most == some 0 then .empty
  else if least = 1 && most == some 1 then body
  else .repetition least most greedy body

/-- The nodes between which a node is a choice. -/
def branches : Node → List Node
  | .alternation branches => branches
  | node => [node]

/-- The character of a text of one. -/
def char? : Node → Option Char
  | .literal [c] => some c
  | _ => none

/-- The set of a node that matches a character of a set. -/
def set? : Node → Option CodeSet
  | .chars set => some set
  | _ => none

/-- The set of the characters that some nodes match, if each node is a character, or each is a
set. -/
def mergedSet? (nodes : List Node) : Option CodeSet :=
  match nodes.mapM char? with
  | some cs => some (.ofRanges (cs.map fun c => ⟨c.toNat, c.toNat⟩))
  | none => (nodes.mapM set?).map fun sets => .ofRanges (sets.flatMap fun s => s.ranges.toList)

/-- How many nodes two lists have in common at their starts. -/
def commonLength : List Node → List Node → Nat
  | a :: as, b :: bs => if a.same b then commonLength as bs + 1 else 0
  | _, _ => 0

/-- The nodes with which all the others begin, if each of them is made of several. -/
def commonStart (nodes : List Node) : List Node :=
  let parts : List (List Node) := nodes.map fun
    | .concat items => items
    | _ => []
  match parts with
  | [] => []
  | first :: rest => first.take ((rest.map (commonLength first)).foldl min first.length)

/-- The first of some nodes that leads to a match. `factor` tells what becomes of several nodes that
are not all characters or sets. -/
def choiceBy (factor : List Node → Node) (nodes : List Node) : Node :=
  match nodes.flatMap branches with
  | [] => .chars ∅
  | [node] => node
  | nodes =>
    match mergedSet? nodes with
    | some set => ofSet set
    | none => factor nodes

/-- The first of some nodes that leads to a match. What all of them begin with is tried once. -/
def choice (nodes : List Node) : Node :=
  choiceBy (fun nodes =>
    match commonStart nodes with
    | [] => .alternation nodes
    | start =>
      let rests := nodes.map fun node => sequence (node.items.drop start.length)
      sequence (start ++ [choiceBy .alternation rests])) nodes

end Node

end FoxScript.Regex
