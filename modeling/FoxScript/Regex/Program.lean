import FoxScript.Regex.Footprint
import FoxScript.Regex.Meaning

/-!
# Programs of patterns

A `Node` becomes a list of instructions that refer to each other by number. An instruction passes
over a character, tests the place, keeps the place, or offers two ways to go on, the better first.
-/
namespace FoxScript.Regex

open Unicode (CodeSet)

/-- An instruction. -/
inductive Instruction
  /-- Passes over a character of the set. -/
  | chars (set : CodeSet) (next : Nat)
  /-- Goes on if the condition holds. -/
  | look (kind : Look) (next : Nat)
  /-- Keeps the place in a slot. -/
  | save (slot next : Nat)
  /-- Tries `first`, and `second` if that leads to no match. -/
  | split (first second : Nat)
  /-- A match is found. -/
  | done

/-- Instructions under construction. -/
abbrev Builder := StateM (Array Instruction)

namespace Builder

/-- Adds an instruction and gives its number. -/
def emit (i : Instruction) : Builder Nat :=
  modifyGet fun code => (code.size, code.push i)

/-- Adds a choice between `body` and `next`, in the order that greed asks for. -/
def fork (greedy : Bool) (body next : Nat) : Instruction :=
  if greedy then .split body next else .split next body

/-- Runs `body` so many times, one before the other, and then `next`. -/
def copies (body : Nat → Builder Nat) (next : Nat) : Nat → Builder Nat
  | 0 => return next
  | n + 1 => do body (← copies body next n)

/-- Runs `body` up to so many times and then `next`. -/
def optional (greedy : Bool) (body : Nat → Builder Nat) (next : Nat) : Nat → Builder Nat
  | 0 => return next
  | n + 1 => do
    let inner ← body (← optional greedy body next n)
    emit (fork greedy inner next)

/-- Runs `body` once or more and then `next`; gives the number of the first instruction of `body`
and that of the choice after it. -/
def oneOrMore (greedy : Bool) (body : Nat → Builder Nat) (next : Nat) : Builder (Nat × Nat) := do
  let loop ← emit .done
  let start ← body loop
  modify fun code => code.set! loop (fork greedy start next)
  return (start, loop)

end Builder

open Builder

mutual

/-- Adds the instructions of a node, which go on at `next`; gives the number of the first. -/
def Node.compile : Node → Nat → Builder Nat
  | .empty, next => return next
  | .literal text, next => text.foldrM (fun c next => emit (.chars (.single c.toNat) next)) next
  | .chars set, next => emit (.chars set next)
  | .look kind, next => emit (.look kind next)
  | .capture index body, next => do
    let stop ← emit (.save (2 * index + 1) next)
    let start ← body.compile stop
    emit (.save (2 * index) start)
  | .repetition least most greedy body, next =>
    match most with
    | some most => do copies body.compile (← optional greedy body.compile next (most - least)) least
    | none =>
      if least = 0 then do
        let (start, loop) ← oneOrMore greedy body.compile next
        if body.canBeEmpty then emit (fork greedy start next) else return loop
      else do
        let (start, _) ← oneOrMore greedy body.compile next
        copies body.compile start (least - 1)
  | .concat items, next => Node.compileAll items next
  | .alternation branches, next => Node.compileAny branches next

/-- Adds the instructions of several nodes, one after the other. -/
def Node.compileAll : List Node → Nat → Builder Nat
  | [], next => return next
  | node :: nodes, next => do node.compile (← Node.compileAll nodes next)

/-- Adds the instructions of several nodes, of which the first that leads to a match is meant. -/
def Node.compileAny : List Node → Nat → Builder Nat
  | [], next => return next
  | [node], next => node.compile next
  | node :: nodes, next => do
    let second ← Node.compileAny nodes next
    let first ← node.compile next
    emit (.split first second)

end

/-- A pattern ready for searching. -/
structure Program where
  /-- The instructions. -/
  code : Array Instruction
  /-- The number of the first one. -/
  start : Nat
  /-- The numbers of the named groups. -/
  names : List (String × Nat)

/-- Makes a pattern ready for searching, or tells why it cannot be used. -/
def Program.ofPattern (pattern : List Char) : Except Error Program := do
  let ast ← Ast.parse pattern
  let (node, _) ← ast.toNode {}
  if !node.fits then throw (.tooLarge sizeLimit)
  let (start, code) := ((node.compile 0).run #[.done] : Nat × Array Instruction)
  return ⟨code, start, ast.groupNames⟩

end FoxScript.Regex
