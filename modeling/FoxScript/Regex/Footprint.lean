import FoxScript.Regex.Node
import FoxScript.Unicode.ByteRange
import Std.Data.HashMap

/-!
# The size of patterns

A pattern may be used if two automata on bytes are small enough: one that reads a text forwards and
keeps the places of groups, and one that reads it backwards. The automata are not built here; their
states are only counted, and the bytes that the states take. A state takes 32 bytes, and more for
what it leads to: 8 for each of several ranges of bytes, and 4 for each way of a choice.
-/
namespace FoxScript.Regex

open Unicode (CodeSet)

/-- How an automaton reads a text. -/
inductive Direction
  /-- From its start to its end. -/
  | forward
  /-- From its end to its start. -/
  | backward
  deriving DecidableEq, Repr

/-- What the states so far take. -/
structure Footprint where
  /-- The number of states. -/
  states : Nat
  /-- The number of bytes. -/
  bytes : Nat
  deriving DecidableEq, Repr

/-- The number of bytes that an automaton may take. -/
def sizeLimit : Nat := 10485760

/-- Counting states, which fails as soon as they take too much. -/
abbrev Tally := StateT Footprint Option

namespace Tally

/-- Counts bytes. -/
def grow (bytes : Nat) : Tally Unit := fun f =>
  if f.bytes + bytes ≤ sizeLimit then some ((), { f with bytes := f.bytes + bytes }) else none

/-- Counts a state that takes `extra` bytes more than the least one, and gives its number. -/
def state (extra : Nat) : Tally Nat := do
  grow (32 + extra)
  modifyGet fun f => (f.states, { f with states := f.states + 1 })

/-- Counts the link from the last state of a part to what comes next. It takes bytes if that state
is a choice. -/
def link (isChoice : Bool) : Tally Unit := if isChoice then grow 4 else return ()

/-- Counts `n` further copies of a part, each linked to the one before it, of which the first
follows a state that is a choice or not. -/
def chain (part : Tally Bool) (isChoice : Bool) : Nat → Tally Bool
  | 0 => return isChoice
  | n + 1 => do
    let next ← part
    link isChoice
    chain part next n

/-- Counts `n` copies of a part, or a single state if there are none. -/
def copies (part : Tally Bool) : Nat → Tally Bool
  | 0 => do
    discard (state 0)
    return false
  | n + 1 => do chain part (← part) n

/-- Counts `n` further copies of a part, each of which can be left out. -/
def options (part : Tally Bool) (isChoice : Bool) : Nat → Tally Bool
  | 0 => return isChoice
  | n + 1 => do
    discard (state 8)
    let next ← part
    link isChoice
    options part next n

end Tally

open Tally

/-! ### Sets -/

/-- Ways from a state: a range of bytes and the number of the state that it leads to. -/
structure Arc where
  /-- The least byte. -/
  low : Nat
  /-- The greatest byte. -/
  high : Nat
  /-- The number of the state. -/
  next : Nat
  deriving DecidableEq, Repr

/-- A number that spreads lists of numbers over 64 bits. -/
def fingerprint (ns : List Nat) : UInt64 :=
  ns.foldl (fun h n => (h ^^^ UInt64.ofNat n) * 1099511628211) 14695981039346656037

/-- The fingerprint of the ways from a state. -/
def arcsFingerprint (arcs : List Arc) : UInt64 :=
  fingerprint (arcs.flatMap fun a => [a.low, a.high, a.next])

/-- States that can be used again, by the place where their kind belongs. A place has room for one
state, and a later one takes the room of an earlier one. -/
abbrev Shared (κ : Type) := Std.HashMap UInt64 (κ × Nat)

/-- Gives the number of a state of the kind `key`: of a known one, or else of a new one that takes
`extra` bytes more than the least one. -/
def share {κ : Type} [DecidableEq κ] (place : UInt64) (key : κ) (extra : Nat) :
    StateT (Shared κ) Tally Nat := do
  let fresh : StateT (Shared κ) Tally Nat := do
    let id ← state extra
    modify (·.insert place (key, id))
    return id
  match (← get)[place]? with
  | some (other, id) => if other = key then return id else fresh
  | none => fresh

/-- A state to which ways are still added: the ways that lead to finished states, the last one
first, and the bytes of the way that leads to the next state under construction. -/
structure Growing where
  /-- The finished ways, the last one first. -/
  arcs : List Arc
  /-- The bytes of the way under construction. -/
  last : Option (Nat × Nat)

/-- The ways of a state, the last of which leads to `next`. -/
def Growing.close (g : Growing) (next : Nat) : List Arc :=
  match g.last with
  | some (low, high) => ⟨low, high, next⟩ :: g.arcs
  | none => g.arcs

/-- Finishes the states under construction, of which each leads to the one after it and the last one
to `target`; gives the number of the first. -/
def finish (target : Nat) : List Growing → StateT (Shared (List Arc)) Tally Nat
  | [] => return target
  | g :: gs => do
    let arcs := (g.close (← finish target gs)).reverse
    share (arcsFingerprint arcs % 10000) arcs (8 * arcs.length)

/-- Adds a sequence of byte ranges, which is greater than all before it. The states that it has not
in common with the sequence before it are new, and those of the latter are finished. -/
def addSequence (target : Nat) :
    List Growing → List (Nat × Nat) → StateT (Shared (List Arc)) Tally (List Growing)
  | g :: gs, r :: rs => do
    if g.last = some r then return g :: (← addSequence target gs rs)
    else
      let next ← finish target gs
      return ⟨g.close next, some r⟩ :: rs.map fun r => ⟨[], some r⟩
  | _, rs => return rs.map fun r => ⟨[], some r⟩

/-- Counts the states that read a character of a set forwards. Equal ends of sequences share states,
and so do equal starts. -/
def tallyForward (set : CodeSet) : Tally Unit := do
  let target ← state 0
  let build : StateT (Shared (List Arc)) Tally Nat := do
    finish target (← set.byteSequences.foldlM (addSequence target) [⟨[], none⟩])
  discard (build.run ∅)

/-- Counts the states that read a character of a set backwards. Each sequence is a way of a choice;
equal starts of sequences share states. -/
def tallyBackward (set : CodeSet) : Tally Unit := do
  discard (state 0)
  let target ← state 0
  let build : StateT (Shared (List Nat)) Tally Unit :=
    set.byteSequences.forM fun sequence => do
      discard <| sequence.foldlM (fun next (low, high) =>
        let key := [next, low, high]
        share (fingerprint key % 1000) key 0) target
      grow 4
  discard (build.run ∅)

/-- Counts the states that read a character of a set. ASCII characters are single bytes. -/
def tallySet (d : Direction) (set : CodeSet) : Tally Unit := do
  if set.isAscii then
    discard (state 0)
    discard (state (8 * set.ranges.size))
  else
    match d with
    | .forward => tallyForward set
    | .backward => tallyBackward set

/-! ### Choices between texts -/

/-- A tree of texts, as a row of entries for what comes at one place of them. -/
inductive Trie
  /-- No entry. -/
  | nil
  /-- A text ends, and the entries of `rest` come after it. -/
  | stop (rest : Trie)
  /-- A byte, what comes after it, and further entries. -/
  | step (byte : UInt8) (sub rest : Trie)

namespace Trie

/-- Whether a text ends at some entry of the row. -/
def hasStop : Trie → Bool
  | .nil => false
  | .stop _ => true
  | .step _ _ rest => rest.hasStop

/-- Whether some entry of the row is a byte. -/
def hasStep : Trie → Bool
  | .nil => false
  | .stop rest => rest.hasStep
  | .step .. => true

/-- Adds the end of a text to the row. -/
def addStop : Trie → Trie
  | .nil => .stop .nil
  | .stop rest => .stop rest.addStop
  | .step byte sub rest => .step byte sub rest.addStop

/-- Changes what comes after a byte. Entries before the end of a text stay as they are. -/
def update (byte : UInt8) (change : Trie → Trie) : Trie → Trie
  | .nil => .step byte (change .nil) .nil
  | .stop rest => .stop (update byte change rest)
  | .step b sub rest =>
    if b = byte && !rest.hasStop then .step b (change sub) rest
    else .step b sub (update byte change rest)

/-- Adds a text. -/
def insert : List UInt8 → Trie → Trie
  | [], t => if t.hasStop && !t.hasStep then t else t.addStop
  | byte :: bytes, t => t.update byte (insert bytes)

/-- Counts the state for a run of so many bytes in a row, and its link from the choice of the
row. -/
def tallyRun (count : Nat) : Tally Unit := do
  if count ≠ 0 then
    discard (state (if count = 1 then 0 else 8 * count))
    grow 4

/-- Counts the states of a row, in which `count` bytes came since the last end of a text, but not
the choice between them. -/
def tally (count : Nat) : Trie → Tally Unit
  | .nil => tallyRun count
  | .stop rest => do
    tallyRun count
    grow 4
    rest.tally 0
  | .step _ sub rest => do
    if sub.hasStep then
      sub.tally 0
      discard (state 0)
    rest.tally (count + 1)

end Trie

/-- The bytes of a text in the order in which they are read. -/
def Direction.bytes (d : Direction) (text : List Char) : List UInt8 :=
  let bytes := text.flatMap String.utf8EncodeChar
  match d with
  | .forward => bytes
  | .backward => bytes.reverse

/-- Counts the states of a choice between texts. -/
def tallyTexts (d : Direction) (texts : List (List Char)) : Tally Unit := do
  discard (state 0)
  (texts.foldl (fun t text => t.insert (d.bytes text)) Trie.nil).tally 0
  discard (state 0)

/-! ### Nodes -/

namespace Node

/-- The text of a node that is one. -/
def text? : Node → Option (List Char)
  | .literal text => some text
  | _ => none

mutual

/-- Counts the states of a node, and tells whether its last state is a choice. -/
def tally (d : Direction) : Node → Tally Bool
  | .empty | .look _ => do
    discard (state 0)
    return false
  | .literal text => do
    (d.bytes text).forM fun _ => discard (state 0)
    return false
  | .chars set => do
    tallySet d set
    return false
  | .capture _ body =>
    match d with
    | .backward => body.tally d
    | .forward => do
      discard (state 0)
      let last ← body.tally d
      discard (state 0)
      link last
      return false
  | .repetition least (some most) _ body => do
    if least = 0 && most = 1 then
      discard (state 8)
      let last ← body.tally d
      discard (state 0)
      link last
      return false
    else
      let last ← copies (body.tally d) least
      if least = most then return last
      else
        discard (state 0)
        link (← options (body.tally d) last (most - least))
        return false
  | .repetition 0 none _ body => do
    if body.canBeEmpty then
      let last ← body.tally d
      discard (state 8)
      link last
      discard (state 8)
      discard (state 0)
      return false
    else
      discard (state 4)
      link (← body.tally d)
      return true
  | .repetition 1 none _ body => do
    link (← body.tally d)
    discard (state 4)
    return true
  | .repetition (least + 1) none _ body => do
    let before ← copies (body.tally d) least
    let last ← body.tally d
    link before
    link last
    discard (state 4)
    return true
  | .concat items => tallySequence d items
  | .alternation branches =>
    match branches.mapM text? with
    | some texts => do
      tallyTexts d texts
      return false
    | none => do
      tallyBranches d 0 branches
      return false

/-- Counts the states of nodes one after another, and tells whether the last state is a choice. -/
def tallySequence (d : Direction) : List Node → Tally Bool
  | [] => do
    discard (state 0)
    return false
  | [node] => node.tally d
  | node :: nodes => do
    match d with
    | .forward =>
      link (← node.tally d)
      tallySequence d nodes
    | .backward =>
      link (← tallySequence d nodes)
      node.tally d

/-- Counts the states of the ways of a choice, of which `count` came before. The states between the
ways and the end of the choice come after the second one. -/
def tallyBranches (d : Direction) (count : Nat) : List Node → Tally Unit
  | [] => return ()
  | node :: nodes => do
    link (← node.tally d)
    if count = 1 then
      discard (state 0)
      discard (state 0)
    grow 4
    tallyBranches d (count + 1) nodes

end

mutual

/-- Whether every match starts at the start of the text, as conditions that all matches meet say. -/
def startsAtStart : Node → Bool
  | .look kind => kind == .start
  | .empty | .literal _ | .chars _ => false
  | .repetition least _ _ body => least != 0 && body.startsAtStart
  | .capture _ body => body.startsAtStart
  | .concat items => sequenceStartsAtStart items
  | .alternation branches => allStartAtStart branches

/-- Whether every match of nodes one after another starts at the start of the text. -/
def sequenceStartsAtStart : List Node → Bool
  | [] => false
  | node :: nodes =>
    node.startsAtStart || (node.matchesOnlyEmpty && sequenceStartsAtStart nodes)

/-- Whether every match of every node of a list starts at the start of the text. -/
def allStartAtStart : List Node → Bool
  | [] => true
  | node :: nodes => node.startsAtStart && allStartAtStart nodes

end

mutual

/-- Whether every match ends at the end of the text, as conditions that all matches meet say. -/
def stopsAtStop : Node → Bool
  | .look kind => kind == .stop
  | .empty | .literal _ | .chars _ => false
  | .repetition least _ _ body => least != 0 && body.stopsAtStop
  | .capture _ body => body.stopsAtStop
  | .concat items => sequenceStopsAtStop items
  | .alternation branches => allStopAtStop branches

/-- Whether every match of nodes one after another ends at the end of the text. -/
def sequenceStopsAtStop : List Node → Bool
  | [] => false
  | node :: nodes =>
    sequenceStopsAtStop nodes || (allMatchOnlyEmpty nodes && node.stopsAtStop)

/-- Whether every match of every node of a list ends at the end of the text. -/
def allStopAtStop : List Node → Bool
  | [] => true
  | node :: nodes => node.stopsAtStop && allStopAtStop nodes

end

/-- Counts the states of the whole automaton for a node. It starts with states that skip a part of
the text, unless every match lies at the end of the text at which reading begins. -/
def tallyWhole (d : Direction) (node : Node) : Tally Unit := do
  let anchored := match d with
    | .forward => node.startsAtStart
    | .backward => node.stopsAtStop
  if anchored then
    discard (state 0)
  else
    discard (state 8)
    discard (state 0)
    discard (state 8)
  link (← (Node.capture 0 node).tally d)
  discard (state 0)

/-- Whether the automata for a node are small enough. A choice between three thousand texts or more
needs none. -/
def fits (node : Node) : Bool :=
  let isVocabulary := match node with
    | .alternation branches => 3000 ≤ branches.length && branches.all fun b => b.text?.isSome
    | _ => false
  isVocabulary ||
    [Direction.forward, .backward].all fun d => ((node.tallyWhole d).run ⟨0, 0⟩).isSome

end Node

end FoxScript.Regex
