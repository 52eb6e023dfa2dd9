import FoxScript.Regex.Program
import Std.Data.HashSet

/-!
# Searching with patterns

The leftmost match is found by following the instructions depth first, the better way first. A pair
of an instruction and a place that led to no match once is not followed again. The text is split at
the matches, or the matches are replaced.
-/
namespace FoxScript.Regex

/-- Whether the character makes words. -/
def isWord (unicode : Bool) (c : Char) : Bool :=
  if unicode then Unicode.wordCharacter.contains c.toNat else c.isAlphanum || c == '_'

/-- Whether the condition holds at index `i` of the text. -/
def Look.holds (text : Array Char) (i : Nat) (look : Look) : Bool :=
  let before := if i = 0 then none else text[i - 1]?
  let after := text[i]?
  let words (unicode : Bool) : Bool × Bool := (before.any (isWord unicode), after.any (isWord unicode))
  match look with
  | .start => i == 0
  | .stop => i == text.size
  | .lineStart false => before.isNone || before == some '\n'
  | .lineStop false => after.isNone || after == some '\n'
  | .lineStart true =>
    before.isNone || before == some '\n' || (before == some '\r' && after != some '\n')
  | .lineStop true =>
    after.isNone || after == some '\r' || (after == some '\n' && before != some '\r')
  | .wordBoundary u => let (a, b) := words u; a != b
  | .notWordBoundary u => let (a, b) := words u; a == b
  | .wordStart u => let (a, b) := words u; !a && b
  | .wordEnd u => let (a, b) := words u; a && !b
  | .wordStartHalf u => !(words u).1
  | .wordEndHalf u => !(words u).2

/-- Kept places by slot. -/
abbrev Slots := List (Nat × Nat)

/-- A way that is still to be followed. -/
structure Job where
  /-- The number of the instruction. -/
  counter : Nat
  /-- The index in the text. -/
  place : Nat
  /-- The places kept so far. -/
  slots : Slots

/-- A match: where it starts and ends, and the places of its groups. -/
structure Match where
  /-- The index of the first character. -/
  start : Nat
  /-- The index after the last character. -/
  stop : Nat
  /-- The places kept on the way. -/
  slots : Slots

/-- Follows the jobs in turn until one ends in a match. Gives the place of its end with its slots,
and the pairs that were visited. -/
def follow (code : Array Instruction) (text : Array Char) :
    Nat → List Job → Std.HashSet Nat → Option (Nat × Slots) × Std.HashSet Nat
  | 0, _, visited => (none, visited)
  | _, [], visited => (none, visited)
  | n + 1, job :: jobs, visited =>
    let key := job.counter * (text.size + 1) + job.place
    if visited.contains key then follow code text n jobs visited
    else
      let visited := visited.insert key
      match code[job.counter]? with
      | none => follow code text n jobs visited
      | some .done => (some (job.place, job.slots), visited)
      | some (.split first second) =>
        follow code text n ({ job with counter := first } :: { job with counter := second } :: jobs)
          visited
      | some (.save slot next) =>
        follow code text n (⟨next, job.place, (slot, job.place) :: job.slots⟩ :: jobs) visited
      | some (.look kind next) =>
        if kind.holds text job.place then
          follow code text n ({ job with counter := next } :: jobs) visited
        else follow code text n jobs visited
      | some (.chars set next) =>
        if text[job.place]?.any fun c => set.contains c.toNat then
          follow code text n (⟨next, job.place + 1, job.slots⟩ :: jobs) visited
        else follow code text n jobs visited

/-- Follows the program from one place on. -/
def Program.tryAt (p : Program) (text : Array Char) (start : Nat) (visited : Std.HashSet Nat) :
    Option (Nat × Slots) × Std.HashSet Nat :=
  follow p.code text (2 * p.code.size * (text.size + 1) + 2) [⟨p.start, start, []⟩] visited

/-- Looks for a match that starts at `start` or at one of the places after it, so many in all. -/
def searchFrom (p : Program) (text : Array Char) :
    Nat → Nat → Std.HashSet Nat → Option Match
  | 0, _, _ => none
  | count + 1, start, visited =>
    match p.tryAt text start visited with
    | (some (stop, slots), _) => some ⟨start, stop, slots⟩
    | (none, visited) => searchFrom p text count (start + 1) visited

/-- The first match that starts at `start` or later. -/
def Program.find? (p : Program) (text : Array Char) (start : Nat) : Option Match :=
  searchFrom p text (text.size + 1 - start) start ∅

/-- The matches from `start` on. A match of no character directly after the match before, which
ended at `last`, does not count. -/
def matchesFrom (p : Program) (text : Array Char) (start : Nat) (last : Option Nat) :
    Nat → List Match
  | 0 => []
  | n + 1 =>
    let found := match p.find? text start with
      | some m =>
        if m.start = m.stop && last == some m.stop then p.find? text (start + 1) else some m
      | none => none
    match found with
    | none => []
    | some m => m :: matchesFrom p text m.stop (some m.stop) n

/-- The matches of a pattern in a text, from left to right. -/
def Program.findAll (p : Program) (text : Array Char) : List Match :=
  matchesFrom p text 0 none (text.size + 2)

/-- The characters from index `start` up to but not including `stop`. -/
def slice (text : Array Char) (start stop : Nat) : List Char := (text.extract start stop).toList

/-- The parts of the text between the matches. -/
def Program.split (p : Program) (text : List Char) : List (List Char) :=
  let chars := text.toArray
  go chars 0 (p.findAll chars)
where
  /-- Cuts the text from `start` on. -/
  go (chars : Array Char) (start : Nat) : List Match → List (List Char)
    | [] => [slice chars start chars.size]
    | m :: ms => slice chars start m.start :: go chars m.stop ms

/-! ### Replacement -/

/-- A piece of a replacement. -/
inductive Piece
  /-- A character that stands for itself. -/
  | char (c : Char)
  /-- The text of the group with a number. -/
  | number (n : Nat)
  /-- The text of the group with a name. -/
  | name (s : String)
  deriving DecidableEq, Repr

/-- Whether the character can stand in a reference without braces. -/
def isReferenceChar (c : Char) : Bool := c.isAlphanum || c == '_'

/-- The group that a reference means: a number below 2 ^ 64 in digits, possibly after a plus sign,
or a name. -/
def Piece.reference (cs : List Char) : Piece :=
  let digits := match cs with
    | '+' :: rest => rest
    | _ => cs
  let n := digits.foldl (fun n c => n * 10 + (c.toNat - 48)) 0
  if !digits.isEmpty && digits.all Char.isDigit && n < 18446744073709551616 then .number n
  else .name (String.ofList cs)

/-- Reads a replacement: two dollar signs stand for one, and a dollar sign before a name, or before
a name in braces, for the text of a group. -/
def pieces : Nat → List Char → List Piece
  | 0, _ => []
  | _, [] => []
  | n + 1, '$' :: '$' :: rest => .char '$' :: pieces n rest
  | n + 1, '$' :: '\x7b' :: rest =>
    let name := rest.takeWhile (· != '\x7d')
    match rest.drop name.length with
    | _ :: after => .reference name :: pieces n after
    | [] => .char '$' :: pieces n ('\x7b' :: rest)
  | n + 1, '$' :: rest =>
    let name := rest.takeWhile isReferenceChar
    if name.isEmpty then .char '$' :: pieces n rest
    else .reference name :: pieces n (rest.drop name.length)
  | n + 1, c :: rest => .char c :: pieces n rest

/-- The text that a group matched, which is empty if the group took no part. -/
def Match.group (m : Match) (text : Array Char) (n : Nat) : List Char :=
  if n = 0 then slice text m.start m.stop
  else
    match m.slots.lookup (2 * n), m.slots.lookup (2 * n + 1) with
    | some start, some stop => slice text start stop
    | _, _ => []

/-- The text that stands in the place of a match. -/
def Match.expand (m : Match) (names : List (String × Nat)) (text : Array Char) (ps : List Piece) :
    List Char :=
  ps.flatMap fun
    | .char c => [c]
    | .number n => m.group text n
    | .name s => ((names.lookup s).map (m.group text)).getD []

/-- The text with every match replaced. -/
def Program.replaceAll (p : Program) (text replacement : List Char) : List Char :=
  let chars := text.toArray
  go chars (pieces replacement.length replacement) 0 (p.findAll chars)
where
  /-- Replaces the matches in the text from `start` on. -/
  go (chars : Array Char) (ps : List Piece) (start : Nat) : List Match → List Char
    | [] => slice chars start chars.size
    | m :: ms => slice chars start m.start ++ m.expand p.names chars ps ++ go chars ps m.stop ms

end FoxScript.Regex
