import FoxScript.Diagnostic
import FoxScript.Text.Utf8

/-!
# The console

What a program prints is collected as text. Its input passes through two buffers: lines that the
prompt reads come from the first, which is filled from the source; the program reads from the
second, which is filled from the first as long as that holds anything.
-/
namespace FoxScript

/-- Collected output. -/
structure Capture where
  /-- The text so far. -/
  text : String
  deriving Repr

namespace Capture

/-- No output. -/
def empty : Capture := ⟨""⟩

/-- Adds a text. -/
def print (c : Capture) (s : String) : Capture := ⟨c.text ++ s⟩

/-- Adds bytes, which are read as UTF-8 on their own; what is broken becomes U+FFFD. -/
def write (c : Capture) (bytes : List UInt8) : Capture :=
  c.print (String.ofList (Text.Utf8.decodeLossy bytes))

/-- The text so far, and no output in its place. -/
def take (c : Capture) : String × Capture := (c.text, empty)

end Capture

/-- A source of input: the bytes that are left. -/
structure Script where
  /-- The bytes that are left. -/
  remaining : List UInt8
  deriving Repr

/-- Reads at most so many bytes. -/
def Script.read (s : Script) (count : Nat) : List UInt8 × Script :=
  (s.remaining.take count, ⟨s.remaining.drop count⟩)

/-- The input of a console. -/
structure Input where
  /-- The bytes that the program's buffer holds. -/
  held : List UInt8
  /-- The bytes that the prompt's buffer holds. -/
  shared : List UInt8
  /-- The bytes that no buffer holds yet. -/
  waiting : Script
  deriving Repr

namespace Input

/-- The number of bytes that a buffer can hold. -/
def bufferSize : Nat := 8192

/-- The input with these bytes. -/
def ofBytes (bytes : List UInt8) : Input := ⟨[], [], ⟨bytes⟩⟩

/-- All bytes that are left, in the order in which a program that reads on gets them. -/
def bytes (i : Input) : List UInt8 := i.held ++ i.shared ++ i.waiting.remaining

/-- Fills the prompt's buffer if it is empty. -/
def fillShared (i : Input) : Input :=
  match i.shared with
  | [] =>
    let (bytes, waiting) := i.waiting.read bufferSize
    { i with shared := bytes, waiting := waiting }
  | _ => i

/-- Fills the program's buffer if it is empty: with what the prompt's buffer holds, or past that
buffer if it is empty. -/
def fillHeld (i : Input) : Input :=
  match i.held with
  | [] =>
    match i.shared with
    | [] =>
      let (bytes, waiting) := i.waiting.read bufferSize
      { i with held := bytes, waiting := waiting }
    | bytes => { i with held := bytes, shared := [] }
  | _ => i

/-- The first line of some bytes, with the line feed that ends it, and the rest. -/
def splitLine : List UInt8 → List UInt8 × List UInt8
  | [] => ([], [])
  | b :: bs =>
    if b = 10 then ([b], bs)
    else
      let (line, rest) := splitLine bs
      (b :: line, rest)

/-- The bytes up to a line feed or the end, read by the program, in at most so many fillings. -/
def heldLine : Nat → Input → List UInt8 × Input
  | 0, i => ([], i)
  | n + 1, i =>
    let i := i.fillHeld
    let (line, rest) := splitLine i.held
    let i := { i with held := rest }
    if line.isEmpty || line.getLast? == some 10 then (line, i)
    else
      let (more, i) := heldLine n i
      (line ++ more, i)

/-- The bytes up to a line feed or the end, read by the prompt, in at most so many fillings. -/
def sharedLine : Nat → Input → List UInt8 × Input
  | 0, i => ([], i)
  | n + 1, i =>
    let i := i.fillShared
    let (line, rest) := splitLine i.shared
    let i := { i with shared := rest }
    if line.isEmpty || line.getLast? == some 10 then (line, i)
    else
      let (more, i) := sharedLine n i
      (line ++ more, i)

/-- The bytes of a line as text. -/
def lineText (bytes : List UInt8) : Except IoFault (List Char) :=
  match Text.Utf8.decode? bytes with
  | some cs => .ok cs
  | none => .error .notUtf8

/-- The next line for the program, with its end. The bytes are gone also if they are no text. -/
def readLine (i : Input) : Except IoFault (List Char) × Input :=
  let (bytes, i) := heldLine (i.bytes.length + 1) i
  (lineText bytes, i)

/-- The next line for the prompt, with its end. -/
def promptLine (i : Input) : Except IoFault (List Char) × Input :=
  let (bytes, i) := sharedLine (i.bytes.length + 1) i
  (lineText bytes, i)

/-- Whether the byte is a space, tab, line feed, form feed or carriage return. -/
def isBlankByte (b : UInt8) : Bool := b == 32 || b == 9 || b == 10 || b == 12 || b == 13

/-- The next byte for the program that is not blank, found by taking at most so many. -/
def nextByte : Nat → Input → Option UInt8 × Input
  | 0, i => (none, i)
  | n + 1, i =>
    let i := i.fillHeld
    match i.held with
    | [] => (none, i)
    | b :: bs =>
      let i := { i with held := bs }
      if isBlankByte b then nextByte n i else (some b, i)

/-- The next byte for the program that is not blank. -/
def readByte (i : Input) : Option UInt8 × Input := nextByte (i.bytes.length + 1) i

end Input

end FoxScript
