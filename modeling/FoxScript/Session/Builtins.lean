import FoxScript.Number.Numeral
import FoxScript.Regex.Search
import FoxScript.Session.Nested

/-!
# What the builtin functions do

Each function checks its arguments from left to right. A failure is one of the closing parenthesis
of the call.
-/
namespace FoxScript.Eval

/-- Fails in a builtin function. -/
def builtinFault {α : Type} (t : Token) (f : BuiltinFault) : Eval α := fail t (.builtin f)

/-- The text of an argument. -/
def textArg (t : Token) (b : Builtin) : Value → Eval String
  | .text s => return s
  | v => builtinFault t (.notText b.name v.kind)

/-- The elements of an argument. -/
def arrayArg (t : Token) (b : Builtin) : Value → Eval (Array Value)
  | .array a => readStore fun s => s.elements a
  | v => builtinFault t (.notArray b.name v.kind)

/-- The regular expression of an argument. -/
def patternArg (t : Token) (b : Builtin) (v : Value) : Eval Regex.Program := do
  let pattern ← textArg t b v
  match Regex.Program.ofPattern pattern.toList with
  | .ok p => return p
  | .error e => builtinFault t (.badPattern b.name pattern e)

/-- A line without the line feeds and carriage returns at its end. -/
def chompLine (cs : List Char) : String :=
  String.ofList (Text.dropEndWhile (fun c => c == '\r' || c == '\n') cs)

/-- Reads the next line. -/
def readLine (t : Token) : Eval Value := do
  match ← modifyGet fun s =>
    let (line, input) := s.input.readLine
    (line, { s with input := input }) with
  | .ok cs => return .text (chompLine cs)
  | .error cause => builtinFault t (.console cause)

/-- Reads the next byte that is not blank; at the end there is null. -/
def readByte : Eval Value := do
  match ← modifyGet fun s =>
    let (byte, input) := s.input.readByte
    (byte, { s with input := input }) with
  | some b => return .number (Float.ofNat b.toNat)
  | none => return .null

/-- The character with a code. -/
def charOfCode (t : Token) : Value → Eval Value
  | .number x =>
    let n := Number.toCode x
    if n.isValidChar then return .text (String.singleton (Char.ofNat n))
    else builtinFault t (.badCode x)
  | v => builtinFault t (.notCode v.kind)

/-- The number of characters of a text or of elements of an array. -/
def lengthOf (t : Token) : Value → Eval Value
  | .text s => return .number (Float.ofNat s.length)
  | .array a => do return .number (Float.ofNat (← readStore fun s => (s.elements a).size))
  | v => builtinFault t (.noLength v.kind)

/-- An array of so many nulls, if there is memory for it. -/
def arrayOfLength (t : Token) (v : Value) : Eval Value := do
  let invalid : Eval Value := do
    builtinFault t (.badCapacity (← readStore fun s => v.render s))
  match v with
  | .number x =>
    match Number.toWhole? x with
    | some n =>
      if n ≤ (← get).memory then newArray (Array.replicate n .null)
      else builtinFault t (.outOfMemory x)
    | none => invalid
  | _ => invalid

/-- The number that a value is, or that its text writes. -/
def numberOf (t : Token) (v : Value) : Eval Value := do
  match v with
  | .number _ => return v
  | _ =>
    let shown ← readStore fun s => v.render s
    match Number.read? (Text.trim shown) with
    | some x => return .number x
    | none => builtinFault t (.notNumeral shown)

/-- Calls a builtin function with arguments, of which there are as many as it has parameters. -/
def builtin (eval : Expr → Eval Value) (t : Token) (b : Builtin) (args : List Value) :
    Eval Value := do
  match b, args with
  | .clock, _ => return .number (← get).now
  | .print, [v] =>
    let text ← readStore fun s => v.render s
    print text
    return .text text
  | .println, [v] =>
    let text ← readStore fun s => v.render s
    print (text ++ "\n")
    return .text text
  | .input, [v] =>
    print (← readStore fun s => v.render s)
    readLine t
  | .getch, _ => readByte
  | .charToStr, [v] => charOfCode t v
  | .len, [v] => lengthOf t v
  | .eval, [v] =>
    let source ← textArg t b v
    settle t .failedEval (← runNested eval source (← get).baseDirectory)
  | .newArray, [v] => arrayOfLength t v
  | .set, [target, index, v] =>
    setElement t target index v
    return target
  | .merge, [v, w] =>
    let left ← arrayArg t b v
    let right ← arrayArg t b w
    newArray (left ++ right)
  | .split, [v, p] =>
    let text ← textArg t b v
    let pattern ← patternArg t b p
    newArray ((pattern.split text.toList).map fun cs => .text (String.ofList cs)).toArray
  | .replace, [v, p, r] =>
    let text ← textArg t b v
    let pattern ← patternArg t b p
    let replacement ← textArg t b r
    return .text (String.ofList (pattern.replaceAll text.toList replacement.toList))
  | .trim, [v] => return .text (Text.trim (← textArg t b v))
  | .typeOf, [v] => return .text v.kind.name
  | .toNumber, [v] => numberOf t v
  | _, _ => return .null

end FoxScript.Eval
