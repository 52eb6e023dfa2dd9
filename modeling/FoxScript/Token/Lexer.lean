import FoxScript.Diagnostic
import FoxScript.Number.Numeral

/-!
# Reading a text as tokens

`read` looks at the front of a text and tells what stands there and how many characters it takes.
`scan` does so from one end of the text to the other: each character belongs to a token, to a fault
or to the layout between them. A fault does not stop the scan.
-/
namespace FoxScript.Lexer

/-- What stands at the front of a text. -/
inductive Reading
  /-- Blank characters or a comment. -/
  | layout
  /-- A token. -/
  | token (kind : TokenKind) (literal : Option Literal)
  /-- Something that is no token. -/
  | fault (f : SyntaxFault)

/-- Whether a name can start with the character. -/
def isNameStart (c : Char) : Bool := c.isAlpha || c == '_'

/-- Whether a name can go on with the character. -/
def isNamePart (c : Char) : Bool := c.isAlphanum || c == '_'

/-- Whether the character separates tokens and is nothing else. -/
def isLayout (c : Char) : Bool := c == ' ' || c == '\t' || c == '\r' || c == '\n'

/-- The kind of a name. -/
def nameKind : String → TokenKind
  | "_" => .underscore
  | "and" => .and
  | "assign" => .assign
  | "break" => .break
  | "defun" => .defun
  | "false" => .false
  | "import" => .import
  | "match" => .match
  | "null" => .null
  | "or" => .or
  | "true" => .true
  | "var" => .var
  | "while" => .while
  | _ => .identifier

/-- How many characters from the front satisfy `p`. -/
def runLength (p : Char → Bool) (cs : List Char) : Nat := (cs.takeWhile p).length

/-- How many characters are left up to the end of the line. -/
def lineLength (cs : List Char) : Nat := runLength (· != '\n') cs

/-- How many characters are left of comments nested `depth + 1` deep, which end at their marks or
with the text. -/
def commentLength (depth : Nat) : List Char → Nat
  | [] => 0
  | '/' :: '*' :: cs => commentLength (depth + 1) cs + 2
  | '*' :: '/' :: cs =>
    match depth with
    | 0 => 2
    | depth + 1 => commentLength depth cs + 2
  | _ :: cs => commentLength depth cs + 1

/-- How many characters follow the first digit of a number. A point belongs to it only before
another digit. -/
def numberLength (cs : List Char) : Nat :=
  let whole := runLength Char.isDigit cs
  match cs.drop whole with
  | '.' :: d :: rest =>
    if d.isDigit then whole + 2 + runLength Char.isDigit rest else whole
  | _ => whole

/-- Reads what follows the opening quote of a text. -/
def readText (cs : List Char) : Reading × Nat :=
  let inside := cs.takeWhile (· != '"')
  if inside.length < cs.length then
    (.token .string (some (.text (String.ofList inside))), inside.length + 1)
  else (.fault .unclosedText, cs.length)

/-- Reads a number whose first digit is `c`. -/
def readNumber (c : Char) (cs : List Char) : Reading × Nat :=
  let n := numberLength cs
  let x := (Number.read? (String.ofList (c :: cs.take n))).getD Number.infinity
  (.token .number (some (.number x)), n)

/-- Reads a name whose first character is `c`. -/
def readName (c : Char) (cs : List Char) : Reading × Nat :=
  let n := runLength isNamePart cs
  (.token (nameKind (String.ofList (c :: cs.take n))) none, n)

/-- Reads a mark that is longer if a certain character follows. -/
def readMark (cs : List Char) (next : Char) (long short : TokenKind) : Reading × Nat :=
  if cs.head? = some next then (.token long none, 1) else (.token short none, 0)

/-- What stands at the front of `c :: cs`, and how many characters of `cs` belong to it. -/
def read (c : Char) (cs : List Char) : Reading × Nat :=
  let mark (kind : TokenKind) : Reading × Nat := (.token kind none, 0)
  match c with
  | ' ' | '\t' | '\r' | '\n' => (.layout, 0)
  | '(' => mark .leftParen
  | ')' => mark .rightParen
  | '\x7b' => mark .leftBrace
  | '\x7d' => mark .rightBrace
  | '[' => mark .leftBracket
  | ']' => mark .rightBracket
  | ',' => mark .comma
  | ':' => mark .colon
  | '?' => mark .questionMark
  | '+' => mark .plus
  | '*' => mark .star
  | '|' => mark .pipe
  | '-' => readMark cs '>' .arrow .minus
  | '!' => readMark cs '=' .bangEqual .bang
  | '=' =>
    if cs.head? = some '=' then (.token .equalEqual none, 1)
    else readMark cs '>' .fatArrow .equal
  | '>' => readMark cs '=' .greaterEqual .greater
  | '<' => readMark cs '=' .lessEqual .less
  | '/' =>
    match cs with
    | '/' :: rest => (.layout, lineLength rest + 1)
    | '*' :: rest => (.layout, commentLength 0 rest + 1)
    | _ => mark .slash
  | '"' => readText cs
  | _ =>
    if c.isDigit then readNumber c cs
    else if isNameStart c then readName c cs
    else (.fault (.unexpectedCharacter c), 0)

/-- The text by which a message shows a fault: at most twenty characters. -/
def sample (cs : List Char) : String := String.ofList (cs.take 20)

/-- What the reading of `cs` at a place gives, if it gives anything. -/
def item? (p : Position) (cs : List Char) : Reading → Option (Except Diagnostic Token)
  | .layout => none
  | .token kind literal => some (.ok ⟨kind, String.ofList cs, literal, p⟩)
  | .fault f => some (.error (.syntactic ⟨sample cs, p⟩ f))

/-- Scans a text that starts at `p`. The first `skip` characters belong to what was read before. -/
def scanFrom (skip : Nat) (p : Position) : List Char → List (Except Diagnostic Token)
  | [] => []
  | c :: cs =>
    match skip with
    | skip + 1 => scanFrom skip (p.next c) cs
    | 0 =>
      let (reading, n) := read c cs
      let rest := scanFrom n (p.next c) cs
      match item? p (c :: cs.take n) reading with
      | some item => item :: rest
      | none => rest

/-- The tokens and the faults of a text, in order. -/
def scan (source : String) : List (Except Diagnostic Token) :=
  scanFrom 0 .start source.toList

/-- The tokens of a scan. -/
def tokens (items : List (Except Diagnostic Token)) : List Token := items.filterMap Except.toOption

/-- The faults of a scan. -/
def faults (items : List (Except Diagnostic Token)) : List Diagnostic :=
  items.filterMap fun
    | .error d => some d
    | .ok _ => none

end FoxScript.Lexer
