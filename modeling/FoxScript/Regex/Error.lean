import FoxScript.Regex.Syntax

/-!
# Errors in regular expressions

Why a pattern is refused, and the report on it: the pattern with marks under the characters at
fault, and a sentence.
-/
namespace FoxScript.Regex

/-- What is wrong with a pattern. -/
inductive Fault
  /-- An escape that has no place in a class. -/
  | classEscapeInvalid
  /-- A range whose end comes before its start. -/
  | classRangeInvalid
  /-- A range between things that are not characters. -/
  | classRangeLiteral
  /-- A class without its closing bracket. -/
  | classUnclosed
  /-- A number without digits. -/
  | decimalEmpty
  /-- A number that is too large. -/
  | decimalInvalid
  /-- A number in braces without digits. -/
  | escapeHexEmpty
  /-- A number that is no character. -/
  | escapeHexInvalid
  /-- A character that is no digit of base sixteen. -/
  | escapeHexInvalidDigit
  /-- A backslash with nothing after it. -/
  | escapeUnexpectedEnd
  /-- A letter that names no escape. -/
  | escapeUnrecognized
  /-- A minus sign with no flag after it. -/
  | flagDanglingNegation
  /-- A flag given twice. -/
  | flagDuplicate
  /-- A minus sign given twice. -/
  | flagRepeatedNegation
  /-- Flags that never end. -/
  | flagUnexpectedEnd
  /-- A letter that names no flag. -/
  | flagUnrecognized
  /-- Two groups of one name. -/
  | groupNameDuplicate
  /-- A group name without characters. -/
  | groupNameEmpty
  /-- A character that no group name has. -/
  | groupNameInvalid
  /-- A group name that never ends. -/
  | groupNameUnexpectedEnd
  /-- A group without its closing parenthesis. -/
  | groupUnclosed
  /-- A closing parenthesis without a group. -/
  | groupUnopened
  /-- Groups and classes nested too deep. -/
  | nestLimitExceeded (limit : Nat)
  /-- A repetition whose most is below its least. -/
  | repetitionCountInvalid
  /-- A repetition without a number. -/
  | repetitionCountDecimalEmpty
  /-- A repetition without its closing brace. -/
  | repetitionCountUnclosed
  /-- A repetition of nothing. -/
  | repetitionMissing
  /-- A special word boundary without its closing brace. -/
  | specialWordBoundaryUnclosed
  /-- A special word boundary of an unknown name. -/
  | specialWordBoundaryUnrecognized
  /-- An opening brace after a word boundary at the end of the pattern. -/
  | specialWordOrRepetitionUnexpectedEnd
  /-- A property class named by a backslash. -/
  | unicodeClassInvalid
  /-- A reference to an earlier group. -/
  | unsupportedBackreference
  /-- A condition on the text before or after. -/
  | unsupportedLookAround
  /-- A property class where Unicode is switched off. -/
  | unicodeNotAllowed
  /-- A class or byte that could match a part of a character. -/
  | invalidUtf8
  /-- An unknown property. -/
  | unicodePropertyNotFound
  /-- An unknown value of a property. -/
  | unicodePropertyValueNotFound
  deriving DecidableEq, Repr

/-- The sentence that states the fault. -/
def Fault.message : Fault → String
  | .classEscapeInvalid => "invalid escape sequence found in character class"
  | .classRangeInvalid => "invalid character class range, the start must be <= the end"
  | .classRangeLiteral => "invalid range boundary, must be a literal"
  | .classUnclosed => "unclosed character class"
  | .decimalEmpty => "decimal literal empty"
  | .decimalInvalid => "decimal literal invalid"
  | .escapeHexEmpty => "hexadecimal literal empty"
  | .escapeHexInvalid => "hexadecimal literal is not a Unicode scalar value"
  | .escapeHexInvalidDigit => "invalid hexadecimal digit"
  | .escapeUnexpectedEnd => "incomplete escape sequence, reached end of pattern prematurely"
  | .escapeUnrecognized => "unrecognized escape sequence"
  | .flagDanglingNegation => "dangling flag negation operator"
  | .flagDuplicate => "duplicate flag"
  | .flagRepeatedNegation => "flag negation operator repeated"
  | .flagUnexpectedEnd => "expected flag but got end of regex"
  | .flagUnrecognized => "unrecognized flag"
  | .groupNameDuplicate => "duplicate capture group name"
  | .groupNameEmpty => "empty capture group name"
  | .groupNameInvalid => "invalid capture group character"
  | .groupNameUnexpectedEnd => "unclosed capture group name"
  | .groupUnclosed => "unclosed group"
  | .groupUnopened => "unopened group"
  | .nestLimitExceeded limit =>
    s!"exceed the maximum number of nested parentheses/brackets ({limit})"
  | .repetitionCountInvalid => "invalid repetition count range, the start must be <= the end"
  | .repetitionCountDecimalEmpty => "repetition quantifier expects a valid decimal"
  | .repetitionCountUnclosed => "unclosed counted repetition"
  | .repetitionMissing => "repetition operator missing expression"
  | .specialWordBoundaryUnclosed =>
    "special word boundary assertion is either unclosed or contains an invalid character"
  | .specialWordBoundaryUnrecognized =>
    "unrecognized special word boundary assertion, valid choices are: " ++
      "start, end, start-half or end-half"
  | .specialWordOrRepetitionUnexpectedEnd =>
    "found either the beginning of a special word boundary or a bounded repetition on a \\b " ++
      "with an opening brace, but no closing brace"
  | .unicodeClassInvalid => "invalid Unicode character class"
  | .unsupportedBackreference => "backreferences are not supported"
  | .unsupportedLookAround => "look-around, including look-ahead and look-behind, is not supported"
  | .unicodeNotAllowed => "Unicode not allowed here"
  | .invalidUtf8 => "pattern can match invalid UTF-8"
  | .unicodePropertyNotFound => "Unicode property not found"
  | .unicodePropertyValueNotFound => "Unicode property value not found"

/-- Why a pattern cannot be used. -/
inductive Error
  /-- It breaks the rules of syntax at `span`; `related` is the other place that the fault is about. -/
  | malformed (fault : Fault) (span : Span) (related : Option Span)
  /-- What it stands for takes more than `limit` bytes. -/
  | tooLarge (limit : Nat)
  deriving DecidableEq, Repr

/-! ### Marks under the pattern -/

/-- The lines of a pattern. Each line feed ends one, alone or after a carriage return, and nothing
after the last one is no line. -/
def splitLines : List Char → List (List Char)
  | [] => []
  | '\r' :: '\n' :: cs => [] :: splitLines cs
  | '\n' :: cs => [] :: splitLines cs
  | c :: cs =>
    match splitLines cs with
    | [] => [[c]]
    | line :: lines => (c :: line) :: lines

/-- The line, from one, and the column, from zero, of the character at an index. -/
def lineColumn (pattern : List Char) (index : Nat) : Nat × Nat :=
  (pattern.take index).foldl
    (fun (line, column) c => if c == '\n' then (line + 1, 0) else (line, column + 1)) (1, 0)

/-- A span by its lines and columns. -/
structure Place where
  /-- The line of the first character. -/
  startLine : Nat
  /-- The column of the first character. -/
  startColumn : Nat
  /-- The line after the last character. -/
  stopLine : Nat
  /-- The column after the last character. -/
  stopColumn : Nat
  deriving DecidableEq, Repr

/-- Finds the lines and columns of a span. -/
def Span.place (pattern : List Char) (s : Span) : Place :=
  let (l, c) := lineColumn pattern s.start
  let (l', c') := lineColumn pattern s.stop
  ⟨l, c, l', c'⟩

/-- The marks under one line for the places on it, which are in order. -/
def marks (places : List Place) : String :=
  (places.foldl (fun acc p =>
    let acc := acc.pushn ' ' (p.startColumn - acc.length)
    acc.pushn '^' (max 1 (p.stopColumn - p.startColumn))) "")

/-- The pattern, line by line, with marks under the lines that have places. -/
def notate (pattern : List Char) (places : List Place) : String :=
  let lines := splitLines pattern
  let count := lines.length + (if pattern.getLast? == some '\n' then 1 else 0)
  let width := if count ≤ 1 then 0 else (toString count).length
  String.join (lines.zipIdx.map fun (line, i) =>
    let number := toString (i + 1)
    let label := if width = 0 then "    " else "".pushn ' ' (width - number.length) ++ number ++ ": "
    let margin := if width = 0 then "    " else "".pushn ' ' (2 + width)
    let here := places.filter fun p => p.startLine == i + 1
    let under := if here.isEmpty then "" else margin ++ marks here ++ "\n"
    label ++ String.ofList line ++ "\n" ++ under)

/-- The report on a pattern that is refused. -/
def Error.message (pattern : List Char) : Error → String
  | .tooLarge limit => s!"Compiled regex exceeds size limit of {limit} bytes."
  | .malformed fault span related =>
    let places := ((span :: related.toList).map (Span.place pattern)).mergeSort fun a b =>
      a.startLine < b.startLine || (a.startLine == b.startLine && a.startColumn ≤ b.startColumn)
    let single := places.filter fun p => p.startLine == p.stopLine
    let wide := places.filter fun p => p.startLine != p.stopLine
    let body := notate pattern single
    let sentence := "error: " ++ fault.message
    if pattern.contains '\n' then
      let divider := "".pushn '~' 79 ++ "\n"
      let notes := wide.map fun p =>
        s!"on line {p.startLine} (column {p.startColumn + 1}) through line {p.stopLine} " ++
          s!"(column {p.stopColumn})"
      let notes := if notes.isEmpty then "" else "\n".intercalate notes ++ "\n"
      "regex parse error:\n" ++ divider ++ body ++ divider ++ notes ++ sentence
    else "regex parse error:\n" ++ body ++ sentence

end FoxScript.Regex
