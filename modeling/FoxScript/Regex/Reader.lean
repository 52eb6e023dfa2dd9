import FoxScript.Regex.Error
import FoxScript.Text.Blank
import FoxScript.Unicode.Recent

/-!
# Reading the parts of a pattern

A reader goes through a pattern from left to right and stops at the first fault. This file reads
what stands between the operators of an expression: escapes, flags, group heads, counts and classes.
-/
namespace FoxScript.Regex

/-- Where a reader stands. -/
structure Cursor where
  /-- The characters not yet read. -/
  rest : List Char
  /-- The number of characters read. -/
  index : Nat
  /-- Whether blank characters and comments are skipped. -/
  verbose : Bool
  /-- The number of groups that keep their text. -/
  captures : Nat
  /-- The names of groups with their spans. -/
  names : List (String × Span)
  deriving Repr

/-- A step of reading: it moves the cursor, or reports an error. -/
abbrev Reader := EStateM Error Cursor

namespace Reader

/-- Stops with a fault. -/
def fail {α : Type} (fault : Fault) (start stop : Nat) : Reader α :=
  throw (.malformed fault ⟨start, stop⟩ none)

/-- Stops with a fault that is about two places. -/
def failTwice {α : Type} (fault : Fault) (span related : Span) : Reader α :=
  throw (.malformed fault span (some related))

/-- The next character. -/
def peek? : Reader (Option Char) := return (← get).rest.head?

/-- The index of the next character. -/
def index : Reader Nat := return (← get).index

/-- Whether everything is read. -/
def atEnd : Reader Bool := return (← get).rest.isEmpty

/-- Moves past one character. -/
def bump : Reader Unit :=
  modify fun s => match s.rest with
    | [] => s
    | _ :: cs => { s with rest := cs, index := s.index + 1 }

/-- Moves past so many characters. -/
def bumpMany (n : Nat) : Reader Unit :=
  modify fun s => { s with rest := s.rest.drop n, index := s.index + (s.rest.take n).length }

/-- Moves past `word` if it comes next, and tells whether it did. -/
def bumpIf (word : String) : Reader Bool := do
  if word.toList.isPrefixOf (← get).rest then
    bumpMany word.length
    return true
  return false

/-- How many characters in front are blank or belong to a comment. -/
def skipLength : List Char → Nat
  | [] => 0
  | c :: cs =>
    if Text.isBlank c then skipLength cs + 1
    else if c == '#' then inComment cs + 1
    else 0
where
  /-- Goes on to the end of the line. -/
  inComment : List Char → Nat
    | [] => 0
    | c :: cs => if c == '\n' then skipLength cs + 1 else inComment cs + 1

/-- In a verbose pattern, moves past blank characters and comments. -/
def bumpSpace : Reader Unit := do
  let s ← get
  if s.verbose then bumpMany (skipLength s.rest)

/-- Moves past one character and then past blank ones; tells whether anything is left. -/
def bumpOn : Reader Bool := do
  if ← atEnd then return false
  bump
  if ← atEnd then return false
  bumpSpace
  return !(← atEnd)

/-- The character after the next one. In a verbose pattern blank characters are left out, and so is
one number sign, but not the comment that it begins; where nothing else is left, the very next
character counts. -/
def peekBeyond? : Reader (Option Char) := do
  let s ← get
  let after := s.rest.drop 1
  if !s.verbose then return after.head?
  let seen := after.dropWhile Text.isBlank
  let seen := if seen.head? == some '#' then (seen.drop 1).dropWhile Text.isBlank else seen
  return seen.head? <|> after.head?

/-- The characters from an index up to the cursor. -/
def since (start : Cursor) : Reader (List Char) :=
  return start.rest.take ((← get).index - start.index)

/-! ### Numbers -/

/-- Reads digits as long as they come, blank ones left out in a verbose pattern. -/
def digitRun (p : Char → Bool) : Nat → Reader (List Char)
  | 0 => return []
  | n + 1 => do
    match ← peek? with
    | some c =>
      if p c then
        discard bumpOn
        return c :: (← digitRun p n)
      else return []
    | none => return []

/-- Moves past blank characters, whether the pattern is verbose or not. -/
def skipBlank : Nat → Reader Unit
  | 0 => return ()
  | n + 1 => do
    match ← peek? with
    | some c =>
      if Text.isBlank c then
        bump
        skipBlank n
      else return ()
    | none => return ()

/-- A decimal number below 2 ^ 32 with blank characters around it; `empty` is the fault of having
no digit. -/
def decimal (empty : Fault) : Reader Nat := do
  let length := (← get).rest.length
  skipBlank length
  let start ← index
  let digits ← digitRun Char.isDigit length
  let stop ← index
  skipBlank length
  bumpSpace
  if digits.isEmpty then fail empty start stop
  let n := digits.foldl (fun n c => n * 10 + (c.toNat - 48)) 0
  if n < 4294967296 then return n else fail .decimalInvalid start stop

/-- Whether the character is a digit of base sixteen. -/
def isHexDigit (c : Char) : Bool :=
  c.isDigit || ('a' ≤ c && c ≤ 'f') || ('A' ≤ c && c ≤ 'F')

/-- The value of a digit of base sixteen. -/
def hexValue (c : Char) : Nat :=
  if c.isDigit then c.toNat - 48 else if 'a' ≤ c then c.toNat - 87 else c.toNat - 55

/-- The character with the number that the digits of base sixteen write. -/
def hexChar? (digits : List Char) : Option Char :=
  let n := digits.foldl (fun n c => n * 16 + hexValue c) 0
  if n.isValidChar then some (Char.ofNat n) else none

/-- Reads exactly `count` digits of base sixteen. -/
def hexDigits (isFirst : Bool) : Nat → Reader (List Char)
  | 0 => return []
  | n + 1 => do
    unless isFirst do
      unless ← bumpOn do fail .escapeUnexpectedEnd (← index) (← index)
    match ← peek? with
    | some c =>
      if isHexDigit c then return c :: (← hexDigits false n)
      else fail .escapeHexInvalidDigit (← index) ((← index) + 1)
    | none => fail .escapeUnexpectedEnd (← index) (← index)

/-- Reads digits of base sixteen up to the closing brace. -/
def hexUntilBrace : Nat → Reader (List Char)
  | 0 => return []
  | n + 1 => do
    if ← bumpOn then
      match ← peek? with
      | some c =>
        if c == '\x7d' then return []
        else if isHexDigit c then return c :: (← hexUntilBrace n)
        else fail .escapeHexInvalidDigit (← index) ((← index) + 1)
      | none => return []
    else return []

/-- Reads the number of a character after `\x`, `\u` or `\U`; `start` is the index of the
backslash. -/
def hexEscape (start : Nat) (kind : Char) : Reader Literal := do
  unless ← bumpOn do fail .escapeUnexpectedEnd (← index) (← index)
  if (← peek?) == some '\x7b' then
    let brace ← index
    let digits ← hexUntilBrace ((← get).rest.length + 1)
    if ← atEnd then fail .escapeUnexpectedEnd brace (← index)
    let stop ← index
    discard bumpOn
    if digits.isEmpty then fail .escapeHexEmpty brace (← index)
    match hexChar? digits with
    | some c => return ⟨⟨start, ← index⟩, c, false⟩
    | none => fail .escapeHexInvalid (brace + 1) stop
  else
    let first ← index
    let count := if kind == 'x' then 2 else if kind == 'u' then 4 else 8
    let digits ← hexDigits true count
    discard bumpOn
    let stop ← index
    match hexChar? digits with
    | some c => return ⟨⟨start, stop⟩, c, kind == 'x'⟩
    | none => fail .escapeHexInvalid first stop

/-! ### Property classes -/

/-- Reads characters up to the closing brace. -/
def nameUntilBrace : Nat → Reader (List Char)
  | 0 => return []
  | n + 1 => do
    if ← bumpOn then
      match ← peek? with
      | some c => if c == '\x7d' then return [] else return c :: (← nameUntilBrace n)
      | none => return []
    else return []

/-- Cuts a name at the first place where `mark` stands. -/
def cutAt? (mark : List Char) : List Char → Option (List Char × List Char)
  | [] => none
  | c :: cs =>
    if mark.isPrefixOf (c :: cs) then some ([], (c :: cs).drop mark.length)
    else (cutAt? mark cs).map fun (a, b) => (c :: a, b)

/-- The query that a name in braces stands for. -/
def propertyQuery (name : List Char) : PropertyQuery :=
  match cutAt? ['!', '='] name with
  | some (p, v) => .value true (String.ofList p) (String.ofList v)
  | none =>
    match cutAt? [':'] name with
    | some (p, v) => .value false (String.ofList p) (String.ofList v)
    | none =>
      match cutAt? ['='] name with
      | some (p, v) => .value false (String.ofList p) (String.ofList v)
      | none => .name (String.ofList name)

/-- Reads what follows `\p` or `\P`. -/
def propertyEscape : Reader PropertyQuery := do
  unless ← bumpOn do fail .escapeUnexpectedEnd (← index) (← index)
  match ← peek? with
  | some c =>
    if c == '\x7b' then
      let name ← nameUntilBrace ((← get).rest.length + 1)
      if ← atEnd then fail .escapeUnexpectedEnd (← index) (← index)
      bump
      return propertyQuery name
    else if c == '\\' then fail .unicodeClassInvalid (← index) ((← index) + 1)
    else
      discard bumpOn
      return .letter c
  | none => fail .escapeUnexpectedEnd (← index) (← index)

/-! ### Escapes -/

/-- What a character or an escape stands for. -/
inductive Primitive
  /-- A character. -/
  | literal (l : Literal)
  /-- Any character. -/
  | dot (span : Span)
  /-- A condition on the place. -/
  | anchor (span : Span) (kind : Anchor)
  /-- A class named by a property. -/
  | unicode (span : Span) (negated : Bool) (query : PropertyQuery)
  /-- A class named by a letter. -/
  | perl (span : Span) (negated : Bool) (kind : PerlClass)

/-- The part of the pattern. -/
def Primitive.span : Primitive → Span
  | .literal l => l.span
  | .dot s | .anchor s _ | .unicode s _ _ | .perl s _ _ => s

/-- Whether the character is an operator somewhere. -/
def isMeta (c : Char) : Bool :=
  ['\\', '.', '+', '*', '?', '(', ')', '|', '[', ']', '\x7b', '\x7d', '^', '$', '#', '&', '-',
    '~'].contains c

/-- Whether a backslash before the character makes it stand for itself. -/
def isEscapable (c : Char) : Bool :=
  isMeta c || (c.toNat < 128 && !c.isAlphanum && c != '<' && c != '>')

/-- Reads letters and hyphens, blank ones left out in a verbose pattern. -/
def boundaryName (n : Nat) : Reader (List Char) :=
  digitRun (fun c => c.isAlpha || c == '-') n

/-- Reads the name in braces that may follow `\b`. What cannot be such a name is left for a
repetition. -/
def specialBoundary? (start : Nat) : Reader (Option Anchor) := do
  let before ← get
  unless ← bumpOn do fail .specialWordOrRepetitionUnexpectedEnd start (← index)
  let contents ← index
  match ← peek? with
  | some c =>
    if c.isAlpha || c == '-' then
      let name ← boundaryName (before.rest.length)
      if (← peek?) != some '\x7d' then
        fail .specialWordBoundaryUnclosed before.index (← index)
      let stop ← index
      bump
      match String.ofList name with
      | "start" => return some .wordStart
      | "end" => return some .wordEnd
      | "start-half" => return some .wordStartHalf
      | "end-half" => return some .wordEndHalf
      | _ => fail .specialWordBoundaryUnrecognized contents stop
    else
      set before
      return none
  | none =>
    set before
    return none

/-- Reads an escape. -/
def escape : Reader Primitive := do
  let start ← index
  bump
  match ← peek? with
  | none => fail .escapeUnexpectedEnd start (← index)
  | some c =>
    if c.isDigit then fail .unsupportedBackreference start ((← index) + 1)
    else if c == 'x' || c == 'u' || c == 'U' then return .literal (← hexEscape start c)
    else if c == 'p' || c == 'P' then
      let query ← propertyEscape
      return .unicode ⟨start, ← index⟩ (c == 'P') query
    else
      bump
      let span : Span := ⟨start, ← index⟩
      let literal (c : Char) : Reader Primitive := return .literal ⟨span, c, false⟩
      if isEscapable c then literal c
      else
        match c with
        | 'd' => return .perl span false .digit
        | 'D' => return .perl span true .digit
        | 's' => return .perl span false .space
        | 'S' => return .perl span true .space
        | 'w' => return .perl span false .word
        | 'W' => return .perl span true .word
        | 'a' => literal '\x07'
        | 'f' => literal '\x0c'
        | 't' => literal '\t'
        | 'n' => literal '\n'
        | 'r' => literal '\r'
        | 'v' => literal '\x0b'
        | 'A' => return .anchor span .startText
        | 'z' => return .anchor span .endText
        | 'b' =>
          if (← peek?) == some '\x7b' then
            match ← specialBoundary? start with
            | some kind => return .anchor ⟨start, ← index⟩ kind
            | none => return .anchor span .wordBoundary
          else return .anchor span .wordBoundary
        | 'B' => return .anchor span .notWordBoundary
        | '<' => return .anchor span .wordStart
        | '>' => return .anchor span .wordEnd
        | _ => fail .escapeUnrecognized span.start span.stop

/-- Reads a character, an escape, a dot or an anchor. -/
def primitive : Reader Primitive := do
  let start ← index
  match ← peek? with
  | some '\\' => escape
  | some c =>
    bump
    let span : Span := ⟨start, start + 1⟩
    match c with
    | '.' => return .dot span
    | '^' => return .anchor span .startLine
    | '$' => return .anchor span .endLine
    | _ => return .literal ⟨span, c, false⟩
  | none => fail .escapeUnexpectedEnd start start

/-! ### Flags and group heads -/

/-- The flag that a letter names. -/
def flag? : Char → Option Flag
  | 'i' => some .ignoreCase
  | 'm' => some .multiLine
  | 's' => some .dotAll
  | 'U' => some .swapGreed
  | 'u' => some .unicode
  | 'R' => some .crlf
  | 'x' => some .verbose
  | _ => none

/-- Reads flags up to a colon or a closing parenthesis. `seen` holds the entries before with their
spans, and `dangling` the span of a minus sign that no flag has followed yet. -/
def flagItems (seen : List (FlagItem × Span)) (dangling : Option Span) :
    Nat → Reader (List FlagItem)
  | 0 => return seen.map (·.1)
  | n + 1 => do
    let here ← index
    let span : Span := ⟨here, here + 1⟩
    match ← peek? with
    | none => fail .flagUnexpectedEnd here here
    | some c =>
      if c == ':' || c == ')' then
        match dangling with
        | some s => fail .flagDanglingNegation s.start s.stop
        | none => return seen.map (·.1)
      else
        let item ← if c == '-' then pure FlagItem.negation else
          match flag? c with
          | some f => pure (.flag f)
          | none => fail .flagUnrecognized span.start span.stop
        match seen.find? (·.1 == item) with
        | some (_, earlier) =>
          failTwice (if c == '-' then .flagRepeatedNegation else .flagDuplicate) span earlier
        | none =>
          bump
          if ← atEnd then fail .flagUnexpectedEnd (← index) (← index)
          flagItems (seen ++ [(item, span)]) (if c == '-' then some span else none) n

/-- Whether a list of flags switches `f` on or off. -/
def flagState (f : Flag) (items : List FlagItem) : Option Bool :=
  go true items
where
  /-- Looks at the entries from left to right; `on` tells that no minus sign came yet. -/
  go (on : Bool) : List FlagItem → Option Bool
    | [] => none
    | .negation :: rest => go false rest
    | .flag g :: rest => if f = g then some on else go on rest

/-- Whether the character can stand in the name of a group. -/
def isNameChar (isFirst : Bool) (c : Char) : Bool :=
  c == '_' || Unicode.nameStart.contains c.toNat ||
    (!isFirst && (['.', '[', ']'].contains c || Unicode.nameContinue.contains c.toNat))

/-- Reads the characters of a group's name. -/
def nameChars (isFirst : Bool) : Nat → Reader (List Char)
  | 0 => return []
  | n + 1 => do
    match ← peek? with
    | none => return []
    | some c =>
      if c == '>' then return []
      else if isNameChar isFirst c then
        bump
        return c :: (← nameChars false n)
      else fail .groupNameInvalid (← index) ((← index) + 1)

/-- Reads the name of a group up to the closing angle bracket. -/
def captureName : Reader String := do
  let start ← index
  let name ← nameChars true ((← get).rest.length)
  let stop ← index
  if ← atEnd then fail .groupNameUnexpectedEnd stop stop
  bump
  if name.isEmpty then fail .groupNameEmpty start start
  let name := String.ofList name
  let span : Span := ⟨start, stop⟩
  match (← get).names.lookup name with
  | some earlier => failTwice .groupNameDuplicate span earlier
  | none =>
    modify fun s => { s with names := (name, span) :: s.names }
    return name

/-- What an opening parenthesis begins. -/
inductive Opening
  /-- Flags for what follows. -/
  | flags (span : Span) (items : List FlagItem)
  /-- A group. -/
  | group (span : Span) (kind : GroupKind)

/-- Counts one more group that keeps its text. -/
def nextCapture : Reader Nat :=
  modifyGet fun s => (s.captures + 1, { s with captures := s.captures + 1 })

/-- Reads an opening parenthesis and what belongs to it. -/
def opening : Reader Opening := do
  let start ← index
  bump
  bumpSpace
  for mark in ["?=", "?!", "?<=", "?<!"] do
    if ← bumpIf mark then fail .unsupportedLookAround start (← index)
  let inner ← index
  if ← bumpIf "?P<" <||> bumpIf "?<" then
    let number ← nextCapture
    let name ← captureName
    return .group ⟨start, start + 1⟩ (.capture number (some name))
  else if ← bumpIf "?" then
    if ← atEnd then fail .groupUnclosed start (start + 1)
    let items ← flagItems [] none ((← get).rest.length + 1)
    let last ← peek?
    bump
    if last == some ')' then
      if items.isEmpty then fail .repetitionMissing inner inner
      return .flags ⟨start, ← index⟩ items
    else return .group ⟨start, start + 1⟩ (.plain items)
  else return .group ⟨start, start + 1⟩ (.capture (← nextCapture) none)

/-! ### Repetition -/

/-- Reads the question mark that makes a repetition lazy. -/
def greed : Reader Bool := do
  if (← peek?) == some '?' then
    bump
    return false
  return true

/-- Reads a repetition in braces: its bounds, and whether it is greedy. -/
def counted : Reader (Nat × Option Nat × Bool) := do
  let start ← index
  let unclosed {α : Type} : Reader α := do fail .repetitionCountUnclosed start (← index)
  unless ← bumpOn do unclosed
  let count ← tryCatch (Except.ok <$> decimal .repetitionCountDecimalEmpty)
    (fun e => pure (Except.error e))
  let least : Reader Nat := match count with
    | .ok n => pure n
    | .error e => throw e
  if ← atEnd then unclosed
  let bounds : Nat × Option Nat ← if (← peek?) == some ',' then do
      unless ← bumpOn do unclosed
      if (← peek?) != some '\x7d' then
        let n ← least
        let m ← decimal .repetitionCountDecimalEmpty
        pure (n, some m)
      else pure (← least, none)
    else do
      let n ← least
      pure (n, some n)
  if (← peek?) != some '\x7d' then unclosed
  let lazily ← if ← bumpOn then greed else pure true
  if bounds.2.any (· < bounds.1) then fail .repetitionCountInvalid start (← index)
  return (bounds.1, bounds.2, lazily)

end Reader

end FoxScript.Regex
