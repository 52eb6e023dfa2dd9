/-!
# Syntax of regular expressions

The tree of a regular expression as it is written. Every node that an error can point at keeps the
span of the pattern that it comes from.
-/
namespace FoxScript.Regex

/-- The characters of a pattern from index `start` up to but not including `stop`. -/
structure Span where
  /-- The index of the first character. -/
  start : Nat
  /-- The index after the last character. -/
  stop : Nat
  deriving DecidableEq, Repr

/-- A switch that changes how what follows is read. -/
inductive Flag
  /-- Letters match in either case. -/
  | ignoreCase
  /-- The anchors match at lines. -/
  | multiLine
  /-- The dot matches a line feed. -/
  | dotAll
  /-- Repetitions are lazy unless marked. -/
  | swapGreed
  /-- Classes range over all of Unicode. -/
  | unicode
  /-- A carriage return ends a line too. -/
  | crlf
  /-- Blank characters and comments in the pattern are skipped. -/
  | verbose
  deriving DecidableEq, Repr

/-- An entry of a flag list: a flag, or the sign after which flags are cleared. -/
inductive FlagItem
  /-- The minus sign. -/
  | negation
  /-- A flag. -/
  | flag (f : Flag)
  deriving DecidableEq, Repr

/-- A condition on a place between two characters. -/
inductive Anchor
  /-- A caret: the start of the text, or of a line. -/
  | startLine
  /-- A dollar sign: the end of the text, or of a line. -/
  | endLine
  /-- The start of the text. -/
  | startText
  /-- The end of the text. -/
  | endText
  /-- A word starts or ends. -/
  | wordBoundary
  /-- No word starts or ends. -/
  | notWordBoundary
  /-- A word starts. -/
  | wordStart
  /-- A word ends. -/
  | wordEnd
  /-- No word character comes before. -/
  | wordStartHalf
  /-- No word character comes after. -/
  | wordEndHalf
  deriving DecidableEq, Repr

/-- The classes that one letter names. -/
inductive PerlClass
  /-- Decimal digits. -/
  | digit
  /-- Blank characters. -/
  | space
  /-- Characters of words. -/
  | word
  deriving DecidableEq, Repr

/-- How a class is named by a Unicode property. -/
inductive PropertyQuery
  /-- By one letter. -/
  | letter (c : Char)
  /-- By a name. -/
  | name (name : String)
  /-- By a property and one of its values, or any other value when `negated`. -/
  | value (negated : Bool) (name value : String)
  deriving DecidableEq, Repr

/-- Operations on classes. -/
inductive ClassOperator
  /-- The members of both. -/
  | intersection
  /-- The members of the left class that are not in the right one. -/
  | difference
  /-- The members of exactly one. -/
  | symmetricDifference
  deriving DecidableEq, Repr

/-- A literal character, and whether it was written by a two-digit number that may stand for a byte. -/
structure Literal where
  /-- The part of the pattern. -/
  span : Span
  /-- The character. -/
  char : Char
  /-- Whether it was written as `\x` and two digits. -/
  isByte : Bool
  deriving DecidableEq, Repr

mutual

/-- An entry of a bracketed class. -/
inductive ClassItem
  /-- A character. -/
  | literal (l : Literal)
  /-- The characters between two. -/
  | range (span : Span) (first last : Literal)
  /-- A class named between colons. -/
  | ascii (span : Span) (negated : Bool) (name : String)
  /-- A class named by a property. -/
  | unicode (span : Span) (negated : Bool) (query : PropertyQuery)
  /-- A class named by a letter. -/
  | perl (span : Span) (negated : Bool) (kind : PerlClass)
  /-- A class in brackets of its own. -/
  | bracketed (span : Span) (negated : Bool) (body : ClassBody)

/-- The inside of a bracketed class. -/
inductive ClassBody
  /-- All that its entries have. -/
  | union (span : Span) (items : List ClassItem)
  /-- What an operation makes of two classes. -/
  | operation (span : Span) (op : ClassOperator) (left right : ClassBody)

end

/-- What a pair of parentheses does. -/
inductive GroupKind
  /-- The text it matches is kept under a number, and under a name if it has one. -/
  | capture (index : Nat) (name : Option String)
  /-- It sets flags for its inside. -/
  | plain (flags : List FlagItem)
  deriving DecidableEq, Repr

/-- A regular expression. -/
inductive Ast
  /-- Nothing. -/
  | empty (span : Span)
  /-- Flags for what follows. -/
  | flags (span : Span) (items : List FlagItem)
  /-- A character. -/
  | literal (l : Literal)
  /-- Any character. -/
  | dot (span : Span)
  /-- A condition on the place. -/
  | anchor (span : Span) (kind : Anchor)
  /-- A class named by a property. -/
  | unicode (span : Span) (negated : Bool) (query : PropertyQuery)
  /-- A class named by a letter. -/
  | perl (span : Span) (negated : Bool) (kind : PerlClass)
  /-- A class in brackets. -/
  | bracketed (span : Span) (negated : Bool) (body : ClassBody)
  /-- At least `least` and at most `most` times the same. -/
  | repetition (span : Span) (least : Nat) (most : Option Nat) (greedy : Bool) (body : Ast)
  /-- A pair of parentheses. -/
  | group (span : Span) (kind : GroupKind) (body : Ast)
  /-- The first of several that matches. -/
  | alternation (span : Span) (branches : List Ast)
  /-- One after another. -/
  | concat (span : Span) (items : List Ast)

/-- The part of the pattern that a node comes from. -/
def Ast.span : Ast → Span
  | .empty s | .flags s _ | .dot s | .anchor s _ | .unicode s _ _ | .perl s _ _ | .bracketed s _ _
  | .repetition s _ _ _ _ | .group s _ _ | .alternation s _ | .concat s _ => s
  | .literal l => l.span

/-- Several expressions one after another; a single one stands for itself. -/
def Ast.ofSequence (span : Span) : List Ast → Ast
  | [] => .empty span
  | [a] => a
  | as => .concat span as

end FoxScript.Regex
