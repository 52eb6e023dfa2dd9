import FoxScript.Number.Format
import FoxScript.Source.Position

/-!
# Tokens

The words of a program: what kind each is, how it is spelled, what it stands for and where it is.
-/
namespace FoxScript

/-- The kind of a token. -/
inductive TokenKind
  | leftParen | rightParen | leftBrace | rightBrace | leftBracket | rightBracket
  | comma | colon | questionMark | minus | plus | slash | star | pipe | underscore
  | arrow | fatArrow | bang | bangEqual | equal | equalEqual
  | greater | greaterEqual | less | lessEqual
  | identifier | string | number
  | and | assign | break | defun | false | import | match | null | or | true | var | while
  deriving DecidableEq, Repr

/-- The name of a kind. -/
def TokenKind.name : TokenKind → String
  | .leftParen => "LeftParen" | .rightParen => "RightParen"
  | .leftBrace => "LeftBrace" | .rightBrace => "RightBrace"
  | .leftBracket => "LeftBracket" | .rightBracket => "RightBracket"
  | .comma => "Comma" | .colon => "Colon" | .questionMark => "QuestionMark"
  | .minus => "Minus" | .plus => "Plus" | .slash => "Slash" | .star => "Star"
  | .pipe => "Pipe" | .underscore => "Underscore"
  | .arrow => "Arrow" | .fatArrow => "FatArrow" | .bang => "Bang" | .bangEqual => "BangEqual"
  | .equal => "Equal" | .equalEqual => "EqualEqual"
  | .greater => "Greater" | .greaterEqual => "GreaterEqual"
  | .less => "Less" | .lessEqual => "LessEqual"
  | .identifier => "Identifier" | .string => "String" | .number => "Number"
  | .and => "And" | .assign => "Assign" | .break => "Break" | .defun => "Defun"
  | .false => "False" | .import => "Import" | .match => "Match" | .null => "Null"
  | .or => "Or" | .true => "True" | .var => "Var" | .while => "While"

/-- All kinds. -/
def TokenKind.all : List TokenKind :=
  [.leftParen, .rightParen, .leftBrace, .rightBrace, .leftBracket, .rightBracket, .comma, .colon,
    .questionMark, .minus, .plus, .slash, .star, .pipe, .underscore, .arrow, .fatArrow, .bang,
    .bangEqual, .equal, .equalEqual, .greater, .greaterEqual, .less, .lessEqual, .identifier,
    .string, .number, .and, .assign, .break, .defun, .false, .import, .match, .null, .or, .true,
    .var, .while]

/-- The kind that has a name. -/
def TokenKind.ofName? (name : String) : Option TokenKind :=
  TokenKind.all.find? fun k => k.name == name

/-- A constant that is written in a program. -/
inductive Literal
  /-- The absent value. -/
  | null
  /-- A truth value. -/
  | bool (b : Bool)
  /-- A number. -/
  | number (x : Float)
  /-- A text. -/
  | text (s : String)
  deriving Repr

/-- The constant as it is printed. -/
def Literal.render : Literal → String
  | .null => "null"
  | .bool b => if b then "true" else "false"
  | .number x => Number.plain x
  | .text s => s

/-- A word of a program. -/
structure Token where
  /-- What kind of word it is. -/
  kind : TokenKind
  /-- How it is spelled. -/
  lexeme : String
  /-- The constant that it stands for, if it stands for one. -/
  literal : Option Literal
  /-- Where it starts. -/
  position : Position
  deriving Repr

namespace Token

/-- The place of the token, with its spelling. -/
def location (t : Token) : Location := ⟨t.lexeme, t.position⟩

/-- The place after the last byte of the token, if it lies on one line. -/
def stop (t : Token) : Position :=
  ⟨t.position.line, t.position.column + t.lexeme.utf8ByteSize⟩

/-- The token as it is printed. -/
def render (t : Token) : String :=
  s!"{t.kind.name} at '{t.lexeme}' (line {t.position.line}, column {t.position.column})"

end Token

end FoxScript
