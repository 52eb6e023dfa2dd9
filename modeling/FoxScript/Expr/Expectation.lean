import FoxScript.Token.Basic

/-!
# What the grammar expects

The places of the grammar at which one certain kind of token must stand, with the messages for the
case that it does not.
-/
namespace FoxScript

/-- A place of the grammar at which one kind of token must stand. -/
inductive Expectation
  /-- The parenthesis that opens a declaration. -/
  | openVar
  /-- The name that is declared. -/
  | varName
  /-- The parenthesis that closes a declaration. -/
  | closeVar
  /-- The parenthesis that opens an assignment. -/
  | openAssign
  /-- The name that is assigned to. -/
  | assignName
  /-- The bracket after the index of an element that is assigned to. -/
  | closeElement
  /-- The comma before the new value. -/
  | assignComma
  /-- The parenthesis that closes an assignment. -/
  | closeAssign
  /-- The parenthesis that opens an import. -/
  | openImport
  /-- The path of an import. -/
  | importPath
  /-- The parenthesis that closes an import. -/
  | closeImport
  /-- The parenthesis that opens a loop. -/
  | openWhile
  /-- The parenthesis that closes a loop. -/
  | closeWhile
  /-- The brace that opens the cases of a match. -/
  | openMatch
  /-- The arrow of a case. -/
  | caseArrow
  /-- The brace that closes the cases of a match. -/
  | closeMatch
  /-- The parenthesis that opens the definition of a named function. -/
  | openNamed
  /-- The name of a function. -/
  | functionName
  /-- The comma after the name of a function. -/
  | functionComma
  /-- The parenthesis that opens the definition of a function without a name. -/
  | openAnonymous
  /-- The parenthesis that closes the definition of a function. -/
  | closeDefun
  /-- The parenthesis that opens a parameter list. -/
  | openParameters
  /-- A parameter. -/
  | parameter
  /-- The parenthesis that closes a parameter list. -/
  | closeParameters
  /-- The arrow after a parameter list. -/
  | functionArrow
  /-- The colon of a conditional. -/
  | ternaryColon
  /-- The parenthesis that closes an argument list. -/
  | closeCall
  /-- The bracket that closes an index. -/
  | closeIndex
  /-- The parenthesis that closes a group. -/
  | closeGroup
  /-- The brace that closes a block. -/
  | closeBlock
  /-- The bracket that closes an array. -/
  | closeArray
  deriving DecidableEq, Repr

namespace Expectation

/-- The kind of token that must stand there. -/
def kind : Expectation → TokenKind
  | openVar | openAssign | openImport | openWhile | openNamed | openAnonymous | openParameters =>
    .leftParen
  | closeVar | closeAssign | closeImport | closeWhile | closeDefun | closeParameters | closeCall
  | closeGroup => .rightParen
  | varName | assignName | functionName | parameter => .identifier
  | closeElement | closeIndex | closeArray => .rightBracket
  | assignComma | functionComma => .comma
  | importPath => .string
  | openMatch => .leftBrace
  | closeMatch | closeBlock => .rightBrace
  | caseArrow => .fatArrow
  | functionArrow => .arrow
  | ternaryColon => .colon

/-- What is expected, in words. -/
def demand : Expectation → String
  | openVar => "Expected '(' after 'var'"
  | varName => "Expected an identifier as the first argument to 'var'"
  | closeVar => "Expected ')' after the arguments of 'var'"
  | openAssign => "Expected '(' after 'assign'"
  | assignName => "Expected an identifier as the first argument to 'assign'"
  | closeElement => "Expected ']' after the element index"
  | assignComma => "Expected ',' after the assignment target"
  | closeAssign => "Expected ')' after the arguments of 'assign'"
  | openImport => "Expected '(' after 'import'"
  | importPath => "Expected a string naming the file to import"
  | closeImport => "Expected ')' after the imported path"
  | openWhile => "Expected '(' after 'while'"
  | closeWhile => "Expected ')' after the arguments of 'while'"
  | openMatch => "Expected '\x7b' after the value being matched"
  | caseArrow => "Expected '=>' after the case condition"
  | closeMatch => "Expected '\x7d' after the match cases"
  | openNamed => "Expected '(' after 'defun'"
  | functionName => "Expected an identifier as the first argument to 'defun'"
  | functionComma => "Expected ',' after the function name"
  | openAnonymous => "Expected '(' after 'defun'"
  | closeDefun => "Expected ')' to close 'defun'"
  | openParameters => "Expected '(' before the parameter list"
  | parameter => "Expected a parameter name"
  | closeParameters => "Expected ')' after the parameter list"
  | functionArrow => "Expected '->' after the parameter list"
  | ternaryColon => "Expected ':' to complete the ternary conditional"
  | closeCall => "Expected ')' after the argument list"
  | closeIndex => "Expected ']' after the array index"
  | closeGroup => "Expected ')' after the expression"
  | closeBlock => "Expected '\x7d' after the expression block"
  | closeArray => "Expected ']' after the array elements"

/-- How to mend the program. -/
def advice : Expectation → String
  | openVar => "Declare variables like `var(name, value)`."
  | varName => "Provide a variable name as the first argument, like `var(name, value)`."
  | closeVar => "Make sure that you close the variable declaration with a ')'."
  | openAssign => "Assign to variables like `assign(name, value)`."
  | assignName => "Provide the name of the variable to assign to, like `assign(name, value)`."
  | closeElement => "Close the element index with a ']'."
  | assignComma => "Separate the target and the new value with a ','."
  | closeAssign => "Make sure that you close the assignment with a ')'."
  | openImport => "Import files like `import(\"path/to/file.fox\")`."
  | importPath => "Provide the imported path as a string literal."
  | closeImport => "Make sure that you close the import with a ')'."
  | openWhile => "Write loops like `while(condition, body)` or `while(body)`."
  | closeWhile => "Make sure that you close the loop with a ')'."
  | openMatch => "List the cases of a match between braces."
  | caseArrow => "Write match cases like `condition => result`."
  | closeMatch => "Make sure that you close the match with a '\x7d'."
  | openNamed => "Define functions like `defun(name, (params) -> body)`."
  | functionName => "Provide the function name as the first argument."
  | functionComma => "Separate the function name from its parameters with a ','."
  | openAnonymous => "Define anonymous functions like `defun((params) -> body)`."
  | closeDefun => "Make sure that you close the function definition with a ')'."
  | openParameters => "Functions declare their parameters like `(a, b) -> body`."
  | parameter => "Parameters must be plain identifiers."
  | closeParameters => "Close the parameter list with a ')'."
  | functionArrow => "Separate the parameters from the body with '->'."
  | ternaryColon => "Write ternaries like `condition ? if_true : if_false`."
  | closeCall => "Make sure you close the argument list with a ')'."
  | closeIndex => "Index arrays like `array[index]` or `array[lower:upper]`."
  | closeGroup => "Make sure you have a closing parenthesis `)` after the expression."
  | closeBlock => "Make sure you have a closing brace `\x7d` after the block."
  | closeArray => "Make sure you close the array literal with a ']'."

end Expectation

end FoxScript
