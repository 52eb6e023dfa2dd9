import FoxScript.Expr.Expectation
import FoxScript.Regex.Error
import FoxScript.Value.Kind

/-!
# Diagnostics

Everything that can be wrong with a program, in four tiers: its syntax, its scopes, what happens
while it runs, and the system around it. A diagnostic is a cause. Its words are given by `message`,
`advice` and `text`.
-/
namespace FoxScript

/-- What is wrong with the syntax of a program. -/
inductive SyntaxFault
  /-- A character with which no token starts. -/
  | unexpectedCharacter (c : Char)
  /-- A text without its closing quote. -/
  | unclosedText
  /-- A token, if any is left, that is not the one the grammar expects. -/
  | unmet (e : Expectation) (found : Option String)
  /-- A token, if any is left, with which no expression starts. -/
  | noExpression (found : Option String)
  deriving DecidableEq, Repr

/-- The sentence that states the fault. -/
def SyntaxFault.message : SyntaxFault → String
  | .unexpectedCharacter c =>
    s!"We found an unexpected character '{c}' where we were expecting one of: " ++
      "[whitespace, bracket, brace, operator, identifier, number, string, comment]"
  | .unclosedText => "Reached the end of the file without finding the closing quote for a string."
  | .unmet e (some lexeme) => s!"{e.demand}, but got '{lexeme}' instead."
  | .unmet e none => s!"{e.demand}, but reached the end of the file instead."
  | .noExpression (some lexeme) => s!"Expected an expression, but found '{lexeme}'."
  | .noExpression none => "Reached the end of the input while waiting for an expression."

/-- How to mend the program. -/
def SyntaxFault.advice : SyntaxFault → String
  | .unexpectedCharacter _ =>
    "Make sure you have entered valid fox code and have not accidentally closed a string."
  | .unclosedText => "Make sure that you have terminated your string with a '\"' character."
  | .unmet e _ => e.advice
  | .noExpression (some _) =>
    "Make sure that you are providing a value, variable, block, array or function at this location."
  | .noExpression none => "Make sure that you have provided a valid expression."

/-- The kinds of failure of an input or output operation. -/
inductive IoKind
  | notFound | permissionDenied | invalidData | unexpectedEof | brokenPipe | timedOut
  | alreadyExists | invalidInput | interrupted | isADirectory | notADirectory | invalidFilename
  | other
  deriving DecidableEq, Repr

/-- The name of a kind of failure in a sentence. -/
def IoKind.description : IoKind → String
  | .notFound => "entity not found"
  | .permissionDenied => "permission denied"
  | .invalidData => "invalid data"
  | .unexpectedEof => "unexpected end of file"
  | .brokenPipe => "broken pipe"
  | .timedOut => "timed out"
  | .alreadyExists => "entity already exists"
  | .invalidInput => "invalid input parameter"
  | .interrupted => "operation interrupted"
  | .isADirectory => "is a directory"
  | .notADirectory => "not a directory"
  | .invalidFilename => "invalid filename"
  | .other => "other error"

/-- The failure of an input or output operation. -/
structure IoFault where
  /-- What kind of failure it is. -/
  kind : IoKind
  /-- The words of the system. -/
  text : String
  deriving DecidableEq, Repr

/-- The failure of reading bytes that are not UTF-8 as text. -/
def IoFault.notUtf8 : IoFault := ⟨.invalidData, "stream did not contain valid UTF-8"⟩

/-- What the system around a program can report. -/
inductive SystemFault
  /-- An operator that the evaluation of numbers does not know. -/
  | unknownOperator (lexeme : String)
  /-- A pattern of a match that is evaluated outside of one. -/
  | strayPattern (lexeme : String)
  /-- A script that is not UTF-8. -/
  | notUtf8
  /-- A failed operation on a file. -/
  | io (cause : IoFault)
  deriving DecidableEq, Repr

/-- The sentence that states the fault. -/
def SystemFault.message : SystemFault → String
  | .unknownOperator lexeme => s!"We received an unexpected binary operator '{lexeme}'."
  | .strayPattern lexeme => s!"Reached the case pattern '{lexeme}' outside of a match case."
  | .notUtf8 | .io ⟨.invalidData, _⟩ => "The file you provided is not a valid UTF-8 file."
  | .io ⟨.notFound, text⟩ => s!"We could not find the file you provided ({text})."
  | .io ⟨.permissionDenied, text⟩ =>
    s!"You do not have permissions to access the file you provided ({text})."
  | .io ⟨kind, text⟩ =>
    s!"We were unable to complete an I/O operation due to a {kind.description} error ({text})."

/-- What to do about the fault. -/
def SystemFault.advice : SystemFault → String
  | .unknownOperator _ | .strayPattern _ =>
    "This is a bug in the interpreter, please report it with example code."
  | .notUtf8 | .io ⟨.invalidData, _⟩ => "Make sure that the file is a valid UTF-8 file."
  | .io ⟨.notFound, _⟩ =>
    "Make sure that the file exists and that you have permissions to access it."
  | .io ⟨.permissionDenied, _⟩ => "Make sure that you have permissions to access the file."
  | .io _ => "Check the internal error message and try searching for a solution online."

/-- What a builtin function can report. -/
inductive BuiltinFault
  /-- The builtin expects a text. -/
  | notText (builtin : String) (got : Kind)
  /-- The builtin expects an array. -/
  | notArray (builtin : String) (got : Kind)
  /-- The builtin expects a regular expression. -/
  | badPattern (builtin pattern : String) (cause : Regex.Error)
  /-- The value is no character code. -/
  | notCode (got : Kind)
  /-- The number is no character code. -/
  | badCode (x : Float)
  /-- The value has no length. -/
  | noLength (got : Kind)
  /-- The value, which is shown, is no capacity. -/
  | badCapacity (shown : String)
  /-- The capacity is too large. -/
  | outOfMemory (x : Float)
  /-- The text is no number. -/
  | notNumeral (shown : String)
  /-- The console cannot be read. -/
  | console (cause : IoFault)
  deriving Repr

/-- The sentence that states the fault. -/
def BuiltinFault.message : BuiltinFault → String
  | .notText name got => s!"{name}() expects a string, but got {got.name}."
  | .notArray name got => s!"{name}() expects an array, but got {got.name}."
  | .badPattern name pattern cause =>
    s!"Invalid regex supplied to {name}(): {cause.message pattern.toList}"
  | .notCode got => s!"charToStr() expects a numerical character code, but got {got.name}."
  | .badCode x => s!"'{Number.plain x}' is not a valid character code."
  | .noLength got => s!"Can only retrieve the length of strings and arrays, but got {got.name}."
  | .badCapacity shown => s!"'{shown}' is not a valid array capacity."
  | .outOfMemory x => s!"Cannot allocate an array with {Number.plain x} elements."
  | .notNumeral shown => s!"Cannot parse '{shown}' as a number."
  | .console cause => s!"Failed to access the console: {cause.text}."

mutual

/-- Something that is wrong, with the place of the program where it is. -/
inductive Diagnostic
  /-- The syntax is wrong. -/
  | syntactic (location : Location) (fault : SyntaxFault)
  /-- The scopes are wrong. -/
  | scoping (location : Location) (fault : ScopeFault)
  /-- Something went wrong while the program ran. -/
  | runtime (location : Location) (fault : Fault)
  /-- Something is wrong around the program. -/
  | system (fault : SystemFault)

/-- What is wrong with the scopes of a program or with the files that it imports. -/
inductive ScopeFault
  /-- The name has a binding in the same scope. -/
  | alreadyDeclared (name : String)
  /-- The name is used in the expression that gives it its first value. -/
  | ownInitializer (name : String)
  /-- The name stands twice among the parameters of a function. -/
  | duplicateParameter (name : String)
  /-- What is imported is not given as a text. -/
  | importNotText
  /-- There is no file at the place that is imported. -/
  | importMissing (target : String)
  /-- The file that is imported cannot be read. -/
  | importUnreadable (target : String) (cause : IoFault)
  /-- The file that is imported has an error of its own. -/
  | brokenImport (path : String) (cause : Diagnostic)

/-- What can go wrong while a program runs. -/
inductive Fault
  /-- The operand of a sign is no number. -/
  | operandNotNumber (got : Kind)
  /-- The operands are not both numbers. -/
  | operandsNotNumbers (left right : Kind)
  /-- The operands are not both numbers, and none is a text. -/
  | invalidAddition (left right : Kind)
  /-- A number is divided by zero. -/
  | divideByZero
  /-- The name has no binding. -/
  | undefinedVariable (name : String)
  /-- The value is no function. -/
  | notCallable (got : Kind)
  /-- The number of arguments is wrong. -/
  | arity (expected got : Nat)
  /-- The value is no array. -/
  | notAnArray (got : Kind)
  /-- The array has no element. -/
  | emptyArray
  /-- The value, which is shown, is no index. -/
  | invalidIndex (shown : String)
  /-- No element has the index. -/
  | indexOutOfBounds (i : Int)
  /-- The end of a slice lies outside the array. -/
  | upperBoundOutOfBounds (i : Int)
  /-- The end of a slice comes before its start. -/
  | invertedSlice (lower upper : Int)
  /-- A loop is left where there is none. -/
  | breakOutsideLoop
  /-- An import fails. -/
  | failedImport (path : String) (cause : ImportFailure)
  /-- The evaluation of a text fails. -/
  | failedEval (causes : List Diagnostic)
  /-- A builtin function fails. -/
  | builtin (cause : BuiltinFault)

/-- Why an import fails. -/
inductive ImportFailure
  /-- What is imported is not given as a text. -/
  | notText
  /-- The file cannot be read. -/
  | unreadable (cause : IoFault)
  /-- The file is being imported already. -/
  | reentrant
  /-- The file cannot be compiled or fails. -/
  | nested (causes : List Diagnostic)

end

mutual

/-- The whole text of a diagnostic. -/
def Diagnostic.text : Diagnostic → String
  | .syntactic l f => s!"Syntax error {l.text}: {f.message}\n  advice: {f.advice}"
  | .scoping l f => s!"Resolution error {l.text}: {f.message}\n  advice: {f.advice}"
  | .runtime l f => s!"Runtime error {l.text}: {f.message}"
  | .system f => s!"{f.message}\n  advice: {f.advice}"

/-- The sentence that states the fault. -/
def ScopeFault.message : ScopeFault → String
  | .alreadyDeclared name => s!"Variable '{name}' is already declared in this scope."
  | .ownInitializer name => s!"Cannot read local variable '{name}' in its own initializer."
  | .duplicateParameter name => s!"Duplicate parameter '{name}' in function definition."
  | .importNotText => "Imports must name a file using a string."
  | .importMissing target => s!"Could not find the imported file '{target}'."
  | .importUnreadable target cause => s!"Could not read the imported file '{target}': {cause.text}."
  | .brokenImport path cause => s!"The imported file '{path}' contains an error. {cause.text}"

/-- How to mend the program. -/
def ScopeFault.advice : ScopeFault → String
  | .alreadyDeclared _ =>
    "Use `assign` to give the existing variable a new value, or pick a different name."
  | .ownInitializer _ =>
    "Make sure you are not masking a variable with the same name and try using a different name " ++
      "for this variable if you are."
  | .duplicateParameter _ => "Make sure you are not using the same parameter name twice."
  | .importNotText => "Import files like `import(\"path/to/file.fox\")`."
  | .importMissing _ => "Import paths are relative to the directory of the importing file."
  | .importUnreadable _ _ =>
    "Make sure that the file exists and that you have permissions to access it."
  | .brokenImport _ _ => "Fix the errors in the imported file before importing it."

/-- The sentence that states the fault. -/
def Fault.message : Fault → String
  | .operandNotNumber got => s!"Operand must be a number, but got {got.name}."
  | .operandsNotNumbers left right =>
    s!"Operands must be numbers, but got {left.name} and {right.name}."
  | .invalidAddition left right =>
    "Operands must be two numbers, or at least one of them a string, but got " ++
      s!"{left.name} and {right.name}."
  | .divideByZero => "Cannot divide by zero."
  | .undefinedVariable name => s!"Undefined variable '{name}'."
  | .notCallable got => s!"Can only invoke functions, but got {got.name}."
  | .arity expected got => s!"Expected {expected} arguments but got {got}."
  | .notAnArray got => s!"Can only access arrays using `[]` syntax, but got {got.name}."
  | .emptyArray => "Cannot access an empty array."
  | .invalidIndex shown => s!"Index expression didn't result in a valid index value: '{shown}'."
  | .indexOutOfBounds i => s!"Array index out of bounds '{i}'."
  | .upperBoundOutOfBounds i => s!"Array upper bound out of bounds '{i}'."
  | .invertedSlice lower upper =>
    s!"Array index '{lower}' is greater than the upper bound '{upper}'."
  | .breakOutsideLoop => "Break expressions are only valid inside loops."
  | .failedImport path cause =>
    s!"Something went wrong trying to import '{path}': {cause.message}"
  | .failedEval causes =>
    s!"Something went wrong evaluating the provided source: {Diagnostic.listText causes}"
  | .builtin cause => cause.message

/-- The reason as a message gives it. -/
def ImportFailure.message : ImportFailure → String
  | .notText => "imports must name a file using a string"
  | .unreadable cause => cause.text
  | .reentrant => "the file is already being imported"
  | .nested causes => Diagnostic.listText causes

/-- The texts of several diagnostics, each on lines of its own. -/
def Diagnostic.listText : List Diagnostic → String
  | [] => ""
  | [d] => d.text
  | d :: ds => d.text ++ "\n" ++ Diagnostic.listText ds

end

namespace Diagnostic

/-- Whether the diagnostic is found before anything runs. -/
def isStatic : Diagnostic → Bool
  | .syntactic _ _ | .scoping _ _ => true
  | .runtime _ _ | .system _ => false

/-- The sentence that states what is wrong. -/
def message : Diagnostic → String
  | .syntactic _ f => f.message
  | .scoping _ f => f.message
  | .runtime _ f => f.message
  | .system f => f.message

/-- The place in the program, if the diagnostic is about one. -/
def location? : Diagnostic → Option Location
  | .syntactic l _ | .scoping l _ | .runtime l _ => some l
  | .system _ => none

end Diagnostic

end FoxScript
