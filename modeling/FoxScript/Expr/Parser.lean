import FoxScript.Diagnostic
import FoxScript.Expr.Basic

/-!
# Reading tokens as expressions

A production of the grammar takes tokens from the front of the list that is left, or reports what it
misses there. Operators have levels: the conditional, `or`, `and`, equality, comparison, sums,
products, signs, calls, and what stands for itself; each level is read from the next one.

Nesting is read through two parameters that stand for the productions one level further in: `expr`
for expressions, and `body` for the places at which a function may be written without a keyword.
`read` ties the knot. Each level of nesting and each round of a loop takes at least one token, so
the number of tokens bounds the depth and the `rounds`.
-/
namespace FoxScript

namespace Grammar

/-- What is missing where reading stops. -/
inductive Miss
  /-- A certain kind of token. -/
  | token (e : Expectation)
  /-- An expression. -/
  | expression
  deriving DecidableEq, Repr

/-- The tokens that are left, and the next number for a use of a name. -/
structure Cursor where
  /-- The tokens that are left. -/
  rest : List Token
  /-- The next number. -/
  fresh : Nat

/-- A production: it takes tokens and gives a part of a tree, or it stops. -/
abbrev Production := EStateM Miss Cursor

/-! ### Single tokens -/

/-- The kind of the next token. -/
def nextKind? : Production (Option TokenKind) := return (← get).rest.head?.map Token.kind

/-- Takes the next token if its kind is one of `kinds`. -/
def takeOneOf? (kinds : List TokenKind) : Production (Option Token) :=
  modifyGet fun s =>
    match s.rest with
    | t :: rest => if kinds.contains t.kind then (some t, { s with rest := rest }) else (none, s)
    | [] => (none, s)

@[simp] theorem takeOneOf?_nil (kinds : List TokenKind) (fresh : Nat) :
    takeOneOf? kinds ⟨[], fresh⟩ = .ok none ⟨[], fresh⟩ := rfl

@[simp] theorem takeOneOf?_cons (kinds : List TokenKind) (t : Token) (rest : List Token)
    (fresh : Nat) :
    takeOneOf? kinds ⟨t :: rest, fresh⟩ =
      if kinds.contains t.kind then .ok (some t) ⟨rest, fresh⟩ else .ok none ⟨t :: rest, fresh⟩ := by
  have run {α : Type} (f : Cursor → α × Cursor) (s : Cursor) :
      (modifyGet f : Production α) s = .ok (f s).1 (f s).2 := rfl
  rw [takeOneOf?, run]
  dsimp only
  split <;> rfl

/-- Takes the next token if it has the kind, and tells whether it did. -/
def accept (kind : TokenKind) : Production Bool := return (← takeOneOf? [kind]).isSome

/-- Takes the next token. -/
def skip : Production Unit := modify fun s => { s with rest := s.rest.drop 1 }

/-- Takes the token that must stand here. -/
def expect (e : Expectation) : Production Token := do
  match ← takeOneOf? [e.kind] with
  | some t => return t
  | none => throw (.token e)

/-- A new number for a use of a name. -/
def newId : Production NodeId :=
  modifyGet fun s => (⟨s.fresh⟩, { s with fresh := s.fresh + 1 })

/-! ### Lists and chains -/

/-- Reads one or more parts with commas between them. -/
def sepByComma {α : Type} (item : Production α) : Nat → Production (List α)
  | 0 => return []
  | n + 1 => do
    let a ← item
    if ← accept .comma then return a :: (← sepByComma item n) else return [a]

/-- Reads parts with commas between them up to a token of the kind `close`, which is not taken. -/
def listUntil {α : Type} (rounds : Nat) (close : TokenKind) (item : Production α) :
    Production (List α) := do
  if (← nextKind?) = some close then return []
  sepByComma item rounds

/-- Reads parts, each of which may be followed by a comma, up to a token of the kind `close`, which
is not taken, or to the end. -/
def members {α : Type} (close : TokenKind) (item : Production α) : Nat → Production (List α)
  | 0 => return []
  | n + 1 => do
    match ← nextKind? with
    | none => return []
    | some k =>
      if k = close then return []
      else
        let a ← item
        discard (accept .comma)
        return a :: (← members close item n)

/-- Reads further operands after `left`, with operators of the given kinds before them. -/
def chainFrom (kinds : List TokenKind) (make : Expr → Token → Expr → Expr)
    (operand : Production Expr) (left : Expr) : Nat → Production Expr
  | 0 => return left
  | n + 1 => do
    match ← takeOneOf? kinds with
    | none => return left
    | some op => do
      let right ← operand
      chainFrom kinds make operand (make left op right) n

/-- Reads operands with operators of the given kinds between them, which lean to the left. -/
def chain (rounds : Nat) (kinds : List TokenKind) (make : Expr → Token → Expr → Expr)
    (operand : Production Expr) : Production Expr := do
  let left ← operand
  chainFrom kinds make operand left rounds

/-! ### Functions -/

/-- Whether identifiers with commas between them, a closing parenthesis and an arrow come next. -/
def parametersAhead : List Token → Bool
  | t :: rest =>
    match t.kind, rest with
    | .rightParen, arrow :: _ => arrow.kind == .arrow
    | .identifier, rest => go rest
    | _, _ => false
  | [] => false
where
  /-- Goes on after an identifier. -/
  go : List Token → Bool
    | t :: u :: rest =>
      match t.kind, u.kind with
      | .rightParen, .arrow => true
      | .comma, .identifier => go rest
      | _, _ => false
    | _ => false

/-- Whether the header of a function comes next: a parameter list and an arrow. -/
def arrowAhead (ts : List Token) : Bool :=
  match ts with
  | t :: rest => t.kind == .leftParen && parametersAhead rest
  | [] => false

/-- Reads a function from its parameter list on. -/
def functionTail (rounds : Nat) (body : Production Expr) (name : Option Token) :
    Production Expr := do
  discard (expect .openParameters)
  let params ← listUntil rounds .rightParen (expect .parameter)
  discard (expect .closeParameters)
  discard (expect .functionArrow)
  let body ← body
  return .function name params body

/-! ### Levels -/

section

variable (rounds : Nat) (expr body : Production Expr)

/-- Reads what stands for itself: a constant, a name, a function, a block, an array or a group. -/
def primary : Production Expr := do
  match (← get).rest with
  | [] => throw .expression
  | t :: _ =>
    match t.kind with
    | .false => do skip; return .literal (.bool false)
    | .true => do skip; return .literal (.bool true)
    | .null => do skip; return .literal .null
    | .number | .string => do skip; return .literal (t.literal.getD .null)
    | .identifier => do
      skip
      return .variable (← newId) t
    | .defun => do
      skip
      discard (expect .openAnonymous)
      let f ← functionTail rounds body none
      discard (expect .closeDefun)
      return f
    | .leftBrace => do
      skip
      let members ← members .rightBrace body rounds
      discard (expect .closeBlock)
      return .block members
    | .leftBracket => do
      skip
      let elements ← listUntil rounds .rightBracket body
      let close ← expect .closeArray
      return .array elements close
    | .leftParen => do
      skip
      let inner ← expr
      discard (expect .closeGroup)
      return .group inner
    | _ => throw .expression

/-- Reads the calls and indices that follow `target`. -/
def callsAfter (target : Expr) : Nat → Production Expr
  | 0 => return target
  | n + 1 => do
    match ← nextKind? with
    | some .leftParen => do
      skip
      let args ← listUntil rounds .rightParen body
      let close ← expect .closeCall
      callsAfter (.call target args close) n
    | some .leftBracket => do
      skip
      let lower ← expr
      if ← accept .colon then
        let upper ← expr
        let close ← expect .closeIndex
        callsAfter (.slice target lower upper close) n
      else
        let close ← expect .closeIndex
        callsAfter (.index target lower close) n
    | _ => return target

/-- Reads calls and indices, and what they apply to. -/
def call : Production Expr := do
  let target ← primary rounds expr body
  callsAfter rounds expr body target rounds

/-- Reads signs and what they apply to. -/
def signsThen (operand : Production Expr) : Nat → Production Expr
  | 0 => operand
  | n + 1 => do
    match ← takeOneOf? [.bang, .minus] with
    | some op => return .unary op (← signsThen operand n)
    | none => operand

/-- Reads a sign and its operand, or a call. -/
def unary : Production Expr := do signsThen (call rounds expr body) rounds

/-- Reads a product or a quotient. -/
def factor : Production Expr := chain rounds [.star, .slash] .binary (unary rounds expr body)

/-- Reads a sum or a difference. -/
def term : Production Expr := chain rounds [.minus, .plus] .binary (factor rounds expr body)

/-- Reads a comparison of size. -/
def comparison : Production Expr :=
  chain rounds [.greater, .greaterEqual, .less, .lessEqual] .binary (term rounds expr body)

/-- Reads a test of equality. -/
def equality : Production Expr :=
  chain rounds [.bangEqual, .equalEqual] .binary (comparison rounds expr body)

/-- Reads values joined by `and`. -/
def conjunction : Production Expr := chain rounds [.and] .logical (equality rounds expr body)

/-- Reads values joined by `or`. -/
def disjunction : Production Expr := chain rounds [.or] .logical (conjunction rounds expr body)

/-- Reads a conditional, or what can be its condition. -/
def ternary : Production Expr := do
  let condition ← disjunction rounds expr body
  match ← takeOneOf? [.questionMark] with
  | none => return condition
  | some op => do
    let yes ← body
    discard (expect .ternaryColon)
    let no ← body
    return .ternary condition yes no op

/-! ### Keyword forms, from behind the keyword on -/

/-- Reads a declaration. -/
def declaration : Production Expr := do
  discard (expect .openVar)
  let name ← expect .varName
  if ← accept .comma then
    let value ← body
    discard (expect .closeVar)
    return .declareAs name value
  else
    discard (expect .closeVar)
    return .declare name

/-- Reads an assignment. -/
def assignment : Production Expr := do
  discard (expect .openAssign)
  let name ← expect .assignName
  if ← accept .leftBracket then
    let index ← expr
    discard (expect .closeElement)
    discard (expect .assignComma)
    let value ← body
    discard (expect .closeAssign)
    return .assignElement (← newId) name index value
  else
    discard (expect .assignComma)
    let value ← body
    discard (expect .closeAssign)
    return .assign (← newId) name value

/-- Reads an import. -/
def importing : Production Expr := do
  discard (expect .openImport)
  let path ← expect .importPath
  discard (expect .closeImport)
  return .import path

/-- Reads a loop, with a condition if there is a comma. -/
def looping (keyword : Token) : Production Expr := do
  discard (expect .openWhile)
  let first ← body
  if ← accept .comma then
    let second ← body
    discard (expect .closeWhile)
    return .loopWhile keyword first second
  else
    discard (expect .closeWhile)
    return .loop keyword first

/-- Reads the condition of a case: an underscore, or values with bars between them. -/
def caseCondition (value : Production Expr) : Nat → Production Expr
  | 0 => value
  | n + 1 => do
    match ← takeOneOf? [.underscore] with
    | some wildcard => return .anyPattern wildcard
    | none => do
      let left ← value
      match ← takeOneOf? [.pipe] with
      | some pipe => return .orPattern left pipe (← caseCondition value n)
      | none => return left

/-- Reads a case of a match. -/
def matchCase : Production Case := do
  let condition ← caseCondition (ternary rounds expr body) rounds
  let arrow ← expect .caseArrow
  return .mk arrow condition (← body)

/-- Reads a match. -/
def matching (keyword : Token) : Production Expr := do
  let scrutinee ← ternary rounds expr body
  discard (expect .openMatch)
  let cases ← members .rightBrace (matchCase rounds expr body) rounds
  discard (expect .closeMatch)
  return .match keyword scrutinee cases

/-- Reads the definition of a named function. -/
def namedFunction : Production Expr := do
  discard (expect .openNamed)
  let name ← expect .functionName
  discard (expect .functionComma)
  let f ← functionTail rounds body (some name)
  discard (expect .closeDefun)
  return f

/-- Reads an expression. Behind `defun` a named function comes if the second token is an
identifier. -/
def expression : Production Expr := do
  match (← get).rest with
  | [] => ternary rounds expr body
  | t :: rest =>
    match t.kind with
    | .defun =>
      if rest[1]?.any (·.kind == .identifier) then do skip; namedFunction rounds body
      else ternary rounds expr body
    | .var => do skip; declaration body
    | .assign => do skip; assignment expr body
    | .import => do skip; importing
    | .while => do skip; looping body t
    | .match => do skip; matching rounds expr body t
    | .break => do skip; return .break t
    | _ => ternary rounds expr body

/-- Reads a function without a keyword where its header comes next, and an expression otherwise. -/
def functionOrExpression : Production Expr := do
  if arrowAhead (← get).rest then functionTail rounds body none else expression rounds expr body

end

/-- The two places of the grammar at which nesting goes on. -/
inductive Place
  /-- An expression. -/
  | expr
  /-- An expression, or a function without a keyword. -/
  | body
  deriving DecidableEq, Repr

/-- Reads what stands at a place, nested at most so deep. -/
def read : Nat → Place → Production Expr
  | 0, _ => throw .expression
  | n + 1, .expr => expression (n + 1) (read n .expr) (read n .body)
  | n + 1, .body => functionOrExpression (n + 1) (read n .expr) (read n .body)

end Grammar

/-! ### Programs -/

/-- A list of expressions with the faults found on the way. -/
structure Parse where
  /-- The expressions that could be read. -/
  exprs : List Expr
  /-- The faults. -/
  faults : List Diagnostic
  /-- The next number for a use of a name. -/
  fresh : Nat

namespace Parse

open Grammar

/-- The place after the last of some tokens. -/
def endLocation (tokens : List Token) : Location :=
  ⟨"end of input", (tokens.getLast?.map Token.stop).getD .start⟩

/-- The fault that something is missing before the tokens `rest`, the last of `all`. -/
def faultAt (all rest : List Token) (miss : Miss) : Diagnostic :=
  let found := rest.head?.map Token.lexeme
  let location := (rest.head?.map Token.location).getD (endLocation all)
  match miss with
  | .token e => .syntactic location (.unmet e found)
  | .expression => .syntactic location (.noExpression found)

/-- Reads the expressions of the tokens that are left, the last of `all`. After a fault reading goes
on where it stopped, or one token later if it took none. -/
def ofRest (all : List Token) (depth : Nat) : Nat → Cursor → Parse
  | 0, s => ⟨[], [], s.fresh⟩
  | n + 1, s =>
    match s.rest with
    | [] => ⟨[], [], s.fresh⟩
    | _ :: after =>
      match Grammar.read depth .expr s with
      | .ok e t =>
        let p := ofRest all depth n t
        { p with exprs := e :: p.exprs }
      | .error miss t =>
        let rest := if t.rest.length = s.rest.length then after else t.rest
        let p := ofRest all depth n { t with rest := rest }
        { p with faults := faultAt all t.rest miss :: p.faults }

/-- Reads the expressions of a list of tokens. The uses of names are numbered from `fresh` on. -/
def ofTokens (fresh : Nat) (tokens : List Token) : Parse :=
  ofRest tokens (tokens.length + 1) tokens.length ⟨tokens, fresh⟩

end Parse

end FoxScript
