import FoxScript.Regex.Reader

/-!
# Reading classes in brackets

A class in brackets is a list of entries, possibly cut by the operators `&&`, `--` and `~~`, which
lean to the left. Classes nest.
-/
namespace FoxScript.Regex

/-- The part of the pattern that an entry of a class comes from. -/
def ClassItem.span : ClassItem → Span
  | .literal l => l.span
  | .range s _ _ | .ascii s _ _ | .unicode s _ _ | .perl s _ _ | .bracketed s _ _ => s

/-- The part of the pattern that the inside of a class comes from. -/
def ClassBody.span : ClassBody → Span
  | .union s _ | .operation s _ _ _ => s

/-- Entries read so far: where their span starts if there are none, and the entries, last first. -/
structure Entries where
  /-- The index at which reading began. -/
  origin : Nat
  /-- The entries, the last one first. -/
  items : List ClassItem

/-- Entries of which none is read yet. -/
def Entries.none (origin : Nat) : Entries := ⟨origin, []⟩

/-- Adds an entry. -/
def Entries.push (e : Entries) (item : ClassItem) : Entries := { e with items := item :: e.items }

/-- The class of all that the entries have. A single entry gives its own span. -/
def Entries.toBody (e : Entries) : ClassBody :=
  let items := e.items.reverse
  let start := (items.head?.map (·.span.start)).getD e.origin
  let stop := (e.items.head?.map (·.span.stop)).getD e.origin
  .union ⟨start, stop⟩ items

/-- Completes a pending operation by its right operand. -/
def ClassBody.complete : Option (ClassOperator × ClassBody) → ClassBody → ClassBody
  | none, right => right
  | some (op, left), right => .operation ⟨left.span.start, right.span.stop⟩ op left right

namespace Reader

/-- The names that a class between colons can have. -/
def asciiNames : List String :=
  ["alnum", "alpha", "ascii", "blank", "cntrl", "digit", "graph", "lower", "print", "punct", "space",
    "upper", "word", "xdigit"]

/-- Reads a class between colons, or stays in place if there is none. -/
def asciiClass? : Reader (Option ClassItem) := do
  let before ← get
  let give (negated : Bool) (after : List Char) : Reader (Option ClassItem) := do
    let name := after.takeWhile (· != ':')
    let rest := after.drop name.length
    if [':', ']'].isPrefixOf rest && asciiNames.contains (String.ofList name) then
      bumpMany (2 + (if negated then 1 else 0) + name.length + 2)
      return some (.ascii ⟨before.index, ← index⟩ negated (String.ofList name))
    else return none
  match before.rest with
  | '[' :: ':' :: '^' :: after => give true after
  | '[' :: ':' :: after => give false after
  | _ => return none

/-- Reads an entry's character or escape. -/
def classPrimitive : Reader Primitive := do
  match ← peek? with
  | some '\\' => escape
  | some c =>
    let start ← index
    bump
    return .literal ⟨⟨start, start + 1⟩, c, false⟩
  | none => fail .classUnclosed (← index) (← index)

/-- Takes a character or escape as an entry of its own. -/
def classEntry : Primitive → Reader ClassItem
  | .literal l => return .literal l
  | .perl s n k => return .perl s n k
  | .unicode s n q => return .unicode s n q
  | .dot s | .anchor s _ => fail .classEscapeInvalid s.start s.stop

/-- Takes a character as the end of a range. -/
def rangeEnd : Primitive → Reader Literal
  | .literal l => return l
  | p => fail .classRangeLiteral p.span.start p.span.stop

/-- Reads an entry that is no class in brackets: a character, a range or an escape. `outer` is the
span of the opening around it. -/
def classRange (outer : Span) : Reader ClassItem := do
  let first ← classPrimitive
  bumpSpace
  let beyond ← peekBeyond?
  match ← peek? with
  | none => fail .classUnclosed outer.start outer.stop
  | some c =>
    if c != '-' || beyond == some ']' || beyond == some '-' then classEntry first
    else
      unless ← bumpOn do fail .classUnclosed outer.start outer.stop
      let last ← classPrimitive
      let span : Span := ⟨first.span.start, last.span.stop⟩
      let low ← rangeEnd first
      let high ← rangeEnd last
      if high.char < low.char then fail .classRangeInvalid span.start span.stop
      return .range span low high

/-- Reads the hyphens with which a class may begin. -/
def leadingHyphens (start : Nat) (e : Entries) : Nat → Reader Entries
  | 0 => return e
  | n + 1 => do
    if (← peek?) == some '-' then
      let here ← index
      unless ← bumpOn do fail .classUnclosed start start
      leadingHyphens start (e.push (.literal ⟨⟨here, here + 1⟩, '-', false⟩)) n
    else return e

/-- Reads the opening of a class: its span, whether the class is negated, and the entries that can
only stand first. -/
def classOpening : Reader (Span × Bool × Entries) := do
  let start ← index
  let advance : Reader Unit := do
    unless ← bumpOn do fail .classUnclosed start (← index)
  advance
  let negated := (← peek?) == some '^'
  if negated then advance
  let e ← leadingHyphens start (.none (← index)) ((← get).rest.length)
  let e ← if e.items.isEmpty && (← peek?) == some ']' then do
      let here ← index
      advance
      pure (e.push (.literal ⟨⟨here, here + 1⟩, ']', false⟩))
    else pure e
  return (⟨start, ← index⟩, negated, e)

/-- Reads the rest of a class whose opening has the span `outer`, up to and with its closing
bracket. `pending` is an operation that still lacks its right operand. -/
def classRest (outer : Span) (e : Entries) (pending : Option (ClassOperator × ClassBody)) :
    Nat → Reader ClassBody
  | 0 => fail .classUnclosed outer.start outer.stop
  | n + 1 => do
    bumpSpace
    match (← get).rest with
    | [] => fail .classUnclosed outer.start outer.stop
    | c :: rest =>
      let operation (op : ClassOperator) : Reader ClassBody := do
        bumpMany 2
        let left := ClassBody.complete pending e.toBody
        classRest outer (.none (← index)) (some (op, left)) n
      if c == '[' then
        match ← asciiClass? with
        | some item => classRest outer (e.push item) pending n
        | none =>
          let (inner, negated, first) ← classOpening
          let body ← classRest inner first none n
          let item := ClassItem.bracketed ⟨inner.start, ← index⟩ negated body
          classRest outer (e.push item) pending n
      else if c == ']' then
        let body := ClassBody.complete pending e.toBody
        bump
        return body
      else if c == '&' && rest.head? == some '&' then operation .intersection
      else if c == '-' && rest.head? == some '-' then operation .difference
      else if c == '~' && rest.head? == some '~' then operation .symmetricDifference
      else
        let item ← classRange outer
        classRest outer (e.push item) pending n

/-- Reads a class in brackets. -/
def bracketed : Reader Ast := do
  let (outer, negated, first) ← classOpening
  let body ← classRest outer first none ((← get).rest.length + 1)
  return .bracketed ⟨outer.start, ← index⟩ negated body

end Reader

end FoxScript.Regex
