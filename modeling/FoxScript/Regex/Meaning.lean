import FoxScript.Regex.Node
import FoxScript.Regex.Parser
import FoxScript.Unicode.Folding
import FoxScript.Unicode.Naming

/-!
# What a pattern stands for

Flags, classes and their names are worked out here. What is left is a `Node`.
-/
namespace FoxScript.Regex

open Unicode (CodeSet)

/-- The flags that hold at a place of the pattern. -/
structure Flags where
  /-- Letters match in either case. -/
  ignoreCase : Bool := false
  /-- The anchors match at lines. -/
  multiLine : Bool := false
  /-- The dot matches a line feed. -/
  dotAll : Bool := false
  /-- Repetitions are lazy unless marked. -/
  swapGreed : Bool := false
  /-- Classes range over all of Unicode. -/
  unicode : Bool := true
  /-- A carriage return ends a line too. -/
  crlf : Bool := false
  deriving DecidableEq, Repr

/-- Switches one flag. -/
def Flags.set (f : Flags) (value : Bool) : Flag → Flags
  | .ignoreCase => { f with ignoreCase := value }
  | .multiLine => { f with multiLine := value }
  | .dotAll => { f with dotAll := value }
  | .swapGreed => { f with swapGreed := value }
  | .unicode => { f with unicode := value }
  | .crlf => { f with crlf := value }
  | .verbose => f

/-- Switches the flags of a list: on up to the minus sign, and off after it. -/
def Flags.apply (f : Flags) (items : List FlagItem) : Flags :=
  go true f items
where
  /-- Goes through the entries from left to right. -/
  go (value : Bool) (f : Flags) : List FlagItem → Flags
    | [] => f
    | .negation :: rest => go false f rest
    | .flag g :: rest => go value (f.set value g) rest

/-- Refuses a part of the pattern. -/
def refuse {α : Type} (fault : Fault) (span : Span) : Except Error α :=
  .error (.malformed fault span none)

/-! ### Sets of characters -/

/-- The set of the characters in some ranges. -/
def charRanges (rs : List (Char × Char)) : CodeSet :=
  CodeSet.ofRanges (rs.map fun (a, b) => ⟨a.toNat, b.toNat⟩)

/-- The ASCII characters of the class that has this name between colons. -/
def asciiClass (name : String) : CodeSet :=
  charRanges (match name with
    | "alnum" => [('0', '9'), ('A', 'Z'), ('a', 'z')]
    | "alpha" => [('A', 'Z'), ('a', 'z')]
    | "ascii" => [('\x00', '\x7f')]
    | "blank" => [('\t', '\t'), (' ', ' ')]
    | "cntrl" => [('\x00', '\x1f'), ('\x7f', '\x7f')]
    | "digit" => [('0', '9')]
    | "graph" => [('!', '~')]
    | "lower" => [('a', 'z')]
    | "print" => [(' ', '~')]
    | "punct" => [('!', '/'), (':', '@'), ('[', '\x60'), ('\x7b', '~')]
    | "space" => [('\t', '\x0d'), (' ', ' ')]
    | "upper" => [('A', 'Z')]
    | "word" => [('0', '9'), ('A', 'Z'), ('_', '_'), ('a', 'z')]
    | "xdigit" => [('0', '9'), ('A', 'F'), ('a', 'f')]
    | _ => [])

/-- The characters of a class that a letter names. -/
def perlClass (unicode : Bool) : PerlClass → CodeSet
  | .digit => if unicode then Unicode.decimalDigit else asciiClass "digit"
  | .space => if unicode then Unicode.whiteSpace else asciiClass "space"
  | .word => if unicode then Unicode.wordCharacter else asciiClass "word"

/-- The set with the ASCII letters of the other case. -/
def foldAscii (s : CodeSet) : CodeSet :=
  let shifted (low high : Char) (move : Nat → Nat) : CodeSet :=
    CodeSet.ofRanges (((s ∩ charRanges [(low, high)]).ranges.toList).map fun r =>
      ⟨move r.low, move r.high⟩)
  s ∪ shifted 'A' 'Z' (· + 32) ∪ shifted 'a' 'z' (· - 32)

/-- The set with the case variants that the flags ask for. -/
def fold (f : Flags) (s : CodeSet) : CodeSet :=
  if !f.ignoreCase then s else if f.unicode then s.fold else foldAscii s

/-- The set, or what lies outside it if `negated`. Where Unicode is switched off the universe is
that of bytes, and the outcome must be ASCII: other bytes are no characters. -/
def negate (f : Flags) (span : Span) (negated : Bool) (s : CodeSet) : Except Error CodeSet :=
  if f.unicode then .ok (if negated then s.complement else s)
  else
    let s := if negated then CodeSet.range 0 255 \ s else s
    if s.isAscii then .ok s else refuse .invalidUtf8 span

/-- The set that a name stands for, or the fault of a class that has such a name. -/
def namedSet (span : Span) : Except Unicode.NamingFault CodeSet → Except Error CodeSet
  | .ok s => .ok s
  | .error .unknownProperty => refuse .unicodePropertyNotFound span
  | .error .unknownValue => refuse .unicodePropertyValueNotFound span

/-- The characters of a class named by a property. -/
def propertyClass (f : Flags) (span : Span) (negated : Bool) (query : PropertyQuery) :
    Except Error CodeSet := do
  if !f.unicode then refuse .unicodeNotAllowed span
  match query with
  | .letter c =>
    negate f span negated (fold f (← namedSet span (CodeSet.ofName (String.singleton c))))
  | .name n => negate f span negated (fold f (← namedSet span (CodeSet.ofName n)))
  | .value unlike n v =>
    negate f span (negated != unlike) (fold f (← namedSet span (CodeSet.ofValue n v)))

/-- The character of a literal. Without Unicode a number from 128 on would be a byte and no
character. -/
def literalChar (f : Flags) (l : Literal) : Except Error Char :=
  if !f.unicode && l.isByte && l.char.toNat > 127 then refuse .invalidUtf8 l.span else .ok l.char

/-- The character of a literal in a class. Without Unicode it must be ASCII. -/
def classChar (f : Flags) (l : Literal) : Except Error Nat := do
  let c ← literalChar f l
  if !f.unicode && c.toNat > 127 then refuse .unicodeNotAllowed l.span
  return c.toNat

mutual

/-- The characters of an entry of a class. -/
def ClassItem.toSet (f : Flags) : ClassItem → Except Error CodeSet
  | .literal l => do return CodeSet.single (← classChar f l)
  | .range _ low high => do return CodeSet.range (← classChar f low) (← classChar f high)
  | .ascii span negated name => negate f span negated (fold f (asciiClass name))
  | .unicode span negated query => propertyClass f span negated query
  | .perl span negated kind => negate f span negated (perlClass f.unicode kind)
  | .bracketed span negated body => do negate f span negated (fold f (← body.toSet f))

/-- The characters of the inside of a class. -/
def ClassBody.toSet (f : Flags) : ClassBody → Except Error CodeSet
  | .union _ items => ClassItem.unionOf f items
  | .operation _ op left right => do
    let l := fold f (← left.toSet f)
    let r := fold f (← right.toSet f)
    return match op with
      | .intersection => l ∩ r
      | .difference => l \ r
      | .symmetricDifference => l.symmDiff r

/-- The characters that some entry has. -/
def ClassItem.unionOf (f : Flags) : List ClassItem → Except Error CodeSet
  | [] => .ok ∅
  | item :: items => do
    let s ← item.toSet f
    return s ∪ (← ClassItem.unionOf f items)

end

/-! ### Trees -/

/-- The condition that an anchor states under the flags. -/
def Anchor.look (f : Flags) : Anchor → Look
  | .startLine => if f.multiLine then .lineStart f.crlf else .start
  | .endLine => if f.multiLine then .lineStop f.crlf else .stop
  | .startText => .start
  | .endText => .stop
  | .wordBoundary => .wordBoundary f.unicode
  | .notWordBoundary => .notWordBoundary f.unicode
  | .wordStart => .wordStart f.unicode
  | .wordEnd => .wordEnd f.unicode
  | .wordStartHalf => .wordStartHalf f.unicode
  | .wordEndHalf => .wordEndHalf f.unicode

/-- The characters that the dot matches. -/
def dotSet (f : Flags) : CodeSet :=
  if f.dotAll then .all
  else if f.crlf then (charRanges [('\n', '\n'), ('\r', '\r')]).complement
  else (CodeSet.single 10).complement

mutual

/-- What a tree stands for under the flags, and the flags that hold after it. -/
def Ast.toNode (f : Flags) : Ast → Except Error (Node × Flags)
  | .empty _ => .ok (.empty, f)
  | .flags _ items => .ok (.empty, f.apply items)
  | .literal l => do
    let c ← literalChar f l
    return (.ofSet (fold f (.single c.toNat)), f)
  | .dot span =>
    if f.unicode then .ok (.ofSet (dotSet f), f) else refuse .invalidUtf8 span
  | .anchor _ kind => .ok (.look (kind.look f), f)
  | .unicode span negated query => do return (.ofSet (← propertyClass f span negated query), f)
  | .perl span negated kind => do
    return (.ofSet (← negate f span negated (perlClass f.unicode kind)), f)
  | .bracketed span negated body => do
    return (.ofSet (← negate f span negated (fold f (← body.toSet f))), f)
  | .repetition _ least most greedy body => do
    let (node, f) ← body.toNode f
    return (.repeated least most (greedy != f.swapGreed) node, f)
  | .group _ (.capture index _) body => do
    let (node, _) ← body.toNode f
    return (.capture index node, f)
  | .group _ (.plain items) body => do
    let (node, _) ← body.toNode (f.apply items)
    return (node, f)
  | .alternation _ branches => do
    let (nodes, f) ← Ast.toNodes f branches
    return (.choice nodes, f)
  | .concat _ items => do
    let (nodes, f) ← Ast.toNodes f items
    return (.sequence nodes, f)

/-- What several trees stand for, each under the flags that the ones before leave. -/
def Ast.toNodes (f : Flags) : List Ast → Except Error (List Node × Flags)
  | [] => .ok ([], f)
  | a :: as => do
    let (node, f) ← a.toNode f
    let (nodes, f) ← Ast.toNodes f as
    return (node :: nodes, f)

end

mutual

/-- The names of the groups of a tree with their numbers. -/
def Ast.groupNames : Ast → List (String × Nat)
  | .group _ (.capture index (some name)) body => (name, index) :: body.groupNames
  | .group _ _ body | .repetition _ _ _ _ body => body.groupNames
  | .alternation _ parts | .concat _ parts => Ast.allGroupNames parts
  | _ => []

/-- The names of the groups of several trees. -/
def Ast.allGroupNames : List Ast → List (String × Nat)
  | [] => []
  | a :: as => a.groupNames ++ Ast.allGroupNames as

end

end FoxScript.Regex
