/-!
# Paths

A path is a text in which slashes separate names. A path that starts with a slash is absolute.
-/
namespace FoxScript

/-- The path of a file or directory, as it is written. -/
structure Path where
  /-- The characters. -/
  chars : List Char
  deriving DecidableEq, Repr

namespace Path

/-- The path that a text writes. -/
def ofString (s : String) : Path := ⟨s.toList⟩

/-- The text of the path. -/
def toString (p : Path) : String := String.ofList p.chars

/-- The path of the current directory. -/
def current : Path := ⟨['.']⟩

/-- Whether the path starts at the root. -/
def isAbsolute (p : Path) : Bool := p.chars.head? == some '/'

/-- The parts of some characters between slashes; there is always one more part than slashes. -/
def splitSlashes : List Char → List (List Char)
  | [] => [[]]
  | '/' :: cs => [] :: splitSlashes cs
  | c :: cs =>
    match splitSlashes cs with
    | part :: parts => (c :: part) :: parts
    | [] => [[c]]

/-- The path of `q` seen from the directory `p`. -/
def join (p q : Path) : Path :=
  if q.isAbsolute then q
  else if p.chars.isEmpty || p.chars.getLast? == some '/' then ⟨p.chars ++ q.chars⟩
  else ⟨p.chars ++ '/' :: q.chars⟩

/-- The length of what stands before the first name: the slash of an absolute path, or a dot that
is a whole part. -/
def leadLength : List Char → Nat
  | '/' :: _ => 1
  | ['.'] => 1
  | '.' :: '/' :: _ => 1
  | _ => 0

/-- Whether the part names nothing: it is empty or a dot. -/
def isIdle (part : List Char) : Bool := part == [] || part == ['.']

/-- The path of the directory that holds `p`: the last name is left out, with the idle parts around
it. There is none for a path without names, for which the empty path stands. -/
def parent (p : Path) : Path :=
  let lead := p.chars.take (leadLength p.chars)
  let parts := (splitSlashes (p.chars.drop (leadLength p.chars))).reverse.dropWhile isIdle
  match parts with
  | [] => ⟨[]⟩
  | _ :: before => ⟨lead ++ ['/'].intercalate (before.dropWhile isIdle).reverse⟩

end Path

end FoxScript
