/-!
# Positions in a source text

Lines and columns count from one. Columns count the bytes of the text in UTF-8.
-/
namespace FoxScript

/-- A place in a source text. -/
structure Position where
  /-- The line, from one. -/
  line : Nat
  /-- The byte of the line, from one. -/
  column : Nat
  deriving DecidableEq, Repr

namespace Position

/-- The start of a text. -/
def start : Position := ⟨1, 1⟩

/-- The place after a character. -/
def next (p : Position) (c : Char) : Position :=
  if c = '\n' then ⟨p.line + 1, 1⟩ else ⟨p.line, p.column + c.utf8Size⟩

/-- The place after some characters. -/
def after (p : Position) (cs : List Char) : Position := cs.foldl next p

@[simp] theorem after_nil (p : Position) : p.after [] = p := rfl

@[simp] theorem after_cons (p : Position) (c : Char) (cs : List Char) :
    p.after (c :: cs) = (p.next c).after cs := rfl

theorem after_append (p : Position) (cs ds : List Char) :
    p.after (cs ++ ds) = (p.after cs).after ds := by
  simp [after]

end Position

/-- A place in a source text together with the text that stands there. -/
structure Location where
  /-- The text at the place. -/
  sample : String
  /-- The place. -/
  position : Position
  deriving DecidableEq, Repr

/-- The location as messages give it. -/
def Location.text (l : Location) : String :=
  s!"'{l.sample}' at line {l.position.line}, column {l.position.column}"

end FoxScript
