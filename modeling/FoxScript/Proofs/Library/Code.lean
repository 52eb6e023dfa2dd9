import FoxScript.Proofs.Scope.Anonymous

/-!
# The code of the library

The functions of the bundled library on arrays are given here as code: as expressions without the
places where they are written and without the numbers of their uses. That the text of the library is
read as this code is checked by reading it, and the numbers from which on its uses are numbered do
not matter.

## Main definitions

* `Code`, `Code.fits`: pieces of code, and the expressions that are such.
* `Library.mapCode`, `Library.filterCode`, `Library.reduceCode`, `Library.reverseCode`,
  `Library.containsCode`, `Library.pushCode`: functions of the library.

## Main statements

* `Library.read_arrays`: the text of the library can be read.
* `Library.fits_arrays`: the functions that the text of the library makes have this code.
-/
namespace FoxScript

/-- A piece of code. -/
inductive Code
  /-- The absent value. -/
  | null
  /-- A truth value. -/
  | bool (b : Bool)
  /-- A whole number. -/
  | number (n : Nat)
  /-- A use of a name. -/
  | name (x : String)
  /-- An array. -/
  | array (elements : List Code)
  /-- A new value for a name. -/
  | assign (x : String) (value : Code)
  /-- An operation on two values. -/
  | binary (left : Code) (op : TokenKind) (right : Code)
  /-- Code in a scope of its own. -/
  | block (members : List Code)
  /-- A call of a function. -/
  | call (callee : Code) (args : List Code)
  /-- An element of an array. -/
  | index (target index : Code)
  /-- An operation on two values of which the second may not be needed. -/
  | logical (left : Code) (op : TokenKind) (right : Code)
  /-- One of two values. -/
  | ternary (condition yes no : Code)
  /-- An operation on one value. -/
  | unary (op : TokenKind) (operand : Code)
  /-- A new name with a value. -/
  | declareAs (x : String) (value : Code)
  /-- A loop with a condition. -/
  | loopWhile (condition body : Code)

/-- The code of a function that has a name. -/
structure Routine where
  /-- The name. -/
  name : String
  /-- The parameters. -/
  params : List String
  /-- What is evaluated when the function is called. -/
  body : Code

namespace Code

mutual

/-- Whether an expression is a piece of code. -/
def fits : Code → Expr → Bool
  | null, .literal .null => true
  | bool b, .literal (.bool b') => b == b'
  | number n, .literal (.number x) => x = Float.ofNat n
  | name x, .variable _ t => t.lexeme = x
  | array cs, .array es _ => fitsEach cs es
  | assign x c, .assign _ t e => t.lexeme = x && c.fits e
  | binary c k d, .binary e op f => op.kind = k && c.fits e && d.fits f
  | block cs, .block es => fitsEach cs es
  | call c cs, .call e es _ => c.fits e && fitsEach cs es
  | index c d, .index e f _ => c.fits e && d.fits f
  | logical c k d, .logical e op f => op.kind = k && c.fits e && d.fits f
  | ternary c d d', .ternary e f f' _ => c.fits e && d.fits f && d'.fits f'
  | unary k c, .unary op e => op.kind = k && c.fits e
  | declareAs x c, .declareAs t e => t.lexeme = x && c.fits e
  | loopWhile c d, .loopWhile _ e f => c.fits e && d.fits f
  | _, _ => false

/-- Whether expressions are pieces of code, one by one. -/
def fitsEach : List Code → List Expr → Bool
  | [], [] => true
  | c :: cs, e :: es => c.fits e && fitsEach cs es
  | _, _ => false

end

mutual

/-- What a piece of code binds in the scope around it. -/
def bound : Code → Scope
  | null | bool _ | number _ | name _ | block _ => []
  | array cs => boundBy cs
  | assign _ c | unary _ c => c.bound
  | binary c _ d | index c d | logical c _ d | loopWhile c d => d.bound ++ c.bound
  | call c cs => boundBy cs ++ c.bound
  | ternary c d d' => d'.bound ++ (d.bound ++ c.bound)
  | declareAs x c => (x, true) :: (c.bound ++ [(x, false)])

/-- What several pieces of code bind. -/
def boundBy : List Code → Scope
  | [] => []
  | c :: cs => boundBy cs ++ c.bound

end

mutual

theorem bound_eq : ∀ (c : Code) {e : Expr}, c.fits e → e.bound = c.bound
  | null, e, h | bool _, e, h | number _, e, h => by
    cases e <;> first | rfl | cases h
  | name _, e, h | block _, e, h => by
    cases e <;> first | rfl | cases h
  | array cs, e, h => by
    cases e with
    | array es _ => exact boundBy_eq cs h
    | _ => cases h
  | assign x c, e, h => by
    cases e with
    | assign _ t e =>
      obtain ⟨-, hc⟩ := Bool.and_eq_true_iff.1 h
      rw [Expr.bound, c.bound_eq hc, bound]
    | _ => cases h
  | binary c k d, e, h => by
    cases e with
    | binary e op f =>
      obtain ⟨⟨-, hc⟩, hd⟩ := by simpa [fits] using h
      rw [Expr.bound, c.bound_eq hc, d.bound_eq hd, bound]
    | _ => cases h
  | call c cs, e, h => by
    cases e with
    | call e es _ =>
      obtain ⟨hc, hcs⟩ := Bool.and_eq_true_iff.1 h
      rw [Expr.bound, c.bound_eq hc, boundBy_eq cs hcs, bound]
    | _ => cases h
  | index c d, e, h => by
    cases e with
    | index e f _ =>
      obtain ⟨hc, hd⟩ := Bool.and_eq_true_iff.1 h
      rw [Expr.bound, c.bound_eq hc, d.bound_eq hd, bound]
    | _ => cases h
  | logical c k d, e, h => by
    cases e with
    | logical e op f =>
      obtain ⟨⟨-, hc⟩, hd⟩ := by simpa [fits] using h
      rw [Expr.bound, c.bound_eq hc, d.bound_eq hd, bound]
    | _ => cases h
  | unary k c, e, h => by
    cases e with
    | unary op e =>
      obtain ⟨-, hc⟩ := Bool.and_eq_true_iff.1 h
      rw [Expr.bound, c.bound_eq hc, bound]
    | _ => cases h
  | ternary c d d', e, h => by
    cases e with
    | ternary e f f' _ =>
      obtain ⟨⟨hc, hd⟩, hd'⟩ := by simpa [fits] using h
      rw [Expr.bound, c.bound_eq hc, d.bound_eq hd, d'.bound_eq hd', bound]
    | _ => cases h
  | declareAs x c, e, h => by
    cases e with
    | declareAs t e =>
      obtain ⟨rfl, hc⟩ := by simpa [fits] using h
      rw [Expr.bound, c.bound_eq hc, bound]
    | _ => cases h
  | loopWhile c d, e, h => by
    cases e with
    | loopWhile _ e f =>
      obtain ⟨hc, hd⟩ := Bool.and_eq_true_iff.1 h
      rw [Expr.bound, c.bound_eq hc, d.bound_eq hd, bound]
    | _ => cases h

theorem boundBy_eq : ∀ (cs : List Code) {es : List Expr}, fitsEach cs es →
    Expr.boundBy es = boundBy cs
  | [], [], _ => rfl
  | c :: cs, e :: es, h => by
    obtain ⟨hc, hcs⟩ := Bool.and_eq_true_iff.1 h
    rw [Expr.boundBy, c.bound_eq hc, boundBy_eq cs hcs, boundBy]

end

/-! ### Numbers do not matter -/

mutual

theorem fits_anonymous : ∀ (c : Code) (e : Expr), c.fits e.anonymous = c.fits e
  | null, e | bool _, e | number _, e | name _, e => by
    cases e <;> rfl
  | array cs, e | block cs, e => by
    cases e with
    | array es | block es => first | exact fitsEach_anonymous cs es | rfl
    | _ => rfl
  | assign x c, e => by
    cases e with
    | assign _ t e => rw [Expr.anonymous, fits, fits, c.fits_anonymous]
    | _ => rfl
  | binary c k d, e => by
    cases e with
    | binary e op f => rw [Expr.anonymous, fits, fits, c.fits_anonymous, d.fits_anonymous]
    | _ => rfl
  | call c cs, e => by
    cases e with
    | call e es _ => rw [Expr.anonymous, fits, fits, c.fits_anonymous, fitsEach_anonymous]
    | _ => rfl
  | index c d, e => by
    cases e with
    | index e f _ => rw [Expr.anonymous, fits, fits, c.fits_anonymous, d.fits_anonymous]
    | _ => rfl
  | logical c k d, e => by
    cases e with
    | logical e op f => rw [Expr.anonymous, fits, fits, c.fits_anonymous, d.fits_anonymous]
    | _ => rfl
  | unary k c, e => by
    cases e with
    | unary op e => rw [Expr.anonymous, fits, fits, c.fits_anonymous]
    | _ => rfl
  | ternary c d d', e => by
    cases e with
    | ternary e f f' _ =>
      rw [Expr.anonymous, fits, fits, c.fits_anonymous, d.fits_anonymous, d'.fits_anonymous]
    | _ => rfl
  | declareAs x c, e => by
    cases e with
    | declareAs t e => rw [Expr.anonymous, fits, fits, c.fits_anonymous]
    | _ => rfl
  | loopWhile c d, e => by
    cases e with
    | loopWhile _ e f => rw [Expr.anonymous, fits, fits, c.fits_anonymous, d.fits_anonymous]
    | _ => rfl

theorem fitsEach_anonymous : ∀ (cs : List Code) (es : List Expr),
    fitsEach cs (Expr.anonymousEach es) = fitsEach cs es
  | [], [] | [], _ :: _ | _ :: _, [] => rfl
  | c :: cs, e :: es => by
    rw [Expr.anonymousEach, fitsEach, fitsEach, c.fits_anonymous, fitsEach_anonymous]

end

/-- A text is read as the same code from whichever number on its uses are numbered. -/
theorem fitsEach_read (cs : List Code) (k n : Nat) (source : String) :
    fitsEach cs (Import.read k source).exprs = fitsEach cs (Import.read n source).exprs := by
  have same := Expr.anonymousEach_eq (Import.sameText_read k n source).2
  rw [← fitsEach_anonymous, same, fitsEach_anonymous]

end Code

/-! ### Functions of the library -/

/-- The scope of a call in which parameters are bound. -/
def Routine.scope (r : Routine) : Scope := (r.params.map fun p => (p, true)).reverse

/-- Whether an expression is the function. -/
def Routine.fits (r : Routine) : Expr → Bool
  | .function (some t) params body =>
    t.lexeme = r.name && params.map Token.lexeme = r.params && r.body.fits body
  | _ => false

namespace Library

/-- The body of a function that goes through an array `xs` and gathers something under a name. -/
def traversal (x : String) (first work : Code) : Code :=
  .block [
    .declareAs x first,
    .declareAs "i" (.number 0),
    .loopWhile (.binary (.name "i") .less (.call (.name "len") [.name "xs"]))
      (.block [work, .assign "i" (.binary (.name "i") .plus (.number 1))]),
    .name x]

/-- The element that is being looked at. -/
def element : Code := .index (.name "xs") (.name "i")

/-- `map`: an array of what a function gives for each element. -/
def mapCode : Routine where
  name := "map"
  params := ["xs", "f"]
  body := traversal "result" (.call (.name "Array") [.call (.name "len") [.name "xs"]])
    (.call (.name "set") [.name "result", .name "i", .call (.name "f") [element]])

/-- `filter`: an array of the elements that a function accepts. -/
def filterCode : Routine where
  name := "filter"
  params := ["xs", "keep"]
  body := traversal "result" (.array [])
    (.ternary (.call (.name "keep") [element])
      (.assign "result" (.call (.name "merge") [.name "result", .array [element]])) .null)

/-- `reduce`: what a function makes of a first value and of each element in turn. -/
def reduceCode : Routine where
  name := "reduce"
  params := ["xs", "f", "init"]
  body := traversal "acc" (.name "init")
    (.assign "acc" (.call (.name "f") [.name "acc", element]))

/-- `reverse`: an array of the elements from the last to the first. -/
def reverseCode : Routine where
  name := "reverse"
  params := ["xs"]
  body := .block [
    .declareAs "n" (.call (.name "len") [.name "xs"]),
    .declareAs "result" (.call (.name "Array") [.name "n"]),
    .declareAs "i" (.number 0),
    .loopWhile (.binary (.name "i") .less (.name "n")) (.block [
      .call (.name "set") [.name "result", .name "i",
        .index (.name "xs")
          (.binary (.binary (.name "n") .minus (.name "i")) .minus (.number 1))],
      .assign "i" (.binary (.name "i") .plus (.number 1))]),
    .name "result"]

/-- `contains`: whether one of the elements equals a value. -/
def containsCode : Routine where
  name := "contains"
  params := ["xs", "x"]
  body := .block [
    .declareAs "found" (.bool false),
    .declareAs "i" (.number 0),
    .loopWhile
      (.logical (.unary .bang (.name "found")) .and
        (.binary (.name "i") .less (.call (.name "len") [.name "xs"])))
      (.block [
        .assign "found" (.binary element .equalEqual (.name "x")),
        .assign "i" (.binary (.name "i") .plus (.number 1))]),
    .name "found"]

/-- `push`: an array of the elements and a value after them. -/
def pushCode : Routine where
  name := "push"
  params := ["xs", "x"]
  body := .call (.name "merge") [.name "xs", .array [.name "x"]]

/-- The functions of the library on arrays. -/
def routines : List Routine :=
  [mapCode, filterCode, reduceCode, reverseCode, containsCode, pushCode]

@[simp] theorem mem_routines {r : Routine} : r ∈ routines ↔ r = mapCode ∨ r = filterCode ∨
    r = reduceCode ∨ r = reverseCode ∨ r = containsCode ∨ r = pushCode := by
  simp [routines]

/-- Whether an expression that makes a function under the name of one of these is that one. -/
def isKnown : Expr → Bool
  | .function (some t) params body =>
    routines.all fun r =>
      t.lexeme != r.name || r.fits (.function (some t) params body)
  | _ => false

theorem toList_ofLines (lines : List String) :
    (ofLines lines).toList = lines.flatMap fun l => l.toList ++ ['\n'] := by
  rw [ofLines, String.toList_join, List.flatMap_map]
  exact List.flatMap_congr fun l _ => String.toList_append

/-- The name under which an expression makes a function. -/
def declares : Expr → Option String
  | .function (some t) _ _ => some t.lexeme
  | _ => none

/-- The names of these functions. -/
def names : List String := ["map", "filter", "reduce", "reverse", "contains", "push"]

/-- The text of the library is read, with the numbers from 0 on. -/
theorem read_arrays : (Import.read 0 arrays).faults = [] ∧
    (Import.read 0 arrays).exprs.map declares = names.map some ∧
    (resolve .empty .propagate .current (Import.read 0 arrays).exprs).faults.isEmpty ∧
    ∀ e ∈ (Import.read 0 arrays).exprs, isKnown e := by
  -- the text is taken line by line, as a long one takes long to be compared
  have text : Lexer.scan arrays = Lexer.scanFrom 0 .start arrays.toList := rfl
  rw [← List.all_eq_true, ← List.isEmpty_iff, Import.read, text, arrays, toList_ofLines]
  decide +kernel

theorem isKnown_of_sameText {e e' : Expr} (same : e.SameText e') (known : isKnown e) :
    isKnown e' := by
  have blind (e : Expr) : isKnown e.anonymous = isKnown e := by
    cases e with
    | function name params body =>
      cases name with
      | none => rfl
      | some t => simp only [Expr.anonymous, isKnown, Routine.fits, Code.fits_anonymous]
    | _ => rfl
  rw [← blind, same, blind]
  exact known

/-- The functions are known, from whichever number on the uses are numbered. -/
theorem isKnown_of_mem_read (k : Nat) : ∀ e ∈ (Import.read k arrays).exprs, isKnown e := by
  have known := read_arrays.2.2.2
  have same := (Import.sameText_read k 0 arrays).2
  generalize (Import.read 0 arrays).exprs = es, (Import.read k arrays).exprs = es' at known same
  induction same with
  | nil => exact nofun
  | cons h _ ih =>
    obtain ⟨first, others⟩ := List.forall_mem_cons.1 known
    exact List.forall_mem_cons.2 ⟨isKnown_of_sameText h first, ih others⟩

/-- So are their names. -/
theorem declares_read (k : Nat) : (Import.read k arrays).exprs.map declares = names.map some := by
  have declared := read_arrays.2.1
  have same := (Import.sameText_read k 0 arrays).2
  have blind (e : Expr) : declares e.anonymous = declares e := by
    cases e with
    | function name params body => cases name <;> rfl
    | _ => rfl
  rw [← declared]
  generalize (Import.read 0 arrays).exprs = es, (Import.read k arrays).exprs = es' at same
  induction same with
  | nil => rfl
  | @cons e e' es es' h _ ih =>
    have head : declares e' = declares e := by rw [← blind, h, blind]
    rw [List.map_cons, List.map_cons, head, ih]

/-- A function that the text of the library makes under the name of one of these is that one. -/
theorem fits_arrays {k : Nat} {t : Token} {params : List Token} {body : Expr}
    (mem : .function (some t) params body ∈ (Import.read k arrays).exprs) {r : Routine}
    (hr : r ∈ routines) (name : t.lexeme = r.name) :
    r.fits (.function (some t) params body) := by
  have fits := List.all_eq_true.1 (isKnown_of_mem_read k _ mem) r hr
  simpa [name] using fits

end Library

end FoxScript
