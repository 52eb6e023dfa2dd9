import FoxScript.Expr.Parser
import Mathlib.Computability.Language
import Mathlib.Order.CompletePartialOrder

/-!
# The grammar

What trees there are and how they are written, without a word about how they are read. A construct
has a level, which says how tightly it binds, and asks for certain levels of its parts. The writings
of a tree are the lists of tokens that spell it, construct by construct.

## Main definitions

* `Grammar.Level`: the levels of the constructs.
* `Expr.Graded`: the trees in which each part is of the level that its place asks for.
* `Expr.writings`: the ways to write a tree.
-/
namespace FoxScript

namespace Grammar

/-! ### Levels -/

/-- How tightly a construct binds. -/
inductive Level
  /-- The condition of a case. -/
  | pattern
  /-- A form with a keyword. -/
  | expression
  | ternary
  | disjunction
  | conjunction
  | equality
  | comparison
  | sum
  | product
  | sign
  | call
  /-- What stands for itself. -/
  | primary
  deriving DecidableEq, Repr

namespace Level

/-- The number of levels that bind looser. Patterns and forms with a keyword share a rank, since
neither can stand for the other. -/
def rank : Level → Nat
  | pattern | expression => 0
  | ternary => 1
  | disjunction => 2
  | conjunction => 3
  | equality => 4
  | comparison => 5
  | sum => 6
  | product => 7
  | sign => 8
  | call => 9
  | primary => 10

instance : PartialOrder Level where
  le k l := k = l ∨ k.rank < l.rank
  lt k l := k.rank < l.rank
  le_refl _ := .inl rfl
  le_trans _ _ _ := by grind
  le_antisymm _ _ := by grind
  lt_iff_le_not_ge _ _ := by grind

instance : DecidableLE Level := fun k l => inferInstanceAs (Decidable (k = l ∨ k.rank < l.rank))

instance : DecidableLT Level := fun k l => inferInstanceAs (Decidable (k.rank < l.rank))

theorem not_le_of_lt {k l : Level} (h : k < l) : ¬l ≤ k := not_le_of_gt h

@[simp] theorem le_primary {l : Level} : l ≤ .primary := by
  cases l <;> decide

theorem primary_le {l : Level} (h : call < l) : primary ≤ l := by
  revert h
  cases l <;> decide

theorem call_le {l : Level} (h : sign < l) : call ≤ l := by
  revert h
  cases l <;> decide

theorem disjunction_le {l : Level} (h : ternary < l) : disjunction ≤ l := by
  revert h
  cases l <;> decide

theorem ternary_le {l : Level} (h : pattern < l ∨ expression < l) : ternary ≤ l := by
  revert h
  cases l <;> decide

/-- The constructs of the levels from `or` to products join two operands. -/
def join : Level → Expr → Token → Expr → Expr
  | disjunction | conjunction => .logical
  | _ => .binary

/-- The levels at which operators stand between two operands. -/
def joins : List Level := [disjunction, conjunction, equality, comparison, sum, product]

end Level

end Grammar

open Grammar

/-- The level of the construct that goes on with a token of this kind: that of an operator, of a
call, or of a function behind its parameters. -/
def TokenKind.level : TokenKind → Level
  | .questionMark => .ternary
  | .or => .disjunction
  | .and => .conjunction
  | .bangEqual | .equalEqual => .equality
  | .greater | .greaterEqual | .less | .lessEqual => .comparison
  | .minus | .plus => .sum
  | .star | .slash => .product
  | .leftParen | .leftBracket => .call
  | .arrow => .primary
  | _ => .pattern

/-- The level of an expression. -/
def Expr.level : Expr → Level
  | .orPattern .. | .anyPattern _ => .pattern
  | .declare _ | .declareAs .. | .assign .. | .assignElement .. | .import _
    | .loop .. | .loopWhile ..
  | .match .. | .break _ | .function (some _) .. => .expression
  | .ternary .. => .ternary
  | .logical _ op _ | .binary _ op _ => op.kind.level
  | .unary .. => .sign
  | .call .. | .index .. | .slice .. => .call
  | .literal _ | .variable .. | .array .. | .block _ | .group _ | .function none .. => .primary

/-! ### Trees that obey the levels -/

mutual

/-- The parts of an expression bind as tightly as their places ask for, and its tokens are of the
right kinds. Chains of operators of one level lean to the left, conditionals to the right. -/
def Expr.Graded : Expr → Prop
  | .literal _ => True
  | .variable _ name | .declare name => name.kind = .identifier
  | .array elements close => Expr.AllGraded elements ∧ close.kind = .rightBracket
  | .assign _ name value | .declareAs name value =>
    name.kind = .identifier ∧ .expression ≤ value.level ∧ value.Graded
  | .assignElement _ name index value =>
    name.kind = .identifier ∧ (.expression ≤ index.level ∧ index.Graded) ∧
      .expression ≤ value.level ∧ value.Graded
  | .binary left op right =>
    op.kind.level ∈ [Level.equality, .comparison, .sum, .product] ∧
      (op.kind.level ≤ left.level ∧ left.Graded) ∧ op.kind.level < right.level ∧ right.Graded
  | .logical left op right =>
    op.kind.level ∈ [Level.disjunction, .conjunction] ∧
      (op.kind.level ≤ left.level ∧ left.Graded) ∧ op.kind.level < right.level ∧ right.Graded
  | .block members => Expr.AllGraded members
  | .break keyword => keyword.kind = .break
  | .call callee args close =>
    (.call ≤ callee.level ∧ callee.Graded) ∧ Expr.AllGraded args ∧ close.kind = .rightParen
  | .function name params body =>
    (∀ t ∈ name, t.kind = .identifier) ∧ (∀ t ∈ params, t.kind = .identifier) ∧
      .expression ≤ body.level ∧ body.Graded
  | .group inner => .expression ≤ inner.level ∧ inner.Graded
  | .import path => path.kind = .string
  | .index target index close =>
    (.call ≤ target.level ∧ target.Graded) ∧ (.expression ≤ index.level ∧ index.Graded) ∧
      close.kind = .rightBracket
  | .slice target lower upper close =>
    (.call ≤ target.level ∧ target.Graded) ∧ (.expression ≤ lower.level ∧ lower.Graded) ∧
      (.expression ≤ upper.level ∧ upper.Graded) ∧ close.kind = .rightBracket
  | .match keyword scrutinee cases =>
    keyword.kind = .match ∧ (.ternary ≤ scrutinee.level ∧ scrutinee.Graded) ∧ Case.AllGraded cases
  | .orPattern left pipe right =>
    (.ternary ≤ left.level ∧ left.Graded) ∧ pipe.kind = .pipe ∧
      .pattern ≤ right.level ∧ right.Graded
  | .anyPattern wildcard => wildcard.kind = .underscore
  | .ternary condition yes no op =>
    (.disjunction ≤ condition.level ∧ condition.Graded) ∧ op.kind = .questionMark ∧
      (.expression ≤ yes.level ∧ yes.Graded) ∧ .expression ≤ no.level ∧ no.Graded
  | .unary op operand => op.kind ∈ [.bang, .minus] ∧ .sign ≤ operand.level ∧ operand.Graded
  | .loop keyword body => keyword.kind = .while ∧ .expression ≤ body.level ∧ body.Graded
  | .loopWhile keyword condition body =>
    keyword.kind = .while ∧ (.expression ≤ condition.level ∧ condition.Graded) ∧
      .expression ≤ body.level ∧ body.Graded

/-- Expressions of which each may stand alone. -/
def Expr.AllGraded : List Expr → Prop
  | [] => True
  | e :: es => (.expression ≤ e.level ∧ e.Graded) ∧ Expr.AllGraded es

/-- Cases of which each has a condition before its arrow, and behind it an expression. -/
def Case.AllGraded : List Case → Prop
  | [] => True
  | .mk arrow condition body :: cases =>
    (arrow.kind = .fatArrow ∧ (.pattern ≤ condition.level ∧ condition.Graded) ∧
      .expression ≤ body.level ∧ body.Graded) ∧ Case.AllGraded cases

end

/-- A tree of the grammar that may stand where a construct of a level is asked for. -/
def Expr.Fits (l : Level) (e : Expr) : Prop := l ≤ e.level ∧ e.Graded

/-- A case of the grammar. -/
def Case.Fits (c : Case) : Prop :=
  c.arrow.kind = .fatArrow ∧ c.condition.Fits .pattern ∧ c.body.Fits .expression

theorem Expr.Fits.mono {k l : Level} {e : Expr} (h : e.Fits l) (le : k ≤ l) : e.Fits k :=
  ⟨le.trans h.1, h.2⟩

theorem Expr.allGraded_iff {es : List Expr} :
    Expr.AllGraded es ↔ ∀ e ∈ es, e.Fits .expression := by
  induction es with
  | nil => simp [Expr.AllGraded]
  | cons e es ih => simp [Expr.AllGraded, Expr.Fits, ih]

theorem Case.allGraded_iff {cs : List Case} : Case.AllGraded cs ↔ ∀ c ∈ cs, c.Fits := by
  induction cs with
  | nil => simp [Case.AllGraded]
  | cons c cs ih =>
    obtain ⟨arrow, condition, body⟩ := c
    simp [Case.AllGraded, Case.Fits, Case.arrow, Case.condition, Case.body, Expr.Fits, ih]

theorem Expr.Graded.binary_level {left right : Expr} {op : Token}
    (h : (binary left op right).Graded) :
    (binary left op right).level ∈ Level.joins :=
  List.mem_cons_of_mem _ (List.mem_cons_of_mem _ h.1)

theorem Expr.Graded.logical_level {left right : Expr} {op : Token}
    (h : (logical left op right).Graded) :
    (logical left op right).level ∈ Level.joins :=
  List.mem_append_left [Level.equality, .comparison, .sum, .product] h.1

/-- A tree of a level at which operators stand is an operator between two operands. -/
theorem Expr.Graded.exists_join {e : Expr} {k : Level} (h : e.Graded) (level : e.level = k)
    (operator : k ∈ Level.joins) :
    ∃ left op right, e = k.join left op right ∧ op.kind.level = k ∧ left.Fits k ∧
      k < right.level ∧ right.Graded := by
  subst level
  cases e with
  | binary left op right =>
    simp only [Expr.Graded] at h
    refine ⟨left, op, right, ?_, rfl, h.2⟩
    have among := h.1
    simp only [Expr.level]
    revert among
    cases op.kind.level <;> simp [Level.join]
  | logical left op right =>
    simp only [Expr.Graded] at h
    refine ⟨left, op, right, ?_, rfl, h.2⟩
    have among := h.1
    simp only [Expr.level]
    revert among
    cases op.kind.level <;> simp [Level.join]
  | function name => cases name <;> simp [Expr.level, Level.joins] at operator
  | _ => simp [Expr.level, Level.joins] at operator

/-- The forms of a level that is neither one of operators between operands nor of what brackets or
keywords hold together. -/
def Expr.HasForm (e : Expr) : Level → Prop
  | .pattern =>
    (∃ wildcard, e = .anyPattern wildcard) ∨ ∃ left pipe right, e = .orPattern left pipe right
  | .ternary => ∃ condition yes no op, e = .ternary condition yes no op
  | .sign => ∃ op operand, e = .unary op operand
  | .call =>
    (∃ callee args close, e = .call callee args close) ∨
      (∃ target index close, e = .index target index close) ∨
      ∃ target lower upper close, e = .slice target lower upper close
  | _ => True

theorem Expr.Graded.hasForm {e : Expr} (h : e.Graded) : e.HasForm e.level := by
  have operator {k : Level} (among : k ∈ Level.joins) : e.HasForm k := by
    revert among
    cases k <;> simp [Level.joins, Expr.HasForm]
  cases e with
  | binary left op right => exact operator h.binary_level
  | logical left op right => exact operator h.logical_level
  | function name => cases name <;> exact trivial
  | _ => simp [Expr.level, Expr.HasForm]

theorem Expr.Fits.join {left right : Expr} {op : Token} {k : Level} (operator : k ∈ Level.joins)
    (level : op.kind.level = k) (hl : left.Fits k) (lt : k < right.level) (hr : right.Graded) :
    (k.join left op right).Fits k := by
  obtain ⟨le, graded⟩ := hl
  simp only [Level.joins, List.mem_cons, List.not_mem_nil, or_false] at operator
  obtain rfl | rfl | rfl | rfl | rfl | rfl := operator
  all_goals
    exact ⟨level.ge, by rw [level]; decide, ⟨level.le.trans le, graded⟩, level.trans_lt lt, hr⟩

/-! ### Words -/

/-- The constant that a token stands for. -/
def Token.constant? (t : Token) : Option Literal :=
  match t.kind with
  | .false => some (.bool false)
  | .true => some (.bool true)
  | .null => some .null
  | .number | .string => some (t.literal.getD .null)
  | _ => none

namespace Grammar

/-- A certain token. -/
def only (t : Token) : Language Token := {[t]}

/-- A token of a certain kind. -/
def word (kind : TokenKind) : Language Token := {ts | ∃ t, t.kind = kind ∧ ts = [t]}

/-- A token that stands for a certain constant. -/
def constant (value : Literal) : Language Token := {ts | ∃ t, t.constant? = some value ∧ ts = [t]}

/-- Parts with commas between them. -/
def separated : List (Language Token) → Language Token
  | [] => 1
  | [l] => l
  | l :: ls => l * word .comma * separated ls

theorem separated_cons {l : Language Token} {ls : List (Language Token)} (some : ls ≠ []) :
    separated (l :: ls) = l * word .comma * separated ls := by
  cases ls with
  | nil => exact absurd rfl some
  | cons m ls => rfl

/-- How the members of a block and the cases of a match are set apart. -/
inductive Commas
  /-- Each may be followed by a comma. -/
  | optional
  /-- There is a comma between any two. -/
  | between
  deriving DecidableEq, Repr

/-- The members of a block or the cases of a match, one after another. -/
def Commas.lay : Commas → List (Language Token) → Language Token
  | optional, ls => (ls.map fun l => l * (1 + word .comma)).prod
  | between, ls => separated ls

/-- A function from its parameter list on. -/
def header (params : List Token) : Language Token :=
  word .leftParen * separated (params.map only) * word .rightParen * word .arrow

/-- What may be written without a keyword where a body stands. -/
def Place.bare : Grammar.Place → Language Token → Language Token
  | expr, _ => 0
  | body, l => l

end Grammar

/-! ### Trees as tokens -/

mutual

/-- The ways to write an expression at a place. -/
def Expr.writings (c : Commas) : Expr → Grammar.Place → Language Token
  | .literal value, _ => constant value
  | .variable _ name, _ => only name
  | .array elements close, _ =>
    word .leftBracket * separated (Expr.writingsOf c elements) * only close
  | .assign _ name value, _ =>
    word .assign * word .leftParen * only name * word .comma * value.writings c .body *
      word .rightParen
  | .assignElement _ name index value, _ =>
    word .assign * word .leftParen * only name * word .leftBracket * index.writings c .expr *
      word .rightBracket * word .comma * value.writings c .body * word .rightParen
  | .binary left op right, _ | .logical left op right, _ =>
    left.writings c .expr * only op * right.writings c .expr
  | .block members, _ => word .leftBrace * c.lay (Expr.writingsOf c members) * word .rightBrace
  | .break keyword, _ => only keyword
  | .call callee args close, _ =>
    callee.writings c .expr * word .leftParen * separated (Expr.writingsOf c args) * only close
  | .function (some name) params body, _ =>
    word .defun * word .leftParen * only name * word .comma *
      (header params * body.writings c .body) * word .rightParen
  | .function none params body, place =>
    word .defun * word .leftParen * (header params * body.writings c .body) * word .rightParen +
      place.bare (header params * body.writings c .body)
  | .group inner, _ => word .leftParen * inner.writings c .expr * word .rightParen
  | .import path, _ => word .import * word .leftParen * only path * word .rightParen
  | .index target index close, _ =>
    target.writings c .expr * word .leftBracket * index.writings c .expr * only close
  | .slice target lower upper close, _ =>
    target.writings c .expr * word .leftBracket * lower.writings c .expr * word .colon *
      upper.writings c .expr * only close
  | .match keyword scrutinee cases, _ =>
    only keyword * scrutinee.writings c .expr * word .leftBrace * c.lay (Case.writingsOf c cases) *
      word .rightBrace
  | .orPattern left pipe right, _ => left.writings c .expr * only pipe * right.writings c .expr
  | .anyPattern wildcard, _ => only wildcard
  | .ternary condition yes no op, _ =>
    condition.writings c .expr * only op * yes.writings c .body * word .colon * no.writings c .body
  | .unary op operand, _ => only op * operand.writings c .expr
  | .declare name, _ => word .var * word .leftParen * only name * word .rightParen
  | .declareAs name value, _ =>
    word .var * word .leftParen * only name * word .comma * value.writings c .body *
      word .rightParen
  | .loop keyword body, _ =>
    only keyword * word .leftParen * body.writings c .body * word .rightParen
  | .loopWhile keyword condition body, _ =>
    only keyword * word .leftParen * condition.writings c .body * word .comma *
      body.writings c .body * word .rightParen

/-- The ways to write each of several expressions. -/
def Expr.writingsOf (c : Commas) : List Expr → List (Language Token)
  | [] => []
  | e :: es => e.writings c .body :: Expr.writingsOf c es

/-- The ways to write each of several cases. -/
def Case.writingsOf (c : Commas) : List Case → List (Language Token)
  | [] => []
  | .mk arrow condition body :: cases =>
    condition.writings c .expr * only arrow * body.writings c .body :: Case.writingsOf c cases

end

/-- The ways to write a case. -/
def Case.writings (c : Commas) (a : Case) : Language Token :=
  a.condition.writings c .expr * only a.arrow * a.body.writings c .body

theorem Expr.writingsOf_eq_map (c : Commas) (es : List Expr) :
    Expr.writingsOf c es = es.map fun e => e.writings c .body := by
  induction es with
  | nil => rfl
  | cons e es ih => simp [Expr.writingsOf, ih]

theorem Case.writingsOf_eq_map (c : Commas) (cs : List Case) :
    Case.writingsOf c cs = cs.map fun a => a.writings c := by
  induction cs with
  | nil => rfl
  | cons a cs ih =>
    obtain ⟨arrow, condition, body⟩ := a
    simp [Case.writingsOf, Case.writings, Case.arrow, Case.condition, Case.body, ih]

@[simp] theorem Grammar.Level.writings_join (c : Commas) (k : Level)
    (left right : Expr) (op : Token)
    (p : Grammar.Place) :
    (k.join left op right).writings c p =
      left.writings c .expr * only op * right.writings c .expr := by
  cases k <;> rfl

/-- A tree with both places written alike has no more writings at one place than at the other. -/
theorem Expr.writings_expr_le (c : Commas) (e : Expr) :
    e.writings c .expr ≤ e.writings c .body := by
  cases e with
  | function name params body =>
    cases name with
    | none => exact add_le_add le_rfl (zero_le)
    | some name => exact le_rfl
  | _ => exact le_rfl

namespace Grammar

@[simp] theorem mem_only {t : Token} {ts : List Token} : ts ∈ only t ↔ ts = [t] := Iff.rfl

@[simp] theorem mem_word {kind : TokenKind} {ts : List Token} :
    ts ∈ word kind ↔ ∃ t, t.kind = kind ∧ ts = [t] := Iff.rfl

@[simp] theorem mem_constant {value : Literal} {ts : List Token} :
    ts ∈ constant value ↔ ∃ t, t.constant? = some value ∧ ts = [t] := Iff.rfl

theorem nil_mem_mul {P Q : Language Token} : [] ∈ P * Q ↔ [] ∈ P ∧ [] ∈ Q := by
  simp [Language.mem_mul]

end Grammar

/-- A tree is written with at least one token. -/
theorem Expr.nil_notMem_writings (c : Commas) (e : Expr) (p : Grammar.Place) :
    [] ∉ e.writings c p := by
  cases e with
  | function name params body =>
    cases name with
    | none => cases p <;> simp [Expr.writings, Place.bare, header, Language.mem_add, nil_mem_mul]
    | some name => simp [Expr.writings, nil_mem_mul]
  | _ => simp [Expr.writings, nil_mem_mul]

end FoxScript
