import FoxScript.Proofs.Expr.Grammar
import FoxScript.Proofs.Scope.Context

/-!
# How trees start

The productions decide by the tokens that come next. So what the writings of a tree start with says
which way reading goes: no expression starts with a closing token, none that can be a condition
starts with the keyword of a form, and none starts with the header of a function unless it is one.

A construct starts with its leftmost operand, and an operator or a call comes behind that. `ahead`
carries a statement about the first tokens from the constructs that start with a token of their own
to all others.

## Main statements

* `Grammar.ahead`: the induction along the left edge of a tree.
* `Grammar.start`, `Grammar.start_call`, `Grammar.start_ternary`, `Grammar.start_case`: first
  tokens.
* `Grammar.arrowAhead_writings`, `Grammar.arrowAhead_header`: where the header of a function is
  seen.
-/
namespace FoxScript

/-! ### The left edge -/

/-- The operand with which a construct starts. -/
def Expr.left? : Expr → Option Expr
  | .binary left _ _ | .logical left _ _ | .orPattern left _ _ | .ternary left _ _ _
  | .call left _ _ | .index left _ _ | .slice left _ _ _ => some left
  | _ => none

open Grammar in
/-- Behind the operand with which it starts, a construct goes on with an operator or a call. -/
theorem Expr.Fits.left {c : Commas} {l : Level} {e d : Expr} {ts : List Token} (h : e.Fits l)
    (le : .ternary ≤ l) (starts : e.left? = some d) (hts : ts ∈ e.writings c .expr) :
    d.Fits l ∧ ∃ ds op us, ts = ds ++ op :: us ∧ ds ∈ d.writings c .expr ∧
      .ternary ≤ op.kind.level ∧ op.kind.level < .primary := by
  obtain ⟨le', graded⟩ := h
  have operators : ∀ k ∈ Level.joins, .ternary ≤ k ∧ k < .primary := by decide
  cases e <;> cases starts <;> simp only [Expr.writings, mul_assoc] at hts
  case orPattern =>
    have : Level.ternary ≤ .pattern := le.trans le'
    exact absurd this (by decide)
  case binary op right =>
    obtain ⟨ds, hd, _, ⟨_, rfl, us, -, rfl⟩, rfl⟩ := hts
    exact ⟨⟨le'.trans graded.2.1.1, graded.2.1.2⟩, ds, op, us, rfl, hd,
      operators _ graded.binary_level⟩
  case logical op right =>
    obtain ⟨ds, hd, _, ⟨_, rfl, us, -, rfl⟩, rfl⟩ := hts
    exact ⟨⟨le'.trans graded.2.1.1, graded.2.1.2⟩, ds, op, us, rfl, hd,
      operators _ graded.logical_level⟩
  case ternary yes no op =>
    obtain ⟨ds, hd, _, ⟨_, rfl, us, -, rfl⟩, rfl⟩ := hts
    have looser : Level.ternary ≤ .disjunction := by decide
    refine ⟨⟨(le'.trans looser).trans graded.1.1, graded.1.2⟩, ds, op, us, rfl, hd, ?_⟩
    rw [graded.2.1]
    decide
  all_goals
    obtain ⟨ds, hd, _, ⟨_, ⟨t, kind, rfl⟩, us, -, rfl⟩, rfl⟩ := hts
    refine ⟨⟨le'.trans graded.1.1, graded.1.2⟩, ds, t, us, rfl, hd, ?_⟩
    rw [kind]
    decide

namespace Grammar

/-- What holds of the writings of the constructs that start with a token of their own, in front of
whatever is `F`, holds of all writings, if operators and calls are `F`. -/
theorem ahead {c : Commas} {l : Level} (le : .ternary ≤ l) {F A : List Token → Prop}
    (goes : ∀ op us, .ternary ≤ op.kind.level → op.kind.level < .primary → F (op :: us))
    (leaf : ∀ e : Expr, e.Fits l → e.left? = none → ∀ ts ∈ e.writings c .expr, ∀ follow, F follow →
      A (ts ++ follow))
    {e : Expr} (h : e.Fits l) {ts : List Token} (hts : ts ∈ e.writings c .expr)
    (follow : List Token) (hf : F follow) : A (ts ++ follow) := by
  induction e using Expr.induction_parts generalizing ts follow with
  | step e ih =>
    cases starts : e.left? with
    | none => exact leaf e h starts ts hts follow hf
    | some d =>
      obtain ⟨fits, ds, op, us, rfl, hd, operator⟩ := h.left le starts hts
      have part : ∃ Δ, (Δ, d) ∈ e.parts [] := by
        cases e <;> cases starts <;> exact ⟨_, List.mem_cons_self⟩
      obtain ⟨Δ, part⟩ := part
      rw [List.append_assoc]
      exact ih [] Δ d part fits hd _ (goes op _ operator.1 operator.2)

theorem kind_of_constant {t : Token} {value : Literal} (h : t.constant? = some value) :
    t.kind ∈ [TokenKind.false, .true, .null, .number, .string] := by
  revert h
  unfold Token.constant?
  cases t.kind <;> simp

/-- How a construct starts that does not start with an operand or a keyword. -/
theorem opening {c : Commas} {l : Level} {e : Expr} {ts : List Token} (h : e.Fits l)
    (le : .ternary ≤ l) (starts : e.left? = none) (hts : ts ∈ e.writings c .expr) :
    ∃ t us, ts = t :: us ∧
      (t.kind ∈ [.false, .true, .null, .number, .string] ++ [.leftBrace, .leftBracket] ∨
        (t.kind = .identifier ∧ us = []) ∨
        (t.kind = .defun ∧ ∃ u v vs, us = u :: v :: vs ∧ v.kind = .leftParen) ∨
        (t.kind = .leftParen ∧ ∃ (inner : Expr) (vs : List Token) (u : Token), us = vs ++ [u] ∧
          u.kind = .rightParen ∧ inner.Fits .expression ∧ vs ∈ inner.writings c .expr) ∨
        (t.kind ∈ [.bang, .minus] ∧ l ≤ .sign)) := by
  obtain ⟨le', graded⟩ := h
  have tight : .ternary ≤ e.level := le.trans le'
  cases e with
  | literal value =>
    obtain ⟨t, constant, rfl⟩ := hts
    exact ⟨t, [], rfl, .inl (List.mem_append_left _ (kind_of_constant constant))⟩
  | «variable» id name =>
    obtain rfl := hts
    exact ⟨name, [], rfl, .inr (.inl ⟨graded, rfl⟩)⟩
  | array elements close =>
    simp only [Expr.writings, mul_assoc] at hts
    obtain ⟨_, ⟨t, kind, rfl⟩, us, -, rfl⟩ := hts
    exact ⟨t, us, rfl, .inl (by simp [kind])⟩
  | block members =>
    simp only [Expr.writings, mul_assoc] at hts
    obtain ⟨_, ⟨t, kind, rfl⟩, us, -, rfl⟩ := hts
    exact ⟨t, us, rfl, .inl (by simp [kind])⟩
  | function name params body =>
    cases name with
    | some name => exact absurd tight (show ¬Level.ternary ≤ .expression by decide)
    | none =>
      simp only [Expr.writings, Place.bare, add_zero, header, mul_assoc] at hts
      obtain ⟨_, ⟨t, kind, rfl⟩, _, ⟨_, ⟨u, -, rfl⟩, _,
        ⟨_, ⟨v, kind', rfl⟩, us, -, rfl⟩, rfl⟩, rfl⟩ :=
        hts
      exact ⟨t, _, rfl, .inr (.inr (.inl ⟨kind, u, v, us, rfl, kind'⟩))⟩
  | group inner =>
    simp only [Expr.writings, mul_assoc] at hts
    obtain ⟨_, ⟨t, kind, rfl⟩, _, ⟨vs, hv, _, ⟨u, kind', rfl⟩, rfl⟩, rfl⟩ := hts
    exact ⟨t, _, rfl, .inr (.inr (.inr (.inl ⟨kind, inner, vs, u, rfl, kind', graded, hv⟩)))⟩
  | unary op operand =>
    simp only [Expr.writings] at hts
    obtain ⟨_, rfl, us, -, rfl⟩ := hts
    exact ⟨op, us, rfl, .inr (.inr (.inr (.inr ⟨graded.1, le'⟩)))⟩
  | binary | logical | ternary | call | index | slice => cases starts
  | orPattern | anyPattern => exact absurd tight (show ¬Level.ternary ≤ .pattern by decide)
  | _ => exact absurd tight (show ¬Level.ternary ≤ .expression by decide)

/-- How a form with a keyword starts. -/
theorem keyword {c : Commas} {e : Expr} {ts : List Token} (h : e.Graded)
    (level : e.level = .expression) (hts : ts ∈ e.writings c .expr) :
    ∃ t us, ts = t :: us ∧
      t.kind ∈ [TokenKind.defun, .var, .assign, .import, .while, .match, .break] := by
  have word {k : TokenKind} {P : Language Token} (h : ts ∈ word k * P) :
      ∃ t us, ts = t :: us ∧ t.kind = k := by
    obtain ⟨_, ⟨t, kind, rfl⟩, us, -, rfl⟩ := h
    exact ⟨t, us, rfl, kind⟩
  have only {t : Token} {P : Language Token} (h : ts ∈ only t * P) : ∃ us, ts = t :: us := by
    obtain ⟨_, rfl, us, -, rfl⟩ := h
    exact ⟨us, rfl⟩
  cases e with
  | function name params body =>
    cases name with
    | none => cases level
    | some name =>
      simp only [Expr.writings, mul_assoc] at hts
      obtain ⟨t, us, rfl, kind⟩ := word hts
      exact ⟨t, us, rfl, by simp [kind]⟩
  | «break» keyword =>
    obtain rfl := hts
    exact ⟨keyword, [], rfl, by simp [show keyword.kind = .break from h]⟩
  | binary left op right => exact absurd (level ▸ h.binary_level) (by decide)
  | logical left op right => exact absurd (level ▸ h.logical_level) (by decide)
  | «match» | loop | loopWhile =>
    simp only [Expr.writings, mul_assoc] at hts
    obtain ⟨us, rfl⟩ := only hts
    exact ⟨_, us, rfl, by simp [h.1]⟩
  | assign | assignElement | «import» | declare | declareAs =>
    simp only [Expr.writings, mul_assoc] at hts
    obtain ⟨t, us, rfl, kind⟩ := word hts
    exact ⟨t, us, rfl, by simp [kind]⟩
  | _ => cases level

/-- An expression is a form with a keyword, or one that can be the condition of a case. -/
theorem keyword_or_fits {e : Expr} (h : e.Fits .expression) :
    (e.level = .expression ∧ e.Graded) ∨ e.Fits .ternary := by
  obtain ⟨le, graded⟩ := h
  obtain level | tight := le.eq_or_lt
  · exact .inl ⟨level.symm, graded⟩
  · exact .inr ⟨Level.ternary_le (.inr tight), graded⟩

/-- Kinds of tokens with which no expression starts. -/
def noStart : List TokenKind := [.rightParen, .rightBracket, .rightBrace, .underscore]

theorem start {c : Commas} {e : Expr} {ts : List Token} (h : e.Fits .expression)
    (hts : ts ∈ e.writings c .expr) :
    ∃ t us, ts = t :: us ∧ t.kind ∉ noStart := by
  obtain ⟨level, graded⟩ | fits := keyword_or_fits h
  · obtain ⟨t, us, rfl, kind⟩ := keyword graded level hts
    refine ⟨t, us, rfl, ?_⟩
    revert kind
    cases t.kind <;> decide
  · have := ahead (c := c) (l := .ternary) le_rfl (F := fun _ => True)
      (A := fun ts => ∃ t us, ts = t :: us ∧ t.kind ∉ noStart)
      (fun _ _ _ _ => trivial) (fun e fits starts ts hts follow _ => ?_) fits hts [] trivial
    · simpa using this
    obtain ⟨t, us, rfl, form⟩ := opening fits le_rfl starts hts
    refine ⟨t, us ++ follow, rfl, ?_⟩
    obtain kind | ⟨kind, -⟩ | ⟨kind, -⟩ | ⟨kind, -⟩ | ⟨kind, -⟩ := form <;> revert kind <;>
      cases t.kind <;> decide

/-- At the place of a body stands what can stand at that of an expression, or a bare function. -/
theorem mem_writings_body {c : Commas} {e : Expr} {ts : List Token}
    (hts : ts ∈ e.writings c .body) :
    ts ∈ e.writings c .expr ∨
      ∃ params b, e = .function none params b ∧ ts ∈ header params * b.writings c .body := by
  cases e with
  | function name params b =>
    cases name with
    | some name => exact .inl hts
    | none =>
      obtain full | bare := hts
      · exact .inl (.inl full)
      · exact .inr ⟨params, b, rfl, bare⟩
  | _ => exact .inl hts

theorem start_body {c : Commas} {e : Expr} {ts : List Token} (h : e.Fits .expression)
    (hts : ts ∈ e.writings c .body) :
    ∃ t us, ts = t :: us ∧ t.kind ∉ noStart := by
  obtain hts | ⟨params, b, rfl, bare⟩ := mem_writings_body hts
  · exact start h hts
  · simp only [header, mul_assoc] at bare
    obtain ⟨_, ⟨t, kind, rfl⟩, us, -, rfl⟩ := bare
    exact ⟨t, us, rfl, by simp [kind, noStart]⟩

/-- A case starts like an expression, or with an underscore. -/
theorem start_case {c : Commas} {a : Case} {ts : List Token} (h : a.Fits)
    (hts : ts ∈ a.writings c) :
    ∃ t us, ts = t :: us ∧ t.kind ≠ .rightBrace := by
  obtain ⟨arrow, condition, b⟩ := a
  obtain ⟨-, ⟨le, graded⟩, -⟩ := h
  simp only [Case.writings, Case.condition, mul_assoc] at hts le graded
  obtain ⟨cs, hc, vs, -, rfl⟩ := hts
  have tight {e : Expr} {cs : List Token} (fits : e.Fits .ternary) (hc : cs ∈ e.writings c .expr) :
      ∃ t us, cs = t :: us ∧ t.kind ≠ .rightBrace := by
    obtain ⟨t, us, rfl, first⟩ := start (fits.mono (by decide)) hc
    exact ⟨t, us, rfl, fun eq => first (by rw [eq]; decide)⟩
  obtain ⟨t, us, rfl, first⟩ : ∃ t us, cs = t :: us ∧ t.kind ≠ .rightBrace := by
    obtain same | above := le.eq_or_lt
    · have form : condition.HasForm .pattern := same ▸ graded.hasForm
      obtain ⟨wildcard, rfl⟩ | ⟨left, pipe, right, rfl⟩ := form
      · obtain rfl := hc
        exact ⟨wildcard, [], rfl, by simp [show wildcard.kind = .underscore from graded]⟩
      · simp only [Expr.writings, mul_assoc] at hc
        obtain ⟨ls, hl, rs, -, rfl⟩ := hc
        obtain ⟨t, us, rfl, first⟩ := tight graded.1 hl
        exact ⟨t, us ++ rs, rfl, first⟩
    · exact tight ⟨Level.ternary_le (.inl above), graded⟩ hc
  exact ⟨t, us ++ vs, rfl, first⟩

/-- What can be a condition starts with no keyword of an expression, and not like the definition of
a named function. -/
theorem start_ternary {c : Commas} {e : Expr} {ts : List Token} (h : e.Fits .ternary)
    (hts : ts ∈ e.writings c .expr) :
    ∃ t us, ts = t :: us ∧ t.kind ∉ [TokenKind.var, .assign, .import, .while, .match, .break] ∧
      (t.kind = .defun → ∃ u v vs, us = u :: v :: vs ∧ v.kind = .leftParen) := by
  have := ahead (c := c) (l := .ternary) le_rfl (F := fun _ => True)
    (A := fun ts => ∃ t us, ts = t :: us ∧
      t.kind ∉ [TokenKind.var, .assign, .import, .while, .match, .break] ∧
      (t.kind = .defun → ∃ u v vs, us = u :: v :: vs ∧ v.kind = .leftParen))
    (fun _ _ _ _ => trivial) (fun e fits starts ts hts follow _ => ?_) h hts [] trivial
  · simpa using this
  obtain ⟨t, us, rfl, form⟩ := opening fits le_rfl starts hts
  refine ⟨t, us ++ follow, rfl, ?_⟩
  obtain kind | ⟨kind, -⟩ | ⟨kind, u, v, vs, rfl, opens⟩ | ⟨kind, -⟩ | ⟨kind, -⟩ := form
  case inr.inr.inl => exact ⟨by simp [kind], fun _ => ⟨u, v, vs ++ follow, rfl, opens⟩⟩
  all_goals
    suffices other : t.kind ∉ [.var, .assign, .import, .while, .match, .break] ∧
      t.kind ≠ .defun from
      ⟨other.1, fun same => absurd same other.2⟩
    revert kind
    cases t.kind <;> decide

/-- What can be called starts with no sign. -/
theorem start_call {c : Commas} {e : Expr} {ts : List Token} (h : e.Fits .call)
    (hts : ts ∈ e.writings c .expr) : ∃ t us, ts = t :: us ∧ t.kind ∉ [TokenKind.bang, .minus] := by
  have tight : .ternary ≤ Level.call := by decide
  have := ahead (c := c) tight (F := fun _ => True)
    (A := fun ts => ∃ t us, ts = t :: us ∧ t.kind ∉ [TokenKind.bang, .minus])
    (fun _ _ _ _ => trivial) (fun e fits starts ts hts follow _ => ?_) h hts [] trivial
  · simpa using this
  obtain ⟨t, us, rfl, form⟩ := opening fits tight starts hts
  refine ⟨t, us ++ follow, rfl, ?_⟩
  obtain kind | ⟨kind, -⟩ | ⟨kind, -⟩ | ⟨kind, -⟩ | ⟨-, low⟩ := form
  case inr.inr.inr.inr => exact absurd low (by decide)
  all_goals
    revert kind
    cases t.kind <;> decide

/-! ### Headers of functions -/

theorem parametersAhead_identifier {t : Token} {us : List Token} (h : t.kind = .identifier) :
    parametersAhead (t :: us) = parametersAhead.go us := by
  simp only [parametersAhead, h]

theorem parametersAhead_other {t : Token} {us : List Token}
    (h : t.kind ∉ [TokenKind.identifier, .rightParen]) : parametersAhead (t :: us) = false := by
  unfold parametersAhead
  split <;> simp_all

theorem go_other {t : Token} {us : List Token} (h : t.kind ∉ [TokenKind.comma, .rightParen]) :
    parametersAhead.go (t :: us) = false := by
  unfold parametersAhead.go
  split <;> simp_all

theorem go_close {t : Token} {us : List Token} (kind : t.kind = .rightParen)
    (h : ∀ u ∈ us.head?, u.kind ≠ .arrow) : parametersAhead.go (t :: us) = false := by
  cases us with
  | nil => rfl
  | cons u us =>
    have := h u rfl
    simp only [parametersAhead.go, kind]
    split <;> simp_all

/-- No expression starts like a parameter list, if what comes behind it does not go on like one. -/
theorem parametersAhead_writings {c : Commas} {e : Expr} {ts follow : List Token}
    (h : e.Fits .expression) (hts : ts ∈ e.writings c .expr)
    (hf : parametersAhead.go follow = false) : parametersAhead (ts ++ follow) = false := by
  obtain ⟨level, graded⟩ | fits := keyword_or_fits h
  · obtain ⟨t, us, rfl, kind⟩ := keyword graded level hts
    refine parametersAhead_other ?_
    revert kind
    cases t.kind <;> decide
  · refine ahead (c := c) (l := .ternary) le_rfl (F := fun ts => parametersAhead.go ts = false)
      (A := fun ts => parametersAhead ts = false) (fun op us low high => go_other ?_)
      (fun e fits starts ts hts follow hf => ?_) fits hts follow hf
    · revert low high
      cases op.kind <;> decide
    · obtain ⟨t, us, rfl, form⟩ := opening fits le_rfl starts hts
      obtain kind | ⟨kind, rfl⟩ | ⟨kind, -⟩ | ⟨kind, -⟩ | ⟨kind, -⟩ := form
      case inr.inl => exact (parametersAhead_identifier kind).trans hf
      all_goals
        refine parametersAhead_other ?_
        revert kind
        cases t.kind <;> decide

/-- No expression starts with the header of a function, if no arrow comes behind it. -/
theorem arrowAhead_writings {c : Commas} {e : Expr} {ts follow : List Token}
    (h : e.Fits .expression)
    (hts : ts ∈ e.writings c .expr) (hf : ∀ t ∈ follow.head?, t.kind ≠ .arrow) :
    arrowAhead (ts ++ follow) = false := by
  have other {t : Token} {us : List Token} (h : t.kind ≠ .leftParen) :
      arrowAhead (t :: us) = false := by simp [arrowAhead, h]
  obtain ⟨level, graded⟩ | fits := keyword_or_fits h
  · obtain ⟨t, us, rfl, kind⟩ := keyword graded level hts
    refine other ?_
    revert kind
    cases t.kind <;> decide
  · refine ahead (c := c) (l := .ternary) le_rfl (F := fun ts => ∀ t ∈ ts.head?, t.kind ≠ .arrow)
      (A := fun ts => arrowAhead ts = false) (fun op us low high => ?_)
      (fun e fits starts ts hts follow hf => ?_) fits hts follow hf
    · revert low high
      cases kind : op.kind <;> simp [kind]
      decide
    · obtain ⟨t, us, rfl, form⟩ := opening fits le_rfl starts hts
      obtain kind | ⟨kind, -⟩ | ⟨kind, -⟩ |
        ⟨kind, inner, vs, u, rfl, closes, fits, hv⟩ | ⟨kind, -⟩ := form
      case inr.inr.inr.inl =>
        have := parametersAhead_writings fits hv (go_close closes hf)
        simpa [arrowAhead, kind] using this
      all_goals
        refine other ?_
        revert kind
        cases t.kind <;> decide

/-- The header of a function is recognized. -/
theorem arrowAhead_header {params : List Token} (h : ∀ t ∈ params, t.kind = .identifier)
    {ts : List Token} (hts : ts ∈ header params) (rest : List Token) :
    arrowAhead (ts ++ rest) = true := by
  simp only [header, mul_assoc] at hts
  obtain ⟨_, ⟨opens, kind, rfl⟩, us,
    ⟨ps, hp, _, ⟨_, ⟨closes, kind', rfl⟩, _, ⟨arrow, kind'', rfl⟩, rfl⟩,
    rfl⟩, rfl⟩ := hts
  have goes (p : Token) (params : List Token) (h : ∀ t ∈ params, t.kind = .identifier)
      (ps : List Token) (hp : ps ∈ separated ((p :: params).map only)) :
      ∃ us, ps = p :: us ∧ parametersAhead.go (us ++ closes :: arrow :: rest) = true := by
    induction params generalizing p ps with
    | nil =>
      obtain rfl := hp
      exact ⟨[], rfl, by simp [parametersAhead.go, kind', kind'']⟩
    | cons q params ih =>
      rw [List.map_cons, separated_cons (by simp), mul_assoc] at hp
      obtain ⟨_, rfl, _, ⟨_, ⟨c, comma, rfl⟩, vs, hv, rfl⟩, rfl⟩ := hp
      obtain ⟨us, rfl, go⟩ := ih q (fun t ht => h t (by simp [ht])) vs hv
      exact ⟨c :: q :: us, rfl, by simpa [parametersAhead.go, comma, h q (by simp)] using go⟩
  suffices parametersAhead (ps ++ closes :: arrow :: rest) = true by
    simpa [arrowAhead, kind] using this
  cases params with
  | nil =>
    obtain rfl : ps = [] := hp
    simp [parametersAhead, kind', kind'']
  | cons p params =>
    obtain ⟨us, rfl, go⟩ := goes p params (fun t ht => h t (by simp [ht])) ps hp
    rw [List.cons_append, parametersAhead_identifier (h p (by simp)), go]

end Grammar

end FoxScript
