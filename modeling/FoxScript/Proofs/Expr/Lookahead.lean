import FoxScript.Proofs.Expr.Completeness
import FoxScript.Proofs.Expr.Numbering
import FoxScript.Proofs.Expr.Progress
import FoxScript.Proofs.Expr.Soundness

/-!
# Looking ahead

Before a body is read, looking ahead decides whether it is a function without a keyword. The loop
that reads the parameters of such a function is another one, which takes them one by one. The two
recognize the same headers, so that reading never gets stuck in a header that was seen.

## Main definitions

* `Grammar.Reaches`, `Grammar.StopsShort`: whether reading a function gets to its body.

## Main statements

* `Grammar.functionHeader_eq_ok_iff`: reading gets past the headers of the grammar.
* `Grammar.reaches_iff`, `Grammar.stopsShort_iff`: so it is whatever the body is.
* `Grammar.lookahead_exact`: looking ahead and reading agree.
-/
namespace FoxScript

namespace Grammar

variable {rounds : Nat} {params rest : List Token} {s : Cursor}

/-! ### Reading a header -/

theorem quiet_functionHeader (rounds : Nat) : Quiet (functionHeader rounds) := by
  refine (quiet_expect .openParameters).discard.bind fun _ => ?_
  refine ((quiet_expect .parameter).listUntil rounds .rightParen).bind fun params => ?_
  refine (quiet_expect .closeParameters).discard.bind fun _ => ?_
  exact (quiet_expect .functionArrow).discard.bind fun _ => .pure params

/-- Reading gets past the headers of the grammar, and past nothing else. -/
theorem functionHeader_eq_ok_iff (room : s.rest.length < rounds) {t : Cursor} :
    functionHeader rounds s = .ok params t ↔ Opens s.rest params t.rest ∧ t.fresh = s.fresh := by
  -- no use of a name stands in a header, so that the next number stays
  have quiet := quiet_functionHeader rounds s
  constructor
  · intro ended
    obtain ⟨names, hs, hh, same⟩ :=
      takes_functionHeader (P := 1) room [] rfl le_rfl s.fresh params t ended
    simp only [one_mul] at hh
    rw [ended] at quiet
    exact ⟨⟨names, hs, hh, same⟩, quiet⟩
  · rintro ⟨⟨names, hs, hh, same⟩, fresh⟩
    obtain ⟨rest, low⟩ := s
    obtain ⟨rest', high⟩ := t
    obtain rfl : rest = hs ++ rest' := same
    have short : hs.length ≤ rounds := by
      simp only [List.length_append] at room
      omega
    have accepts : Accepts (functionHeader rounds) hs rest' (· = params) :=
      accepts_functionHeader names hh short
    obtain ⟨_, high', ended, rfl⟩ := accepts low
    rw [ended] at quiet ⊢
    obtain rfl : high' = low := quiet
    obtain rfl : high = high' := fresh
    rfl

/-! ### Getting to the body -/

/-- Whatever its body is, a function is read from `s` up to it, with the parameters `params`, and
the body is read where `rest` is left. More rounds than there are tokens are always enough. -/
def Reaches (s : Cursor) (params rest : List Token) : Prop :=
  ∀ rounds, s.rest.length < rounds → ∀ body name,
    functionTail rounds body name s = functionBody body name params { s with rest := rest }

/-- Whatever its body is, reading a function from `s` stops before it. -/
def StopsShort (s : Cursor) : Prop :=
  ∀ rounds, s.rest.length < rounds → ∃ miss t, ∀ body name,
    functionTail rounds body name s = .error miss t

/-- Reading a function gets to its body just behind the headers of the grammar. -/
theorem reaches_iff : Reaches s params rest ↔ Opens s.rest params rest := by
  have room := Nat.lt_succ_self s.rest.length
  constructor
  · intro h
    -- a body that takes nothing shows how far the header goes
    have shown := h _ room (pure default) none
    cases ended : functionHeader (s.rest.length + 1) s with
    | ok params' t =>
      rw [functionTail_of_ok ended] at shown
      cases shown
      exact ((functionHeader_eq_ok_iff room).1 ended).1
    | error miss t =>
      rw [functionTail_of_error ended] at shown
      cases shown
  · intro h rounds room
    exact functionTail_of_ok ((functionHeader_eq_ok_iff room).2 ⟨h, rfl⟩)

/-- Reading a function stops before its body wherever no header comes next. -/
theorem stopsShort_iff : StopsShort s ↔ ¬∃ params rest, Opens s.rest params rest := by
  constructor
  · rintro h ⟨params, rest, opens⟩
    have room := Nat.lt_succ_self s.rest.length
    obtain ⟨miss, t, stopped⟩ := h _ room
    have reached := reaches_iff.2 opens _ room (pure default) none
    rw [stopped] at reached
    cases reached
  · intro none rounds room
    cases ended : functionHeader rounds s with
    | ok params t =>
      exact absurd ⟨params, t.rest, ((functionHeader_eq_ok_iff room).1 ended).1⟩ none
    | error miss t => exact ⟨miss, t, functionTail_of_error ended⟩

/-! ### Places of bodies -/

/-- Where a body stands, a header that comes next is read as the header of a function. -/
theorem functionOrExpression_of_opens (room : s.rest.length < rounds)
    (h : Opens s.rest params rest) (expr body : Production Expr) :
    functionOrExpression rounds expr body s =
      functionBody body none params { s with rest := rest } := by
  have seen : arrowAhead s.rest = true := arrowAhead_iff.2 ⟨params, rest, h⟩
  have decided : functionOrExpression rounds expr body s =
      (if arrowAhead s.rest then functionTail rounds body none
        else expression rounds expr body) s := rfl
  rw [decided, if_pos seen]
  exact reaches_iff.2 h rounds room body none

/-- Looking ahead and reading agree on every list of tokens. A header is seen just where one comes
next. Reading a function gets to its body just there, with the parameters of that header, and it
stops short of its body just where none is seen. So where a body stands a header is never taken for
a group: what is read is a function with these parameters, and a fault is one of its body. -/
theorem lookahead_exact (s : Cursor) :
    (arrowAhead s.rest = true ↔ ∃ params rest, Opens s.rest params rest) ∧
    (∀ params rest, Opens s.rest params rest ↔ Reaches s params rest) ∧
    (arrowAhead s.rest = false ↔ StopsShort s) ∧
    ∀ params rest, Opens s.rest params rest →
      (∀ rounds, s.rest.length < rounds → ∀ expr body, functionOrExpression rounds expr body s =
        functionBody body none params { s with rest := rest }) ∧
      parse .body s = functionBody (parse .body) none params { s with rest := rest } := by
  refine ⟨arrowAhead_iff, fun params rest => reaches_iff.symm, ?_, fun params rest h => ?_⟩
  · rw [stopsShort_iff, ← arrowAhead_iff, Bool.not_eq_true]
  · have room := Nat.lt_succ_self s.rest.length
    exact ⟨fun rounds room => functionOrExpression_of_opens room h,
      (unbounded_parse.body s _ room).trans (functionOrExpression_of_opens room h _ _)⟩

/-- A header with two parameters is seen, and one with a comma too many is not. -/
theorem lookahead_exact_of_two_parameters :
    let token (kind : TokenKind) (lexeme : String) (column : Nat) : Token :=
      ⟨kind, lexeme, none, ⟨1, column⟩⟩
    let opens := token .leftParen "(" 1
    let a := token .identifier "a" 2
    let comma := token .comma "," 3
    let b := token .identifier "b" 4
    let closes := token .rightParen ")" 5
    let arrow := token .arrow "->" 6
    let use := token .identifier "a" 8
    let s : Cursor := ⟨[opens, a, comma, b, closes, arrow, use], 0⟩
    let s' : Cursor := ⟨[opens, a, comma, token .rightParen ")" 4, token .arrow "->" 5], 0⟩
    (arrowAhead s.rest = true ∧ Opens s.rest [a, b] [use] ∧ Reaches s [a, b] [use] ∧
      parse .body s = functionBody (parse .body) none [a, b] ⟨[use], 0⟩) ∧
    arrowAhead s'.rest = false ∧ StopsShort s' := by
  intro token opens a comma b closes arrow use s s'
  have listed : Lists [b, closes, arrow, use] [b] [use] := .single rfl rfl rfl
  have here : Opens s.rest [a, b] [use] := (Lists.cons rfl rfl listed).toOpens rfl
  have unseen : arrowAhead s'.rest = false := rfl
  obtain ⟨seen, reaches, -, asFunction⟩ := lookahead_exact s
  obtain ⟨-, -, stops, -⟩ := lookahead_exact s'
  exact ⟨⟨seen.2 ⟨_, _, here⟩, here, (reaches _ _).1 here, (asFunction _ _ here).2⟩,
    unseen, stops.1 unseen⟩

end Grammar

end FoxScript
