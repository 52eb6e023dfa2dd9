import FoxScript.Proofs.Expr.Start

/-!
# Headers of functions

Where a body stands, a parenthesis opens a group or the parameters of a function, and looking ahead
decides which. It goes over the parameters two tokens at a time, and sees just the headers of the
grammar. To read a function is to read its header, and then its body.

## Main definitions

* `Grammar.Opens`: tokens that begin with the header of a function.
* `Grammar.functionHeader`, `Grammar.functionBody`: the two halves of reading a function.

## Main statements

* `Grammar.arrowAhead_iff`: looking ahead sees the headers of the grammar.
* `Grammar.functionTail_eq`: a function is its header and its body.
-/
namespace FoxScript

namespace Grammar

variable {ts params rest : List Token}

/-- The tokens begin with the header of a function, in front of `rest`: an opening parenthesis, the
identifiers `params` with commas between them, a closing parenthesis and an arrow. -/
def Opens (ts params rest : List Token) : Prop :=
  (∀ t ∈ params, t.kind = .identifier) ∧ ∃ hs ∈ header params, ts = hs ++ rest

/-- A header has at least one token. -/
theorem nil_notMem_header (params : List Token) : [] ∉ header params := by
  simp [header, nil_mem_mul]

/-! ### Looking ahead -/

/-- The tokens go on like such a header behind its opening parenthesis. -/
def Lists (ts params rest : List Token) : Prop :=
  (∀ t ∈ params, t.kind = .identifier) ∧
    ∃ hs ∈ separated (params.map only) * word .rightParen * word .arrow, ts = hs ++ rest

namespace Lists

variable {p q opens comma closes arrow : Token}

theorem nil (kind : closes.kind = .rightParen) (kind' : arrow.kind = .arrow) :
    Lists (closes :: arrow :: rest) [] rest :=
  ⟨by simp, [closes, arrow],
    ⟨[closes], ⟨[], rfl, [closes], ⟨closes, kind, rfl⟩, rfl⟩, [arrow], ⟨arrow, kind', rfl⟩, rfl⟩,
    rfl⟩

theorem single (hp : p.kind = .identifier) (kind : closes.kind = .rightParen)
    (kind' : arrow.kind = .arrow) : Lists (p :: closes :: arrow :: rest) [p] rest :=
  ⟨by simpa using hp, [p, closes, arrow],
    ⟨[p, closes], ⟨[p], rfl, [closes], ⟨closes, kind, rfl⟩, rfl⟩, [arrow], ⟨arrow, kind', rfl⟩,
      rfl⟩,
    rfl⟩

theorem cons (hp : p.kind = .identifier) (kind : comma.kind = .comma)
    (h : Lists (q :: ts) (q :: params) rest) :
    Lists (p :: comma :: q :: ts) (p :: q :: params) rest := by
  obtain ⟨names, hs, hh, same⟩ := h
  refine ⟨List.forall_mem_cons.2 ⟨hp, names⟩, [p, comma] ++ hs, ?_, by rw [same]; rfl⟩
  rw [List.map_cons, separated_cons (by simp), mul_assoc, mul_assoc, ← mul_assoc (separated _)]
  exact Language.append_mem_mul ⟨[p], rfl, [comma], ⟨comma, kind, rfl⟩, rfl⟩ hh

theorem toOpens (kind : opens.kind = .leftParen) (h : Lists ts params rest) :
    Opens (opens :: ts) params rest := by
  obtain ⟨names, hs, hh, rfl⟩ := h
  refine ⟨names, opens :: hs, ?_, rfl⟩
  rw [header, mul_assoc, mul_assoc, ← mul_assoc (separated _)]
  exact ⟨[opens], ⟨opens, kind, rfl⟩, hs, hh, rfl⟩

end Lists

/-- Behind an identifier, what is gone over are the other parameters, up to the arrow. -/
theorem exists_lists_of_go {p : Token} (hp : p.kind = .identifier)
    (h : parametersAhead.go ts = true) :
    ∃ params rest, Lists (p :: ts) (p :: params) rest := by
  -- a comma and the identifier behind it are one round, at whose end that identifier stands for `p`
  fun_induction parametersAhead.go ts generalizing p with
  | case1 closes arrow rest kind' kind => exact ⟨[], rest, .single hp kind kind'⟩
  | case2 comma q rest identifier kind ih =>
    obtain ⟨params, rest, listed⟩ := ih identifier h
    exact ⟨q :: params, rest, listed.cons hp kind⟩
  | case3 | case4 => cases h

theorem exists_lists_of_parametersAhead (h : parametersAhead ts = true) :
    ∃ params rest, Lists ts params rest := by
  fun_cases parametersAhead ts with
  | case1 closes arrow rest kind =>
    have kind' : arrow.kind = .arrow := by simpa [parametersAhead, kind] using h
    exact ⟨[], rest, .nil kind kind'⟩
  | case2 p rest identifier =>
    rw [parametersAhead_identifier identifier] at h
    obtain ⟨params, rest, listed⟩ := exists_lists_of_go identifier h
    exact ⟨p :: params, rest, listed⟩
  | case3 t rest other notEmpty =>
    refine absurd h ?_
    unfold parametersAhead
    split <;> simp_all
  | case4 => cases h

theorem exists_opens_of_arrowAhead (h : arrowAhead ts = true) :
    ∃ params rest, Opens ts params rest := by
  cases ts with
  | nil => cases h
  | cons opens ts =>
    simp only [arrowAhead, Bool.and_eq_true, beq_iff_eq] at h
    obtain ⟨kind, ahead⟩ := h
    obtain ⟨params, rest, listed⟩ := exists_lists_of_parametersAhead ahead
    exact ⟨params, rest, listed.toOpens kind⟩

/-- Looking ahead sees the headers of the grammar, and nothing else. -/
theorem arrowAhead_iff : arrowAhead ts = true ↔ ∃ params rest, Opens ts params rest := by
  refine ⟨exists_opens_of_arrowAhead, ?_⟩
  rintro ⟨params, rest, names, hs, hh, rfl⟩
  exact arrowAhead_header names hh rest

/-! ### Header and body -/

section

variable {rounds : Nat} {s : Cursor}

/-- Reads the header of a function: its parameters, and the arrow behind them. -/
def functionHeader (rounds : Nat) : Production (List Token) := do
  discard (expect .openParameters)
  let params ← listUntil rounds .rightParen (expect .parameter)
  discard (expect .closeParameters)
  discard (expect .functionArrow)
  return params

/-- Reads the body of a function whose header has been read. -/
def functionBody (body : Production Expr) (name : Option Token) (params : List Token) :
    Production Expr := do
  let b ← body
  return .function name params b

/-- A function is its header and its body. -/
theorem functionTail_eq (body : Production Expr) (name : Option Token) :
    functionTail rounds body name = functionHeader rounds >>= functionBody body name := by
  simp [functionTail, functionHeader, functionBody]

theorem functionTail_of_ok {t : Cursor} (h : functionHeader rounds s = .ok params t)
    (body : Production Expr) (name : Option Token) :
    functionTail rounds body name s = functionBody body name params t := by
  simp [functionTail_eq, Bind.bind, EStateM.bind, h]

theorem functionTail_of_error {miss : Miss} {t : Cursor}
    (h : functionHeader rounds s = .error miss t) (body : Production Expr) (name : Option Token) :
    functionTail rounds body name s = .error miss t := by
  simp [functionTail_eq, Bind.bind, EStateM.bind, h]

end

end Grammar

end FoxScript
