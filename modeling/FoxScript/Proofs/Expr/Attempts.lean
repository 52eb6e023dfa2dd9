import FoxScript.Proofs.Expr.Progress

/-!
# Attempts to read an expression

Tokens are read as expressions one attempt after another. Each attempt uses up some of the tokens
and comes to an expression or to a fault, and together they use up all of them.

## Main definitions

* `Parse.Attempts`: the attempts to read some tokens.

## Main statements

* `Parse.exists_attempts`: what is read is what the attempts come to.
* `Parse.ofTokens_progresses`: reading ends, and accounts for every token.
-/
namespace FoxScript

namespace Parse

open Grammar

/-- An attempt to read an expression: the tokens that it has used up, those in front of which it has
ended, and what it has come to. -/
structure Attempt where
  /-- The tokens that are used up. A fault that has taken none skips one. -/
  tokens : List Token
  /-- The tokens that were left when the attempt ended. -/
  stop : List Token
  /-- The expression, or the fault. -/
  outcome : Except Diagnostic Expr

/-- The attempts to read the tokens that are left, the last of `all`. After a fault the next attempt
starts where the one before has stopped, or one token later if that one has taken none. -/
inductive Attempts (all : List Token) : Cursor → List Attempt → Prop
  /-- All tokens are used up. -/
  | done (fresh : Nat) : Attempts all ⟨[], fresh⟩ []
  /-- An expression is read. -/
  | read {s t : Cursor} {e : Expr} {taken : List Token} {as : List Attempt}
    (ended : parse .expr s = .ok e t) (same : s.rest = taken ++ t.rest) (some : taken ≠ [])
    (more : Attempts all t as) : Attempts all s (⟨taken, t.rest, .ok e⟩ :: as)
  /-- Reading stops behind some tokens. -/
  | stopped {s t : Cursor} {miss : Miss} {taken : List Token} {as : List Attempt}
    (ended : parse .expr s = .error miss t) (same : s.rest = taken ++ t.rest) (some : taken ≠ [])
    (more : Attempts all t as) :
    Attempts all s (⟨taken, t.rest, .error (faultAt all t.rest miss)⟩ :: as)
  /-- Reading stops at once. -/
  | skipped {s t : Cursor} {miss : Miss} {u : Token} {rest : List Token} {as : List Attempt}
    (ended : parse .expr s = .error miss t) (same : t.rest = s.rest) (found : s.rest = u :: rest)
    (more : Attempts all ⟨rest, t.fresh⟩ as) :
    Attempts all s (⟨[u], t.rest, .error (faultAt all t.rest miss)⟩ :: as)

/-- The expression that an attempt has read. -/
def Attempt.expr? (a : Attempt) : Option Expr :=
  match a.outcome with
  | .ok e => some e
  | .error _ => none

/-- The fault with which an attempt has stopped. -/
def Attempt.fault? (a : Attempt) : Option Diagnostic :=
  match a.outcome with
  | .ok _ => none
  | .error d => some d

theorem Attempts.flatMap_tokens {all : List Token} {s : Cursor} {as : List Attempt}
    (h : Attempts all s as) : as.flatMap Attempt.tokens = s.rest := by
  induction h with
  | done => rfl
  | read _ same _ _ ih => rw [List.flatMap_cons, ih, same]
  | stopped _ same _ _ ih => rw [List.flatMap_cons, ih, same]
  | skipped _ _ found _ ih => rw [List.flatMap_cons, ih, found, List.singleton_append]

theorem Attempts.tokens_ne_nil {all : List Token} {s : Cursor} {as : List Attempt}
    (h : Attempts all s as) : ∀ a ∈ as, a.tokens ≠ [] := by
  induction h with
  | done => simp
  | read _ _ some _ ih => simpa using ⟨some, ih⟩
  | stopped _ _ some _ ih => simpa using ⟨some, ih⟩
  | skipped _ _ _ _ ih => simpa using ih

/-- An attempt ends in front of tokens that it has found. If it comes to a fault, something is
missed there that does not come next. -/
theorem Attempts.stops {all : List Token} {s : Cursor} {as : List Attempt}
    (h : Attempts all s as) : ∀ a ∈ as, a.stop <:+ s.rest ∧
      ∀ d, a.fault? = some d → ∃ miss, miss.Refuses a.stop ∧ d = faultAt all a.stop miss := by
  have refused {s t : Cursor} {miss : Miss} (ended : parse .expr s = .error miss t) :
      miss.Refuses t.rest := by
    obtain ⟨-, leaves⟩ := agrees_parse (s.rest.length + 1) .expr s (Nat.lt_succ_self _)
    rw [ended] at leaves
    exact leaves.2
  induction h with
  | done => simp
  | read ended same some more ih =>
    refine List.forall_mem_cons.2 ⟨⟨⟨_, same.symm⟩, by simp [Attempt.fault?]⟩, fun a ha => ?_⟩
    exact ⟨(ih a ha).1.trans ⟨_, same.symm⟩, (ih a ha).2⟩
  | stopped ended same some more ih =>
    refine List.forall_mem_cons.2 ⟨⟨⟨_, same.symm⟩, ?_⟩, fun a ha => ?_⟩
    · rintro _ ⟨⟩
      exact ⟨_, refused ended, rfl⟩
    · exact ⟨(ih a ha).1.trans ⟨_, same.symm⟩, (ih a ha).2⟩
  | skipped ended same found more ih =>
    refine List.forall_mem_cons.2 ⟨⟨same ▸ List.suffix_rfl, ?_⟩, fun a ha => ?_⟩
    · rintro _ ⟨⟩
      exact ⟨_, refused ended, rfl⟩
    · exact ⟨(ih a ha).1.trans (found ▸ List.suffix_cons _ _), (ih a ha).2⟩

/-- As many rounds as there are tokens are enough for all attempts, and their results are what is
read. -/
theorem exists_attempts (all : List Token) {depth n : Nat} {s : Cursor} (rounds : s.rest.length ≤ n)
    (shallow : s.rest.length < depth) :
    ∃ as, Attempts all s as ∧ (ofRest all depth n s).exprs = as.filterMap Attempt.expr? ∧
      (ofRest all depth n s).faults = as.filterMap Attempt.fault? := by
  induction n generalizing s with
  | zero =>
    obtain ⟨rest, fresh⟩ := s
    obtain rfl : rest = [] := List.length_eq_zero_iff.1 (Nat.le_zero.1 rounds)
    exact ⟨[], .done fresh, rfl, rfl⟩
  | succ n ih =>
    obtain ⟨rest, fresh⟩ := s
    cases rest with
    | nil => exact ⟨[], .done fresh, rfl, rfl⟩
    | cons u rest =>
      simp only [List.length_cons] at rounds shallow
      obtain ⟨same, leaves⟩ := agrees_read_parse depth .expr ⟨u :: rest, fresh⟩ shallow
      rw [ofRest]
      simp only
      cases ended : Grammar.read depth .expr ⟨u :: rest, fresh⟩ with
      | ok e t =>
        rw [ended] at same leaves
        obtain ⟨taken, found, some⟩ := leaves.exists_taken
        have length := congrArg List.length found
        simp only [List.length_append, List.length_cons] at length
        obtain ⟨as, attempts, exprs, faults⟩ := ih (s := t) (by omega) (by omega)
        refine ⟨_ :: as, .read same found (List.ne_nil_of_length_pos some) attempts, ?_, ?_⟩
        · simp [exprs, Attempt.expr?]
        · simp [faults, Attempt.fault?, List.filterMap_cons]
      | error miss t =>
        rw [ended] at same leaves
        obtain ⟨⟨taken, found⟩, -⟩ := leaves
        have length := congrArg List.length found
        simp only [List.length_append, List.length_cons] at length
        by_cases none : taken = []
        · subst none
          have stays : t.rest = u :: rest := found
          obtain ⟨as, attempts, exprs, faults⟩ := ih (s := ⟨rest, t.fresh⟩) (by grind) (by grind)
          refine ⟨_ :: as, .skipped same stays rfl attempts, ?_, ?_⟩
          · simp [stays, exprs, Attempt.expr?, List.filterMap_cons]
          · simp [stays, faults, Attempt.fault?]
        · have some := List.length_pos_iff.2 none
          have moved : t.rest.length ≠ rest.length + 1 := by omega
          obtain ⟨as, attempts, exprs, faults⟩ := ih (s := t) (by omega) (by omega)
          refine ⟨_ :: as, .stopped same found.symm none attempts, ?_, ?_⟩
          · simp [moved, exprs, Attempt.expr?, List.filterMap_cons]
          · simp [moved, faults, Attempt.fault?]

/-- Reading ends, and accounts for every token. There is just one way to read without bounds, in
which a production that gives something has taken a token and none puts a token back; and the
attempts to read an expression in this way, each of which comes to an expression or to a fault,
share out all tokens in order. -/
theorem ofTokens_progresses (fresh : Nat) (tokens : List Token) :
    (Unbounded parse ∧ ∀ P, Unbounded P → P = parse) ∧
    (∀ (part : Part) (s : Cursor) (rounds : Nat), s.rest.length < rounds →
      part.production rounds (parse .expr) (parse .body) s = part.read s ∧
      match part.read s with
      | .ok _ t => ∃ taken, taken ≠ [] ∧ s.rest = taken ++ t.rest
      | .error _ t => ∃ taken, s.rest = taken ++ t.rest) ∧
    ∃ as, Attempts tokens ⟨tokens, fresh⟩ as ∧
      as.flatMap Attempt.tokens = tokens ∧ (∀ a ∈ as, a.tokens ≠ []) ∧
      (ofTokens fresh tokens).exprs = as.filterMap Attempt.expr? ∧
      (ofTokens fresh tokens).faults = as.filterMap Attempt.fault? := by
  refine ⟨⟨unbounded_parse, fun P h => h.eq_parse⟩, fun part s rounds room => ?_, ?_⟩
  · obtain ⟨same, leaves⟩ := part.agrees_read room
    refine ⟨same, ?_⟩
    generalize part.read s = r at leaves ⊢
    cases r with
    | ok e t =>
      obtain ⟨taken, found, some⟩ := leaves.exists_taken
      exact ⟨taken, List.ne_nil_of_length_pos some, found⟩
    | error miss t =>
      obtain ⟨⟨taken, found⟩, -⟩ := leaves
      exact ⟨taken, found.symm⟩
  · obtain ⟨as, attempts, exprs, faults⟩ :=
      exists_attempts tokens (s := ⟨tokens, fresh⟩) (Nat.le_refl _) (Nat.lt_succ_self tokens.length)
    exact ⟨as, attempts, attempts.flatMap_tokens, attempts.tokens_ne_nil, exprs, faults⟩

end Parse

end FoxScript
