import FoxScript.Proofs.Session.Composition

/-!
# Matches

A match evaluates its scrutinee, and then the alternatives of its cases one after the other, up to
the first that accepts the value. However the conditions are nested, the alternatives stand in one
row. What comes of a match is a matter of the evaluations that are made on the way, and no other
evaluation has a part in it.

## Main definitions

* `Case.offers`: the alternatives of cases in a row, each with the body it leads to.
* `Eval.Tries`: the rules by which alternatives are tried on a value.
* `Eval.Matches`: the rules of a match.

## Main statements

* `Eval.choose_eq_firstOf`: the nesting of conditions makes no difference.
* `Eval.match_takes_first`: a match comes to what the rules say, by the evaluations they name.
-/
namespace FoxScript

/-! ### Alternatives in a row -/

/-- The alternatives of a condition from left to right. One that accepts everything stands for
itself. -/
def Expr.choices : Expr → List Expr
  | .orPattern left _ right => left.choices ++ right.choices
  | e => [e]

/-- The alternatives of cases from left to right and case by case, each with the body of its
case. -/
def Case.offers : List Case → List (Expr × Expr)
  | [] => []
  | .mk _ condition body :: cases => condition.choices.map (·, body) ++ Case.offers cases

namespace Eval

variable {eval eval' : Expr → Eval Value} {v : Value} {s : Session} {offers : List (Expr × Expr)}
  {tried tried' : List (Expr × Session)} {r r' : EStateM.Result Exit Session Value}

section

variable (eval : Expr → Eval Value) (v : Value)

/-- Whether one alternative accepts a value. -/
def admits : Expr → Eval Bool
  | .anyPattern _ => return true
  | e => do
    let w ← eval e
    readStore fun s => w.equal s v

/-- Evaluates the body of the first alternative that accepts a value. -/
def firstOf : List (Expr × Expr) → Eval Value
  | [] => return .null
  | (a, body) :: rest => do
    if ← admits eval v a then eval body else firstOf rest

/-- To ask a condition is to ask its alternatives in turn. -/
theorem firstOf_choices (condition body : Expr) (rest : List (Expr × Expr)) :
    firstOf eval v (condition.choices.map (·, body) ++ rest) =
      (do if ← accepts eval v condition then eval body else firstOf eval v rest) := by
  fun_induction Expr.choices condition generalizing rest with
  | case1 left pipe right ihl ihr =>
    rw [List.map_append, List.append_assoc, ihl, ihr, accepts, bind_assoc]
    refine bind_congr fun found => ?_
    cases found with
    | true => rw [if_pos rfl, if_pos rfl, pure_bind, if_pos rfl]
    | false => rw [if_neg Bool.false_ne_true, if_neg Bool.false_ne_true]
  | case2 e other =>
    -- What is no alternative of two is asked as it is.
    have alone : accepts eval v e = admits eval v e := by
      cases e with
      | orPattern left pipe right => exact absurd rfl (other left pipe right)
      | _ => rfl
    rw [alone]
    rfl

/-- The nesting of conditions makes no difference: the first case that accepts a value is the one
with the first alternative that does. -/
theorem choose_eq_firstOf (cases : List Case) :
    choose eval v cases = firstOf eval v (Case.offers cases) := by
  induction cases with
  | nil => rfl
  | cons c cases ih =>
    obtain ⟨arrow, condition, body⟩ := c
    rw [Case.offers, firstOf_choices, choose, ih]

end

/-! ### The rules -/

/-- What it comes to when alternatives are tried on the value `v` one after the other, and what is
evaluated for it: expressions, each in the session that the one before has left. -/
inductive Tries (eval : Expr → Eval Value) (v : Value) : List (Expr × Expr) → Session →
    List (Expr × Session) → EStateM.Result Exit Session Value → Prop
  /-- If none accepts the value, the match has none itself. -/
  | none (s : Session) : Tries eval v [] s [] (.ok .null s)
  /-- A wildcard accepts the value without being evaluated. The match ends like the body of its
  case. -/
  | wildcard {s : Session} {r : EStateM.Result Exit Session Value} {body : Expr}
    {rest : List (Expr × Expr)} (underscore : Token) (ends : eval body s = r) :
    Tries eval v ((.anyPattern underscore, body) :: rest) s [(body, s)] r
  /-- So does an alternative whose value equals `v` when it has been evaluated. -/
  | equal {s t : Session} {r : EStateM.Result Exit Session Value} {a body : Expr} {w : Value}
    {rest : List (Expr × Expr)} (plain : ∀ underscore, a ≠ .anyPattern underscore)
    (value : eval a s = .ok w t) (same : w.equal t.store v = true) (ends : eval body t = r) :
    Tries eval v ((a, body) :: rest) s [(a, s), (body, t)] r
  /-- After an alternative whose value does not equal `v` then, the next one is tried. -/
  | differs {s t : Session} {r : EStateM.Result Exit Session Value} {a body : Expr} {w : Value}
    {rest : List (Expr × Expr)} {tried : List (Expr × Session)}
    (plain : ∀ underscore, a ≠ .anyPattern underscore) (value : eval a s = .ok w t)
    (other : w.equal t.store v = false) (next : Tries eval v rest t tried r) :
    Tries eval v ((a, body) :: rest) s ((a, s) :: tried) r
  /-- An alternative that has no value ends the match. -/
  | exits {s t : Session} {x : Exit} {a body : Expr} {rest : List (Expr × Expr)}
    (plain : ∀ underscore, a ≠ .anyPattern underscore) (h : eval a s = .error x t) :
    Tries eval v ((a, body) :: rest) s [(a, s)] (.error x t)

/-- What a match comes to, and what is evaluated for it. The scrutinee comes first. -/
inductive Matches (eval : Expr → Eval Value) (scrutinee : Expr) (cases : List Case) (s : Session) :
    List (Expr × Session) → EStateM.Result Exit Session Value → Prop
  /-- A scrutinee that has no value ends the match. -/
  | exits {t : Session} {x : Exit} (h : eval scrutinee s = .error x t) :
    Matches eval scrutinee cases s [(scrutinee, s)] (.error x t)
  /-- On its value the alternatives of all cases are tried. -/
  | tries {t : Session} {v : Value} {tried : List (Expr × Session)}
    {r : EStateM.Result Exit Session Value} (value : eval scrutinee s = .ok v t)
    (h : Tries eval v (Case.offers cases) t tried r) :
    Matches eval scrutinee cases s ((scrutinee, s) :: tried) r

/-! ### Alternatives that are tried -/

theorem admits_of_plain {a : Expr} (plain : ∀ underscore, a ≠ .anyPattern underscore) :
    admits eval v a = eval a >>= fun w => readStore fun s => w.equal s v := by
  cases a with
  | anyPattern underscore => exact absurd rfl (plain underscore)
  | _ => rfl

theorem admits_of_ok {a : Expr} {w : Value} {t : Session}
    (plain : ∀ underscore, a ≠ .anyPattern underscore) (value : eval a s = .ok w t) :
    admits eval v a s = .ok (w.equal t.store v) t := by
  rw [admits_of_plain plain, bind_of_ok value]
  rfl

theorem admits_of_error {a : Expr} {x : Exit} {t : Session}
    (plain : ∀ underscore, a ≠ .anyPattern underscore) (h : eval a s = .error x t) :
    admits eval v a s = .error x t := by
  rw [admits_of_plain plain, bind_of_error h]

/-- The rules say what is come to. -/
theorem Tries.firstOf_eq (h : Tries eval v offers s tried r) : firstOf eval v offers s = r := by
  induction h with
  | none s => rfl
  | wildcard underscore ends => exact ends
  | equal plain value same ends =>
    have asked := admits_of_ok (v := v) plain value
    rw [same] at asked
    exact (bind_of_ok asked).trans ends
  | differs plain value other next ih =>
    have asked := admits_of_ok (v := v) plain value
    rw [other] at asked
    exact (bind_of_ok asked).trans ih
  | exits plain h => exact bind_of_error (admits_of_error plain h)

/-- There is always a rule. -/
theorem exists_tries (eval : Expr → Eval Value) (v : Value) (offers : List (Expr × Expr))
    (s : Session) : ∃ tried r, Tries eval v offers s tried r := by
  induction offers generalizing s with
  | nil => exact ⟨_, _, .none s⟩
  | cons p rest ih =>
    obtain ⟨a, body⟩ := p
    by_cases wild : ∃ underscore, a = .anyPattern underscore
    · obtain ⟨underscore, rfl⟩ := wild
      exact ⟨_, _, .wildcard underscore rfl⟩
    · have plain : ∀ underscore, a ≠ .anyPattern underscore := not_exists.1 wild
      cases value : eval a s with
      | error x t => exact ⟨_, _, .exits plain value⟩
      | ok w t =>
        cases same : w.equal t.store v with
        | true => exact ⟨_, _, .equal plain value same rfl⟩
        | false =>
          obtain ⟨tried, r, next⟩ := ih t
          exact ⟨_, _, .differs plain value same next⟩

/-- There is only one way to go by the rules. -/
theorem Tries.unique (h : Tries eval v offers s tried r) (h' : Tries eval v offers s tried' r') :
    tried' = tried ∧ r' = r := by
  induction h generalizing tried' r' with
  | none s =>
    cases h'
    exact ⟨rfl, rfl⟩
  | wildcard underscore ends =>
    cases h' with
    | wildcard _ ends' => exact ⟨rfl, ends'.symm.trans ends⟩
    | equal plain | differs plain | exits plain => exact absurd rfl (plain underscore)
  | equal plain value same ends =>
    cases h' with
    | wildcard underscore => exact absurd rfl (plain underscore)
    | equal _ value' _ ends' =>
      rw [value] at value'
      cases value'
      exact ⟨rfl, ends'.symm.trans ends⟩
    | differs _ value' other =>
      rw [value] at value'
      cases value'
      exact absurd (same.symm.trans other) Bool.noConfusion
    | exits _ h =>
      rw [value] at h
      cases h
  | differs plain value other next ih =>
    cases h' with
    | wildcard underscore => exact absurd rfl (plain underscore)
    | equal _ value' same =>
      rw [value] at value'
      cases value'
      exact absurd (same.symm.trans other) Bool.noConfusion
    | differs _ value' _ next' =>
      rw [value] at value'
      cases value'
      obtain ⟨rfl, rfl⟩ := ih next'
      exact ⟨rfl, rfl⟩
    | exits _ h =>
      rw [value] at h
      cases h
  | exits plain h =>
    cases h' with
    | wildcard underscore => exact absurd rfl (plain underscore)
    | equal _ value | differs _ value =>
      rw [h] at value
      cases value
    | exits _ h' =>
      rw [h] at h'
      cases h'
      exact ⟨rfl, rfl⟩

/-- Only the evaluations that are made have a part in it. -/
theorem Tries.congr (h : Tries eval v offers s tried r)
    (agree : ∀ p ∈ tried, eval' p.1 p.2 = eval p.1 p.2) : Tries eval' v offers s tried r := by
  induction h with
  | none s => exact .none s
  | wildcard underscore ends =>
    exact .wildcard underscore ((agree _ List.mem_cons_self).trans ends)
  | equal plain value same ends =>
    rw [List.forall_mem_cons, List.forall_mem_singleton] at agree
    exact .equal plain (agree.1.trans value) same (agree.2.trans ends)
  | differs plain value other next ih =>
    rw [List.forall_mem_cons] at agree
    exact .differs plain (agree.1.trans value) other (ih agree.2)
  | exits plain h => exact .exits plain ((agree _ List.mem_cons_self).trans h)

/-! ### Matches -/

variable {scrutinee : Expr} {cases : List Case}

theorem Matches.step_eq (h : Matches eval scrutinee cases s tried r) (rounds : Nat)
    (keyword : Token) : step eval rounds (.match keyword scrutinee cases) s = r := by
  cases h with
  | exits h => exact bind_of_error h
  | tries value h =>
    rw [step, bind_of_ok value, choose_eq_firstOf]
    exact h.firstOf_eq

theorem exists_matches (eval : Expr → Eval Value) (scrutinee : Expr) (cases : List Case)
    (s : Session) : ∃ tried r, Matches eval scrutinee cases s tried r := by
  cases value : eval scrutinee s with
  | error x t => exact ⟨_, _, .exits value⟩
  | ok v t =>
    obtain ⟨tried, r, h⟩ := exists_tries eval v (Case.offers cases) t
    exact ⟨_, _, .tries value h⟩

theorem Matches.unique (h : Matches eval scrutinee cases s tried r)
    (h' : Matches eval scrutinee cases s tried' r') : tried' = tried ∧ r' = r := by
  cases h with
  | exits h =>
    cases h' with
    | exits h' =>
      rw [h] at h'
      cases h'
      exact ⟨rfl, rfl⟩
    | tries value =>
      rw [h] at value
      cases value
  | tries value h =>
    cases h' with
    | exits h' =>
      rw [value] at h'
      cases h'
    | tries value' h' =>
      rw [value] at value'
      cases value'
      obtain ⟨rfl, rfl⟩ := h.unique h'
      exact ⟨rfl, rfl⟩

theorem Matches.congr (h : Matches eval scrutinee cases s tried r)
    (agree : ∀ p ∈ tried, eval' p.1 p.2 = eval p.1 p.2) :
    Matches eval' scrutinee cases s tried r := by
  cases h with
  | exits h => exact .exits ((agree _ List.mem_cons_self).trans h)
  | tries value h =>
    rw [List.forall_mem_cons] at agree
    exact .tries (agree.1.trans value) (h.congr agree.2)

/-- A match evaluates its scrutinee, then the alternatives of its cases from left to right and case
by case until one accepts the value, and then the body of that case, each once and in the session
that the one before has left; it ends like the body, with null if no alternative accepts the value,
and at once if what is evaluated has no value. The rules allow no other course. What the match comes
to depends on these evaluations alone, whatever other expressions, or the same ones in another
session, would come to. -/
theorem match_takes_first (eval : Expr → Eval Value) (rounds : Nat) (keyword : Token)
    (scrutinee : Expr) (cases : List Case) (s : Session) :
    ∃ evaluated r, Matches eval scrutinee cases s evaluated r ∧
      step eval rounds (.match keyword scrutinee cases) s = r ∧
      (∀ evaluated' r', Matches eval scrutinee cases s evaluated' r' →
        evaluated' = evaluated ∧ r' = r) ∧
      ∀ eval', (∀ p ∈ evaluated, eval' p.1 p.2 = eval p.1 p.2) →
        step eval' rounds (.match keyword scrutinee cases) s = r := by
  obtain ⟨evaluated, r, h⟩ := exists_matches eval scrutinee cases s
  refine ⟨evaluated, r, h, h.step_eq rounds keyword, fun _ _ h' => h.unique h', ?_⟩
  intro eval' agree
  exact (h.congr agree).step_eq rounds keyword

end Eval

end FoxScript
