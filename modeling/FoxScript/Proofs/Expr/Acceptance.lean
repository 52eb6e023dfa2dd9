import FoxScript.Proofs.Expr.Grammar

/-!
# Productions that take certain tokens

`Accepts act ts rest φ` says that in front of `rest` the production `act` takes exactly the tokens
`ts`, whatever the next number is, and gives something with the property `φ`. Since the productions
look at what comes behind, this depends on `rest`: `Ends l rest` says that no construct of level `l`
goes on with the first token of `rest`.

A loop that reads a chain is not followed operand by operand, since the trees of chains nest to the
left. Behind the tokens of a left operand reading stands in the middle of the loop, with that
operand in its hands; `GoesOn` says so.

## Main definitions

* `Expr.unnumbered`: a tree up to the numbers of the uses of names.
* `Grammar.Accepts`, `Grammar.GoesOn`: productions that take certain tokens, all or at first.
* `Grammar.Ends`: what may follow a construct.
-/
namespace FoxScript

/-! ### Trees up to the numbers of uses -/

mutual

/-- The expression with the number of each use forgotten. -/
def Expr.unnumbered : Expr → Expr
  | .literal value => .literal value
  | .variable _ name => .variable ⟨0⟩ name
  | .array elements close => .array (Expr.unnumberedOf elements) close
  | .assign _ name value => .assign ⟨0⟩ name value.unnumbered
  | .assignElement _ name index value =>
    .assignElement ⟨0⟩ name index.unnumbered value.unnumbered
  | .binary left op right => .binary left.unnumbered op right.unnumbered
  | .block members => .block (Expr.unnumberedOf members)
  | .break keyword => .break keyword
  | .call callee args close => .call callee.unnumbered (Expr.unnumberedOf args) close
  | .function name params body => .function name params body.unnumbered
  | .group inner => .group inner.unnumbered
  | .import path => .import path
  | .index target index close => .index target.unnumbered index.unnumbered close
  | .slice target lower upper close =>
    .slice target.unnumbered lower.unnumbered upper.unnumbered close
  | .logical left op right => .logical left.unnumbered op right.unnumbered
  | .match keyword scrutinee cases => .match keyword scrutinee.unnumbered (Case.unnumberedOf cases)
  | .orPattern left pipe right => .orPattern left.unnumbered pipe right.unnumbered
  | .anyPattern wildcard => .anyPattern wildcard
  | .ternary condition yes no op => .ternary condition.unnumbered yes.unnumbered no.unnumbered op
  | .unary op operand => .unary op operand.unnumbered
  | .declare name => .declare name
  | .declareAs name value => .declareAs name value.unnumbered
  | .loop keyword body => .loop keyword body.unnumbered
  | .loopWhile keyword condition body => .loopWhile keyword condition.unnumbered body.unnumbered

/-- Several expressions with the number of each use forgotten. -/
def Expr.unnumberedOf : List Expr → List Expr
  | [] => []
  | e :: es => e.unnumbered :: Expr.unnumberedOf es

/-- Cases with the number of each use forgotten. -/
def Case.unnumberedOf : List Case → List Case
  | [] => []
  | .mk arrow condition body :: cases =>
    .mk arrow condition.unnumbered body.unnumbered :: Case.unnumberedOf cases

end

/-- Two trees that differ in the numbers of uses only. -/
def Expr.SameBut (e e' : Expr) : Prop := e'.unnumbered = e.unnumbered

/-- Two cases that differ in the numbers of uses only. -/
def Case.SameBut (c c' : Case) : Prop :=
  c'.arrow = c.arrow ∧ c.condition.SameBut c'.condition ∧ c.body.SameBut c'.body

theorem Expr.unnumberedOf_eq {es es' : List Expr} (h : List.Forall₂ Expr.SameBut es es') :
    Expr.unnumberedOf es' = Expr.unnumberedOf es := by
  induction h with
  | nil => rfl
  | cons same _ ih => rw [Expr.unnumberedOf, Expr.unnumberedOf, same, ih]

theorem Case.unnumberedOf_eq {cs cs' : List Case} (h : List.Forall₂ Case.SameBut cs cs') :
    Case.unnumberedOf cs' = Case.unnumberedOf cs := by
  induction h with
  | nil => rfl
  | @cons c c' _ _ same _ ih =>
    obtain ⟨arrow, condition, body⟩ := c
    obtain ⟨arrow', condition', body'⟩ := c'
    obtain ⟨rfl, sameCondition, sameBody⟩ := same
    simp only [Case.condition, Case.body, Expr.SameBut] at sameCondition sameBody
    rw [Case.unnumberedOf, Case.unnumberedOf, sameCondition, sameBody, ih]
    rfl

namespace Grammar

variable {α β : Type} {act : Production α} {ts us rest : List Token} {φ : α → Prop}

/-! ### Productions that take certain tokens -/

/-- In front of `rest` the production takes `ts` and no more, and gives something that is `φ`. -/
def Accepts (act : Production α) (ts rest : List Token) (φ : α → Prop) : Prop :=
  ∀ fresh, ∃ a fresh', act ⟨ts ++ rest, fresh⟩ = .ok a ⟨rest, fresh'⟩ ∧ φ a

/-- In front of `rest` the production takes `ts` first and does from there on what a production
that is `Φ` does. -/
def GoesOn (act : Production α) (ts rest : List Token) (Φ : Production α → Prop) : Prop :=
  ∀ fresh, ∃ next fresh', act ⟨ts ++ rest, fresh⟩ = next ⟨rest, fresh'⟩ ∧ Φ next

namespace Accepts

theorem pure {a : α} (h : φ a) : Accepts (pure a) [] rest φ := fun fresh => ⟨a, fresh, rfl, h⟩

theorem mono {ψ : α → Prop} (h : Accepts act ts rest φ) (imp : ∀ a, φ a → ψ a) :
    Accepts act ts rest ψ := by
  intro fresh
  obtain ⟨a, fresh', ended, ok⟩ := h fresh
  exact ⟨a, fresh', ended, imp a ok⟩

theorem bind {next : α → Production β} {ψ : β → Prop} (h : Accepts act ts (us ++ rest) φ)
    (hn : ∀ a, φ a → Accepts (next a) us rest ψ) : Accepts (act >>= next) (ts ++ us) rest ψ := by
  intro fresh
  obtain ⟨a, fresh', ended, ok⟩ := h fresh
  obtain ⟨b, fresh'', ended', ok'⟩ := hn a ok fresh'
  refine ⟨b, fresh'', ?_, ok'⟩
  simp only [Bind.bind, EStateM.bind, List.append_assoc, ended]
  exact ended'

/-- A production that takes nothing, and then one that takes the tokens. -/
theorem bind_nil {next : α → Production β} {ψ : β → Prop} (h : Accepts act [] (ts ++ rest) φ)
    (hn : ∀ a, φ a → Accepts (next a) ts rest ψ) : Accepts (act >>= next) ts rest ψ :=
  h.bind hn

/-- A production that takes the tokens, and then one that takes nothing. -/
theorem bind_last {next : α → Production β} {ψ : β → Prop} (h : Accepts act ts rest φ)
    (hn : ∀ a, φ a → Accepts (next a) [] rest ψ) : Accepts (act >>= next) ts rest ψ := by
  simpa using h.bind hn

theorem goesOn {next : α → Production β} (h : Accepts act ts rest φ) :
    GoesOn (act >>= next) ts rest fun after => ∃ a, φ a ∧ after = next a := by
  intro fresh
  obtain ⟨a, fresh', ended, ok⟩ := h fresh
  refine ⟨next a, fresh', ?_, a, ok, rfl⟩
  simp only [Bind.bind, EStateM.bind, ended]

/-! ### Single tokens -/

theorem get {next : Cursor → Production β} {ψ : β → Prop}
    (h : ∀ fresh, Accepts (next ⟨ts ++ rest, fresh⟩) ts rest ψ) :
    Accepts (get >>= next) ts rest ψ :=
  fun fresh => h fresh fresh

theorem nextKind {next : Option TokenKind → Production β} {ψ : β → Prop}
    (h : Accepts (next ((ts ++ rest).head?.map Token.kind)) ts rest ψ) :
    Accepts (nextKind? >>= next) ts rest ψ :=
  h

theorem skip {t : Token} : Accepts skip [t] rest fun _ => True :=
  fun fresh => ⟨(), fresh, rfl, trivial⟩

theorem newId : Accepts newId [] rest fun _ => True := fun fresh => ⟨_, fresh + 1, rfl, trivial⟩

theorem takeOneOf {kinds : List TokenKind} {t : Token} (h : t.kind ∈ kinds) :
    Accepts (takeOneOf? kinds) [t] rest (· = some t) := by
  intro fresh
  refine ⟨some t, fresh, ?_, rfl⟩
  simp [h]

theorem takeNone {kinds : List TokenKind} (h : ∀ t ∈ rest.head?, t.kind ∉ kinds) :
    Accepts (takeOneOf? kinds) [] rest (· = none) := by
  intro fresh
  refine ⟨none, fresh, ?_, rfl⟩
  cases rest with
  | nil => rfl
  | cons t rest =>
    have : t.kind ∉ kinds := h t rfl
    simp [this]

theorem accept {kind : TokenKind} {t : Token} (h : t.kind = kind) :
    Accepts (accept kind) [t] rest (· = true) :=
  (takeOneOf (by simp [h])).bind_last fun _ ok => .pure (by simp [ok])

theorem acceptNone {kind : TokenKind} (h : ∀ t ∈ rest.head?, t.kind ≠ kind) :
    Accepts (Grammar.accept kind) [] rest (· = false) :=
  (takeNone fun t ht => by simpa using h t ht).bind_last fun _ ok => .pure (by simp [ok])

theorem expect {e : Expectation} {t : Token} (h : t.kind = e.kind) :
    Accepts (expect e) [t] rest (· = t) := by
  refine (takeOneOf (by simp [h])).bind_last fun a ok => ?_
  subst ok
  exact .pure rfl

theorem discard (h : Accepts act ts rest φ) : Accepts (discard act) ts rest fun _ => True := by
  intro fresh
  obtain ⟨a, fresh', ended, -⟩ := h fresh
  refine ⟨(), fresh', ?_, trivial⟩
  simp only [Functor.discard, Functor.mapConst, EStateM.map, Function.comp, ended]

theorem expected {e : Expectation} {t : Token} (h : t.kind = e.kind) :
    Accepts (Functor.discard (Grammar.expect e)) [t] rest fun _ => True :=
  (expect h).discard

end Accepts

namespace GoesOn

variable {Φ Ψ : Production α → Prop}

theorem trans (h : GoesOn act ts (us ++ rest) Φ) (hn : ∀ next, Φ next → GoesOn next us rest Ψ) :
    GoesOn act (ts ++ us) rest Ψ := by
  intro fresh
  obtain ⟨next, fresh', same, ok⟩ := h fresh
  obtain ⟨last, fresh'', same', ok'⟩ := hn next ok fresh'
  exact ⟨last, fresh'', by rw [List.append_assoc, same, same'], ok'⟩

theorem accepts (h : GoesOn act ts rest Φ) (hn : ∀ next, Φ next → Accepts next [] rest φ) :
    Accepts act ts rest φ := by
  intro fresh
  obtain ⟨next, fresh', same, ok⟩ := h fresh
  obtain ⟨a, fresh'', ended, ok'⟩ := hn next ok fresh'
  exact ⟨a, fresh'', by rw [same]; exact ended, ok'⟩

theorem imp (h : GoesOn act ts rest Φ) (imp : ∀ next, Φ next → Ψ next) :
    GoesOn act ts rest Ψ := by
  intro fresh
  obtain ⟨next, fresh', same, ok⟩ := h fresh
  exact ⟨next, fresh', same, imp next ok⟩

theorem nextKind {next : Option TokenKind → Production β} {Φ : Production β → Prop}
    (h : GoesOn (next ((ts ++ rest).head?.map Token.kind)) ts rest Φ) :
    GoesOn (nextKind? >>= next) ts rest Φ :=
  h

end GoesOn

theorem Accepts.bind_goesOn {next : α → Production β} {Φ : Production β → Prop}
    (h : Accepts act ts (us ++ rest) φ) (hn : ∀ a, φ a → GoesOn (next a) us rest Φ) :
    GoesOn (act >>= next) (ts ++ us) rest Φ := by
  refine h.goesOn.trans ?_
  rintro _ ⟨a, ok, rfl⟩
  exact hn a ok

/-! ### What follows -/

/-- What may follow a construct of a level: nothing with which such a construct goes on. -/
def Ends (l : Level) (rest : List Token) : Prop := ∀ t ∈ rest.head?, ¬l ≤ t.kind.level

theorem Ends.mono {k l : Level} (h : Ends k rest) (le : k ≤ l) : Ends l rest :=
  fun t ht le' => h t ht (le.trans le')

theorem ends_nil (l : Level) : Ends l [] := by simp [Ends]

theorem ends_cons {l : Level} {t : Token} : Ends l (t :: rest) ↔ ¬l ≤ t.kind.level := by
  simp [Ends]

theorem ends_of_kind {l : Level} {t : Token} {kind : TokenKind} (h : t.kind = kind)
    (loose : ¬l ≤ kind.level) : Ends l (t :: rest) := by
  rw [ends_cons, h]
  exact loose

/-- No token goes on with a form that has a keyword. -/
theorem Ends.expression (h : Ends .ternary rest) : Ends .expression rest := by
  intro t ht le
  refine h t ht ?_
  revert le
  cases t.kind <;> decide

/-! ### Lists -/

section

variable {m : Nat} {item : Production β} {L : α → Language Token} {same : α → β → Prop}

/-- An item of a list is read from each of its writings, in front of what ends an expression. -/
def AcceptsItem (m : Nat) (item : Production β) (L : α → Language Token) (same : α → β → Prop)
    (a : α) : Prop :=
  ∀ ts ∈ L a, ts.length ≤ m → ∀ rest, Ends .expression rest → Accepts item ts rest (same a)

theorem accepts_sepByComma {as : List α} (h : ∀ a ∈ as, AcceptsItem m item L same a)
    (some : as ≠ []) {j : Nat} (hts : ts ∈ separated (as.map L)) (short : ts.length ≤ m)
    (room : ts.length < j) (ends : Ends .expression rest)
    (stops : ∀ t ∈ rest.head?, t.kind ≠ .comma) :
    Accepts (sepByComma item j) ts rest (List.Forall₂ same as) := by
  induction as generalizing j ts with
  | nil => exact absurd rfl some
  | cons a as ih =>
    cases j with
    | zero => omega
    | succ j =>
      cases as with
      | nil =>
        refine (h a (by simp) ts hts short rest ends).bind_last fun b ok => ?_
        refine (Accepts.acceptNone stops).bind_nil fun more none => ?_
        subst none
        exact .pure (by simpa using ok)
      | cons a' as =>
        rw [List.map_cons, separated_cons (by simp), mul_assoc] at hts
        obtain ⟨us, hu, _, ⟨_, ⟨c, comma, rfl⟩, vs, hv, rfl⟩, rfl⟩ := hts
        simp only [List.length_append, List.length_singleton] at short room
        have goes : Ends .expression (([c] ++ vs) ++ rest) := ends_of_kind comma (by decide)
        refine (h a (by simp) us hu (by omega) _ goes).bind fun b ok => ?_
        refine (Accepts.accept comma).bind fun more yes => ?_
        subst yes
        refine (ih (fun a ha => h a (by simp_all)) (by simp) hv (by omega) (by omega)).bind_last
          fun bs all => .pure (.cons ok all)

theorem accepts_listUntil {as : List α} (h : ∀ a ∈ as, AcceptsItem m item L same a)
    {close : TokenKind} (starts : ∀ a ∈ as, ∀ ts ∈ L a, ∃ t us, ts = t :: us ∧ t.kind ≠ close)
    {rounds : Nat} (hts : ts ∈ separated (as.map L)) (short : ts.length ≤ m) (room : m < rounds)
    {t : Token} (closes : t.kind = close) (ends : Ends .expression (t :: rest))
    (stops : close ≠ .comma) :
    Accepts (listUntil rounds close item) ts (t :: rest) (List.Forall₂ same as) := by
  refine .nextKind ?_
  cases as with
  | nil =>
    obtain rfl : ts = [] := hts
    simp only [List.nil_append, List.head?_cons, Option.map_some, closes, if_true]
    exact .pure .nil
  | cons a as =>
    obtain ⟨u, us, rfl, other⟩ : ∃ u us, ts = u :: us ∧ u.kind ≠ close := by
      cases as with
      | nil => exact starts a (by simp) ts hts
      | cons a' as =>
        rw [List.map_cons, separated_cons (by simp), mul_assoc] at hts
        obtain ⟨us, hu, vs, -, rfl⟩ := hts
        obtain ⟨t, us, rfl, other⟩ := starts a (by simp) us hu
        exact ⟨t, us ++ vs, rfl, other⟩
    have differs : ¬(((u :: us ++ t :: rest).head?.map Token.kind) = some close) := by
      simpa using other
    rw [if_neg differs]
    exact accepts_sepByComma h (by simp) hts short (by omega) ends (by simp [closes, stops])

theorem accepts_members {as : List α} (h : ∀ a ∈ as, AcceptsItem m item L same a)
    {close : TokenKind} (starts : ∀ a ∈ as, ∀ ts ∈ L a, ∃ t us, ts = t :: us ∧ t.kind ≠ close)
    {j : Nat} (hts : ts ∈ Commas.between.lay (as.map L)) (short : ts.length ≤ m)
    (room : ts.length < j) {t : Token} (closes : t.kind = close)
    (ends : Ends .expression (t :: rest)) (stops : close ≠ .comma) :
    Accepts (members close item j) ts (t :: rest) (List.Forall₂ same as) := by
  induction as generalizing j ts with
  | nil =>
    obtain rfl : ts = [] := hts
    cases j with
    | zero => exact .pure .nil
    | succ j =>
      refine .nextKind ?_
      simp only [List.nil_append, List.head?_cons, Option.map_some, closes, if_true]
      exact .pure .nil
  | cons a as ih =>
    cases j with
    | zero => omega
    | succ j =>
      cases as with
      | nil =>
        obtain ⟨u, us, rfl, other⟩ := starts a (by simp) ts hts
        refine .nextKind ?_
        simp only [List.cons_append, List.head?_cons, Option.map_some, other, if_false]
        refine (h a (by simp) _ hts short _ ends).bind_last fun b ok => ?_
        refine (Accepts.acceptNone (by simp [closes, stops])).discard.bind_nil fun _ _ => ?_
        refine (ih (by simp) (by simp) rfl (Nat.zero_le _) ?_).bind_last fun bs all =>
          .pure (.cons ok all)
        simp only [List.length_cons] at room
        simp only [List.length_nil]
        omega
      | cons a' as =>
        replace hts : ts ∈ separated (L a :: (a' :: as).map L) := hts
        rw [separated_cons (by simp), mul_assoc] at hts
        obtain ⟨us, hu, _, ⟨_, ⟨c, comma, rfl⟩, vs, hv, rfl⟩, rfl⟩ := hts
        obtain ⟨u, us, rfl, other⟩ := starts a (by simp) us hu
        refine .nextKind ?_
        simp only [List.cons_append, List.head?_cons, Option.map_some, other, if_false]
        simp only [List.length_append, List.length_cons, List.length_nil] at short room
        have goes : Ends .expression (([c] ++ vs) ++ t :: rest) := ends_of_kind comma (by decide)
        refine (h a (by simp) _ hu (by simp only [List.length_cons]; omega) _ goes).bind
          fun b ok => ?_
        refine (Accepts.accept comma).discard.bind fun _ _ => ?_
        refine (ih (fun a ha => h a (by simp_all))
          (fun a ha => starts a (by simp_all)) hv (by omega)
          (by omega)).bind_last fun bs all => .pure (.cons ok all)

end

end Grammar

end FoxScript
