import FoxScript.Proofs.Expr.Acceptance
import FoxScript.Proofs.Expr.Header

/-!
# Reading is complete

Every writing of a tree of the grammar, with commas between members and between cases, is read as
that tree: no production stops early, and none takes a token that comes behind its construct.

## Main statements

* `Grammar.Parses.chain`, `Grammar.goesOn_chain`: chains of operators of one level.
* `Grammar.parses_read`: what stands at a place is read, from any of its writings.
* `Parse.ofTokens_complete`: so it is for a program.
-/
namespace FoxScript

namespace Grammar

variable {α : Type} {act : Production α} {ts rest : List Token}

/-! ### Levels -/

/-- A production that reads the trees of a level from their writings of at most `m` tokens. -/
def Parses (m : Nat) (act : Production Expr) (l : Level) (p : Place) : Prop :=
  ∀ e : Expr, e.Fits l → ∀ ts ∈ e.writings .between p, ts.length ≤ m → ∀ rest, Ends l rest →
    Accepts act ts rest e.SameBut

@[simp] theorem Level.unnumbered_join (k : Level) (left right : Expr) (op : Token) :
    (k.join left op right).unnumbered = k.join left.unnumbered op right.unnumbered := by
  cases k <;> rfl

section

variable {m rounds : Nat} {k l : Level} {kinds : List TokenKind} {operand : Production Expr}

/-- Behind a chain reading stands in the middle of the loop, with the chain in its hands. -/
theorem goesOn_chain (h : Parses m operand l .expr) (operator : k ∈ Level.joins)
    (level : ∀ kind, kind ∈ kinds ↔ kind.level = k) (lt : k < l) (next : ∀ j, k < j → l ≤ j)
    (room : m ≤ rounds) {e : Expr} (fits : e.Fits k) (hts : ts ∈ e.writings .between .expr)
    (short : ts.length ≤ m) (ends : Ends l rest) :
    GoesOn (chain rounds kinds k.join operand) ts rest fun after => ∃ e' j, e.SameBut e' ∧
      rounds ≤ j + ts.length ∧ after = chainFrom kinds k.join operand e' j := by
  induction e using Expr.induction_parts generalizing ts rest with
  | step e ih =>
    obtain same | tight := fits.1.eq_or_lt
    · obtain ⟨left, op, right, rfl, kind, fitsLeft, above, graded⟩ :=
        fits.2.exists_join same.symm operator
      rw [Level.writings_join, mul_assoc] at hts
      obtain ⟨ls, hl, _, ⟨_, rfl, rs, hr, rfl⟩, rfl⟩ := hts
      simp only [List.length_append, List.length_singleton] at short
      have part : ([], left) ∈ (k.join left op right).parts [] := by
        cases k <;> exact List.mem_cons_self
      have goes : Ends l (([op] ++ rs) ++ rest) := by
        rw [List.append_assoc, List.singleton_append, ends_cons, kind]
        exact Level.not_le_of_lt lt
      refine (ih [] [] left part fitsLeft hl (by omega) goes).trans ?_
      rintro _ ⟨left', j, sameLeft, rounds', rfl⟩
      cases j with
      | zero => omega
      | succ j =>
        refine (Accepts.takeOneOf ((level _).2 kind)).goesOn.trans ?_
        rintro _ ⟨_, rfl, rfl⟩
        refine (h right ⟨next _ above, graded⟩ rs hr (by omega) rest ends).goesOn.imp ?_
        rintro _ ⟨right', sameRight, rfl⟩
        refine ⟨_, j, ?_, ?_, rfl⟩
        · simp only [Expr.SameBut, Level.unnumbered_join] at sameLeft sameRight ⊢
          rw [sameLeft, sameRight]
        · simp only [List.length_append, List.length_singleton]
          omega
    · refine (h e ⟨next _ tight, fits.2⟩ ts hts short rest ends).goesOn.imp ?_
      rintro _ ⟨e', same, rfl⟩
      exact ⟨e', rounds, same, Nat.le_add_right _ _, rfl⟩

theorem accepts_chainFrom {make : Expr → Token → Expr → Expr} {left : Expr} {j : Nat}
    (stops : ∀ t ∈ rest.head?, t.kind ∉ kinds) :
    Accepts (chainFrom kinds make operand left j) [] rest (· = left) := by
  cases j with
  | zero => exact .pure rfl
  | succ j =>
    refine (Accepts.takeNone stops).bind_nil fun op none => ?_
    subst none
    exact .pure rfl

theorem Parses.chain {make : Expr → Token → Expr → Expr} (h : Parses m operand l .expr)
    (joins : make = k.join) (operator : k ∈ Level.joins)
    (level : ∀ kind, kind ∈ kinds ↔ kind.level = k) (lt : k < l) (next : ∀ j, k < j → l ≤ j)
    (room : m ≤ rounds) : Parses m (chain rounds kinds make operand) k .expr := by
  subst joins
  intro e fits ts hts short rest ends
  refine (goesOn_chain h operator level lt next room fits hts short (ends.mono lt.le)).accepts ?_
  rintro _ ⟨e', j, same, -, rfl⟩
  refine (accepts_chainFrom fun t ht among => ends t ht ?_).mono fun _ eq => eq ▸ same
  exact ((level _).1 among).ge

end

/-! ### Productions -/

section

variable {m : Nat} {expr body : Production Expr}

/-- The parameters of a function are read up to the parenthesis that closes them. -/
theorem accepts_parameters {rounds : Nat} {params : List Token}
    (names : ∀ t ∈ params, t.kind = .identifier) (hts : ts ∈ separated (params.map only))
    (room : ts.length < rounds) {closes : Token} (kind : closes.kind = .rightParen) :
    Accepts (listUntil rounds .rightParen (expect .parameter)) ts (closes :: rest)
      (· = params) := by
  have parameter (p : Token) (hp : p ∈ params) :
      AcceptsItem ts.length (expect .parameter) only (fun p a => p = a) p := by
    rintro _ rfl _ rest _
    exact (Accepts.expect (names p hp)).mono fun _ eq => eq.symm
  have starts (p : Token) (hp : p ∈ params) (ts : List Token) (hts : ts ∈ only p) :
      ∃ t us, ts = t :: us ∧ t.kind ≠ .rightParen := ⟨p, [], hts, by simp [names p hp]⟩
  have goes : Ends .expression (closes :: rest) := ends_of_kind kind (by decide)
  refine (accepts_listUntil parameter starts hts le_rfl room kind goes (by decide)).mono
    fun params' same => ?_
  simpa [eq_comm] using same

theorem accepts_functionHeader {rounds : Nat} {params : List Token}
    (names : ∀ t ∈ params, t.kind = .identifier)
    (hts : ts ∈ header params) (room : ts.length ≤ rounds) :
    Accepts (functionHeader rounds) ts rest (· = params) := by
  simp only [header, mul_assoc] at hts
  obtain ⟨_, ⟨opens, kind, rfl⟩, _, ⟨ps, hp, _, ⟨_, ⟨closes, kind', rfl⟩, _,
    ⟨arrow, kind'', rfl⟩, rfl⟩, rfl⟩, rfl⟩ := hts
  simp only [List.length_append, List.length_singleton] at room
  refine (Accepts.expected kind).bind fun _ _ => ?_
  refine (accepts_parameters names hp (by omega) kind').bind fun params' same => ?_
  refine (Accepts.expected kind').bind fun _ _ => ?_
  exact (Accepts.expected kind'').bind_last fun _ _ => .pure same

theorem accepts_functionTail (hb : Parses m body .expression .body) (name : Option Token)
    {params : List Token} {b : Expr} (names : ∀ t ∈ params, t.kind = .identifier)
    (fits : b.Fits .expression) (hts : ts ∈ header params * b.writings .between .body)
    (short : ts.length ≤ m + 1) (ends : Ends .expression rest) :
    Accepts (functionTail (m + 1) body name) ts rest (Expr.SameBut (.function name params b)) := by
  rw [functionTail_eq]
  obtain ⟨hs, hh, bs, hbs, rfl⟩ := hts
  rw [List.length_append] at short
  have some : hs ≠ [] := fun nil => nil_notMem_header params (nil ▸ hh)
  have positive := List.length_pos_iff.2 some
  refine (accepts_functionHeader names hh (by omega)).bind fun params' same => ?_
  subst same
  refine (hb b fits bs hbs (by omega) rest ends).bind_last fun b' same => .pure ?_
  simp only [Expr.SameBut, Expr.unnumbered] at same ⊢
  rw [same]

/-- Arguments and elements are read up to the token that closes them. -/
theorem accepts_bodies (hb : Parses m body .expression .body) {es : List Expr}
    (graded : Expr.AllGraded es) {close : TokenKind}
    (closing : close ∈ noStart)
    (hts : ts ∈ separated (Expr.writingsOf .between es)) (short : ts.length ≤ m) {t : Token}
    (closes : t.kind = close) :
    Accepts (listUntil (m + 1) close body) ts (t :: rest) (List.Forall₂ Expr.SameBut es) := by
  rw [Expr.allGraded_iff] at graded
  rw [Expr.writingsOf_eq_map] at hts
  refine accepts_listUntil (fun e he => hb e (graded e he)) (fun e he ts hts => ?_) hts short
    (Nat.lt_succ_self m) closes ?_ ?_
  · obtain ⟨t, us, rfl, kind⟩ := start_body (graded e he) hts
    exact ⟨t, us, rfl, fun same => kind (same ▸ closing)⟩
  · refine ends_of_kind closes ?_
    revert closing
    cases close <;> decide
  · rintro rfl
    exact absurd closing (by decide)

theorem parses_primary (he : Parses m expr .expression .expr)
    (hb : Parses m body .expression .body) :
    Parses (m + 1) (primary (m + 1) expr body) .primary .expr := by
  intro e ⟨le, graded⟩ ts hts short rest ends
  refine .get fun fresh => ?_
  cases e with
  | literal value =>
    obtain ⟨t, constant, rfl⟩ := hts
    have kind := kind_of_constant constant
    simp only [List.mem_cons, List.not_mem_nil, or_false] at kind
    obtain kind | kind | kind | kind | kind := kind <;>
      simp only [List.cons_append, kind] <;>
      simp only [Token.constant?, kind, Option.some.injEq] at constant <;>
      exact Accepts.skip.bind_last fun _ _ => .pure (by rw [constant]; rfl)
  | «variable» id name =>
    obtain rfl := hts
    have kind : name.kind = .identifier := graded
    simp only [List.cons_append, kind]
    exact Accepts.skip.bind_last fun _ _ => Accepts.newId.bind_last fun _ _ => .pure rfl
  | array elements close =>
    simp only [Expr.writings, mul_assoc] at hts
    obtain ⟨_, ⟨t, kind, rfl⟩, _, ⟨vs, hv, _, rfl, rfl⟩, rfl⟩ := hts
    simp only [List.length_append, List.length_singleton] at short
    simp only [List.cons_append, kind]
    refine Accepts.skip.bind fun _ _ => ?_
    refine (accepts_bodies hb graded.1 (by decide) hv (by omega) graded.2).bind
      fun elements' same => ?_
    refine (Accepts.expect graded.2).bind_last fun _ eq => .pure ?_
    rw [eq, Expr.SameBut, Expr.unnumbered, Expr.unnumbered, Expr.unnumberedOf_eq same]
  | block members =>
    simp only [Expr.writings, mul_assoc] at hts
    obtain ⟨_, ⟨t, kind, rfl⟩, _, ⟨vs, hv, _, ⟨close, closes, rfl⟩, rfl⟩, rfl⟩ := hts
    simp only [List.length_append, List.length_singleton] at short
    simp only [List.cons_append, kind]
    have fit := Expr.allGraded_iff.1 graded
    rw [Expr.writingsOf_eq_map] at hv
    refine Accepts.skip.bind fun _ _ => ?_
    refine (accepts_members (fun e he => hb e (fit e he)) (fun e he ts hts => ?_) hv (by omega)
      (by omega) closes (ends_of_kind closes (by decide)) (by decide)).bind
        fun members' same => ?_
    · obtain ⟨t, us, rfl, kind⟩ := start_body (fit e he) hts
      exact ⟨t, us, rfl, fun same => kind (by rw [same]; decide)⟩
    refine (Accepts.expected closes).bind_last fun _ _ => .pure ?_
    rw [Expr.SameBut, Expr.unnumbered, Expr.unnumbered, Expr.unnumberedOf_eq same]
  | function name params b =>
    cases name with
    | some name => exact absurd le (show ¬Level.primary ≤ .expression by decide)
    | none =>
      simp only [Expr.writings, Place.bare, add_zero, mul_assoc] at hts
      simp only [← mul_assoc (header params)] at hts
      obtain ⟨_, ⟨t, kind, rfl⟩, _,
        ⟨_, ⟨opens, kind', rfl⟩, _, ⟨vs, hv, _, ⟨close, closes, rfl⟩, rfl⟩,
        rfl⟩, rfl⟩ := hts
      simp only [List.length_append, List.length_singleton] at short
      simp only [List.cons_append, kind]
      refine Accepts.skip.bind fun _ _ => (Accepts.expected kind').bind fun _ _ => ?_
      refine (accepts_functionTail hb none graded.2.1 graded.2.2 hv (by omega) ?_).bind
        fun f same => (Accepts.expected closes).bind_last fun _ _ => .pure same
      exact ends_of_kind closes (by decide)
  | group inner =>
    simp only [Expr.writings, mul_assoc] at hts
    obtain ⟨_, ⟨t, kind, rfl⟩, _, ⟨vs, hv, _, ⟨close, closes, rfl⟩, rfl⟩, rfl⟩ := hts
    simp only [List.length_append, List.length_singleton] at short
    simp only [List.cons_append, kind]
    refine Accepts.skip.bind fun _ _ => ?_
    refine (he inner graded vs hv (by omega) _ ?_).bind fun inner' same =>
      (Accepts.expected closes).bind_last fun _ _ => .pure ?_
    · exact ends_of_kind closes (by decide)
    · simp only [Expr.SameBut, Expr.unnumbered] at same ⊢
      rw [same]
  | binary left op right =>
    exact absurd le ((by decide : ∀ k ∈ Level.joins, ¬.primary ≤ k) _ graded.binary_level)
  | logical left op right =>
    exact absurd le ((by decide : ∀ k ∈ Level.joins, ¬.primary ≤ k) _ graded.logical_level)
  | _ => exact absurd le (by simp only [Expr.level]; decide)

/-- Behind calls and indices reading stands in the middle of the loop, with the result in its
hands. -/
theorem goesOn_call (he : Parses m expr .expression .expr) (hb : Parses m body .expression .body)
    {e : Expr} (fits : e.Fits .call) (hts : ts ∈ e.writings .between .expr)
    (short : ts.length ≤ m + 1) (ends : Ends .primary rest) :
    GoesOn (call (m + 1) expr body) ts rest fun after => ∃ e' j, e.SameBut e' ∧
      m + 1 ≤ j + ts.length ∧ after = callsAfter (m + 1) expr body e' j := by
  induction e using Expr.induction_parts generalizing ts rest with
  | step e ih =>
    -- behind the operand the loop has a round left, as its writing is shorter than the whole
    have operand {d : Expr} {ds us : List Token} {Φ : Production Expr → Prop}
        (part : ([], d) ∈ e.parts []) (fits : d.Fits .call) (hd : ds ∈ d.writings .between .expr)
        (short : ds.length ≤ m) (ends : Ends .primary (us ++ rest))
        (next : ∀ d' j, d.SameBut d' → m ≤ j + ds.length →
          GoesOn (callsAfter (m + 1) expr body d' (j + 1)) us rest Φ) :
        GoesOn (call (m + 1) expr body) (ds ++ us) rest Φ := by
      refine (ih [] [] d part fits hd (by omega) ends).trans ?_
      rintro _ ⟨d', j, same, room, rfl⟩
      cases j with
      | zero => omega
      | succ j => exact next d' j same (by omega)
    obtain same | tight := fits.1.eq_or_lt
    · have form : e.HasForm .call := same ▸ fits.2.hasForm
      obtain ⟨callee, args, close, rfl⟩ | ⟨target, i, close, rfl⟩ |
        ⟨target, lower, upper, close, rfl⟩ := form
      · obtain ⟨fitsCallee, fitArgs, closes⟩ := fits.2
        simp only [Expr.writings, mul_assoc] at hts
        obtain ⟨cs, hc, _, ⟨_, ⟨t, kind, rfl⟩, _, ⟨as, ha, _, rfl, rfl⟩, rfl⟩, rfl⟩ := hts
        simp only [List.length_append, List.length_singleton] at short
        refine operand List.mem_cons_self fitsCallee hc (by omega) (ends_of_kind kind (by decide))
          fun callee' j sameCallee room => ?_
        refine .nextKind ?_
        simp only [List.cons_append, List.head?_cons, Option.map_some, kind]
        refine Accepts.skip.bind_goesOn fun _ _ => ?_
        refine (accepts_bodies hb fitArgs (by decide) ha (by omega) closes).bind_goesOn
          fun args' sameArgs => ?_
        refine (Accepts.expect closes).goesOn.imp ?_
        rintro _ ⟨_, rfl, rfl⟩
        refine ⟨_, j, ?_, ?_, rfl⟩
        · simp only [Expr.SameBut, Expr.unnumbered] at sameCallee ⊢
          rw [sameCallee, Expr.unnumberedOf_eq sameArgs]
        · simp only [List.length_append, List.length_cons]
          omega
      · obtain ⟨fitsTarget, fitsIndex, closes⟩ := fits.2
        simp only [Expr.writings, mul_assoc] at hts
        obtain ⟨ds, hd, _, ⟨_, ⟨t, kind, rfl⟩, _, ⟨is, hi, _, rfl, rfl⟩, rfl⟩, rfl⟩ := hts
        simp only [List.length_append, List.length_singleton] at short
        refine operand List.mem_cons_self fitsTarget hd (by omega) (ends_of_kind kind (by decide))
          fun target' j sameTarget room => ?_
        refine .nextKind ?_
        simp only [List.cons_append, List.head?_cons, Option.map_some, kind]
        refine Accepts.skip.bind_goesOn fun _ _ => ?_
        refine (he i fitsIndex is hi (by omega) _ (ends_of_kind closes (by decide))).bind_goesOn
          fun i' sameIndex => ?_
        refine (Accepts.acceptNone (by simp [closes])).bind_goesOn fun colon none => ?_
        subst none
        refine (Accepts.expect closes).goesOn.imp ?_
        rintro _ ⟨_, rfl, rfl⟩
        refine ⟨_, j, ?_, ?_, rfl⟩
        · simp only [Expr.SameBut, Expr.unnumbered] at sameTarget sameIndex ⊢
          rw [sameTarget, sameIndex]
        · simp only [List.length_append, List.length_cons]
          omega
      · obtain ⟨fitsTarget, fitsLower, fitsUpper, closes⟩ := fits.2
        simp only [Expr.writings, mul_assoc] at hts
        obtain ⟨ds, hd, _, ⟨_, ⟨t, kind, rfl⟩, _,
          ⟨ls, hl, _, ⟨_, ⟨c, colon, rfl⟩, _, ⟨us, hu, _, rfl,
          rfl⟩, rfl⟩, rfl⟩, rfl⟩, rfl⟩ := hts
        simp only [List.length_append, List.length_singleton] at short
        refine operand List.mem_cons_self fitsTarget hd (by omega) (ends_of_kind kind (by decide))
          fun target' j sameTarget room => ?_
        refine .nextKind ?_
        simp only [List.cons_append, List.head?_cons, Option.map_some, kind]
        refine Accepts.skip.bind_goesOn fun _ _ => ?_
        refine (he lower fitsLower ls hl (by omega) _ (ends_of_kind colon (by decide))).bind_goesOn
          fun lower' sameLower => ?_
        refine (Accepts.accept colon).bind_goesOn fun more yes => ?_
        subst yes
        refine (he upper fitsUpper us hu (by omega) _ (ends_of_kind closes (by decide))).bind_goesOn
          fun upper' sameUpper => ?_
        refine (Accepts.expect closes).goesOn.imp ?_
        rintro _ ⟨_, rfl, rfl⟩
        refine ⟨_, j, ?_, ?_, rfl⟩
        · simp only [Expr.SameBut, Expr.unnumbered] at sameTarget sameLower sameUpper ⊢
          rw [sameTarget, sameLower, sameUpper]
        · simp only [List.length_append, List.length_cons]
          omega
    · have fits : e.Fits .primary := ⟨Level.primary_le tight, fits.2⟩
      refine (parses_primary he hb e fits ts hts short rest ends).goesOn.imp ?_
      rintro _ ⟨e', same, rfl⟩
      exact ⟨e', m + 1, same, Nat.le_add_right _ _, rfl⟩

theorem parses_call (he : Parses m expr .expression .expr) (hb : Parses m body .expression .body) :
    Parses (m + 1) (call (m + 1) expr body) .call .expr := by
  intro e fits ts hts short rest ends
  refine (goesOn_call he hb fits hts short (ends.mono (by decide))).accepts ?_
  rintro _ ⟨e', j, same, -, rfl⟩
  cases j with
  | zero => exact .pure same
  | succ j =>
    refine .nextKind ?_
    cases rest with
    | nil => exact .pure same
    | cons t rest =>
      rw [ends_cons] at ends
      simp only [List.nil_append, List.head?_cons, Option.map_some]
      split
      · rename_i kind
        rw [Option.some.inj kind] at ends
        exact absurd (by decide) ends
      · rename_i kind
        rw [Option.some.inj kind] at ends
        exact absurd (by decide) ends
      · exact .pure same

/-- Signs and what they apply to are read in as many rounds as there are tokens. -/
theorem accepts_signsThen {operand : Production Expr} (h : Parses m operand .call .expr) {e : Expr}
    (fits : e.Fits .sign) (hts : ts ∈ e.writings .between .expr) (short : ts.length ≤ m) {j : Nat}
    (room : ts.length ≤ j) (ends : Ends .sign rest) :
    Accepts (signsThen operand j) ts rest e.SameBut := by
  induction e using Expr.induction_parts generalizing ts j with
  | step e ih =>
    obtain same | tight := fits.1.eq_or_lt
    · have form : e.HasForm .sign := same ▸ fits.2.hasForm
      obtain ⟨op, operand, rfl⟩ := form
      obtain ⟨_, rfl, os, ho, rfl⟩ := hts
      simp only [List.length_append, List.length_singleton] at short room
      cases j with
      | zero => omega
      | succ j =>
        refine (Accepts.takeOneOf fits.2.1).bind fun _ eq => ?_
        subst eq
        refine (ih [] [] operand List.mem_cons_self fits.2.2 ho (by omega) (by omega)).bind_last
          fun operand' same => .pure ?_
        simp only [Expr.SameBut, Expr.unnumbered] at same ⊢
        rw [same]
    · have fits : e.Fits .call := ⟨Level.call_le tight, fits.2⟩
      have direct := h e fits ts hts short rest (ends.mono (by decide))
      cases j with
      | zero => exact direct
      | succ j =>
        obtain ⟨t, us, rfl, kind⟩ := start_call fits hts
        refine (Accepts.takeNone (by simpa using kind)).bind_nil fun _ eq => ?_
        subst eq
        exact direct

theorem parses_disjunction (he : Parses m expr .expression .expr)
    (hb : Parses m body .expression .body) :
    Parses (m + 1) (disjunction (m + 1) expr body) .disjunction .expr := by
  have unary : Parses (m + 1) (unary (m + 1) expr body) .sign .expr :=
    fun e fits ts hts short rest ends =>
      accepts_signsThen (parses_call he hb) fits hts short short ends
  have factor : Parses (m + 1) (factor (m + 1) expr body) .product .expr :=
    unary.chain rfl (by decide) (fun k => by cases k <;> decide) (by decide)
      (fun j => by cases j <;> decide) le_rfl
  have term : Parses (m + 1) (term (m + 1) expr body) .sum .expr :=
    factor.chain rfl (by decide) (fun k => by cases k <;> decide) (by decide)
      (fun j => by cases j <;> decide) le_rfl
  have comparison : Parses (m + 1) (comparison (m + 1) expr body) .comparison .expr :=
    term.chain rfl (by decide) (fun k => by cases k <;> decide) (by decide)
      (fun j => by cases j <;> decide) le_rfl
  have equality : Parses (m + 1) (equality (m + 1) expr body) .equality .expr :=
    comparison.chain rfl (by decide) (fun k => by cases k <;> decide) (by decide)
      (fun j => by cases j <;> decide) le_rfl
  have conjunction : Parses (m + 1) (conjunction (m + 1) expr body) .conjunction .expr :=
    equality.chain rfl (by decide) (fun k => by cases k <;> decide) (by decide)
      (fun j => by cases j <;> decide) le_rfl
  exact conjunction.chain rfl (by decide) (fun k => by cases k <;> decide) (by decide)
    (fun j => by cases j <;> decide) le_rfl

theorem parses_ternary (he : Parses m expr .expression .expr)
    (hb : Parses m body .expression .body) :
    Parses (m + 1) (ternary (m + 1) expr body) .ternary .expr := by
  intro e fits ts hts short rest ends
  obtain same | tight := fits.1.eq_or_lt
  · have form : e.HasForm .ternary := same ▸ fits.2.hasForm
    obtain ⟨condition, yes, no, op, rfl⟩ := form
    obtain ⟨fitsCondition, kind, fitsYes, fitsNo⟩ := fits.2
    simp only [Expr.writings, mul_assoc] at hts
    obtain ⟨cs, hc, _, ⟨_, rfl, _,
      ⟨ys, hy, _, ⟨_, ⟨colon, kind', rfl⟩, ns, hn, rfl⟩, rfl⟩, rfl⟩, rfl⟩ :=
      hts
    simp only [List.length_append, List.length_singleton] at short
    refine (parses_disjunction he hb condition fitsCondition cs hc (by omega) _ ?_).bind
      fun condition' sameCondition => ?_
    · exact ends_of_kind kind (by decide)
    refine (Accepts.takeOneOf (by simp [kind])).bind fun _ eq => ?_
    subst eq
    refine (hb yes fitsYes ys hy (by omega) _ ?_).bind fun yes' sameYes => ?_
    · exact ends_of_kind kind' (by decide)
    refine (Accepts.expected kind').bind fun _ _ => ?_
    refine (hb no fitsNo ns hn (by omega) rest ends.expression).bind_last fun no' sameNo =>
      .pure ?_
    simp only [Expr.SameBut, Expr.unnumbered] at sameCondition sameYes sameNo ⊢
    rw [sameCondition, sameYes, sameNo]
  · have fits : e.Fits .disjunction := ⟨Level.disjunction_le tight, fits.2⟩
    refine (parses_disjunction he hb e fits ts hts short rest (ends.mono (by decide))).bind_last
      fun e' same => ?_
    refine (Accepts.takeNone fun t ht among => ends t ht ?_).bind_nil fun _ eq => ?_
    · obtain kind : t.kind = .questionMark := by simpa using among
      rw [kind]
      decide
    · subst eq
      exact .pure same

/-! ### Forms with a keyword -/

theorem accepts_declare {name : Token} (kind : name.kind = .identifier)
    (hts : ts ∈ word .leftParen * (only name * word .rightParen)) :
    Accepts (declaration body) ts rest (Expr.SameBut (.declare name)) := by
  obtain ⟨_, ⟨opens, kind', rfl⟩, _, ⟨_, rfl, _, ⟨close, closes, rfl⟩, rfl⟩, rfl⟩ := hts
  refine (Accepts.expected kind').bind fun _ _ => (Accepts.expect kind).bind fun _ eq => ?_
  refine (Accepts.acceptNone (by simp [closes])).bind_nil fun comma none => ?_
  subst none
  exact (Accepts.expected closes).bind_last fun _ _ => .pure (by rw [eq]; rfl)

theorem accepts_declareAs (hb : Parses m body .expression .body) {name : Token} {value : Expr}
    (kind : name.kind = .identifier) (fits : value.Fits .expression)
    (hts : ts ∈ word .leftParen *
      (only name * (word .comma * (value.writings .between .body * word .rightParen))))
    (short : ts.length ≤ m) :
    Accepts (declaration body) ts rest (Expr.SameBut (.declareAs name value)) := by
  obtain ⟨_, ⟨opens, kind', rfl⟩, _, ⟨_, rfl, _, ⟨_, ⟨c, comma, rfl⟩, _, ⟨vs, hv, _,
    ⟨close, closes, rfl⟩, rfl⟩, rfl⟩, rfl⟩, rfl⟩ := hts
  simp only [List.length_append, List.length_singleton] at short
  refine (Accepts.expected kind').bind fun _ _ => (Accepts.expect kind).bind fun _ eq => ?_
  refine (Accepts.accept comma).bind fun more yes => ?_
  subst yes
  refine (hb value fits vs hv (by omega) _ (ends_of_kind closes (by decide))).bind
    fun value' same => ?_
  refine (Accepts.expected closes).bind_last fun _ _ => .pure ?_
  simp only [Expr.SameBut, Expr.unnumbered] at same ⊢
  rw [eq, same]

theorem accepts_assign (hb : Parses m body .expression .body) {id : NodeId} {name : Token}
    {value : Expr} (kind : name.kind = .identifier) (fits : value.Fits .expression)
    (hts : ts ∈ word .leftParen *
      (only name * (word .comma * (value.writings .between .body * word .rightParen))))
    (short : ts.length ≤ m) :
    Accepts (assignment expr body) ts rest (Expr.SameBut (.assign id name value)) := by
  obtain ⟨_, ⟨opens, kind', rfl⟩, _, ⟨_, rfl, _, ⟨_, ⟨c, comma, rfl⟩, _, ⟨vs, hv, _,
    ⟨close, closes, rfl⟩, rfl⟩, rfl⟩, rfl⟩, rfl⟩ := hts
  simp only [List.length_append, List.length_singleton] at short
  refine (Accepts.expected kind').bind fun _ _ => (Accepts.expect kind).bind fun _ eq => ?_
  refine (Accepts.acceptNone (by simp [comma])).bind_nil fun bracket none => ?_
  subst none
  refine (Accepts.expected comma).bind fun _ _ => ?_
  refine (hb value fits vs hv (by omega) _ (ends_of_kind closes (by decide))).bind
    fun value' same => ?_
  refine (Accepts.expected closes).bind_last fun _ _ => Accepts.newId.bind_nil fun _ _ => .pure ?_
  simp only [Expr.SameBut, Expr.unnumbered] at same ⊢
  rw [eq, same]

theorem accepts_assignElement (he : Parses m expr .expression .expr)
    (hb : Parses m body .expression .body) {id : NodeId} {name : Token} {index value : Expr}
    (kind : name.kind = .identifier) (fitsIndex : index.Fits .expression)
    (fits : value.Fits .expression)
    (hts : ts ∈ word .leftParen * (only name * (word .leftBracket * (index.writings .between .expr *
      (word .rightBracket * (word .comma * (value.writings .between .body * word .rightParen)))))))
    (short : ts.length ≤ m) :
    Accepts (assignment expr body) ts rest (Expr.SameBut (.assignElement id name index value)) := by
  obtain ⟨_, ⟨opens, kind', rfl⟩, _, ⟨_, rfl, _, ⟨_, ⟨b, bracket, rfl⟩, _, ⟨is, hi, _,
    ⟨_, ⟨d, bracket', rfl⟩, _,
      ⟨_, ⟨c, comma, rfl⟩, _, ⟨vs, hv, _, ⟨close, closes, rfl⟩, rfl⟩, rfl⟩, rfl⟩,
    rfl⟩, rfl⟩, rfl⟩, rfl⟩ := hts
  simp only [List.length_append, List.length_singleton] at short
  refine (Accepts.expected kind').bind fun _ _ => (Accepts.expect kind).bind fun _ eq => ?_
  refine (Accepts.accept bracket).bind fun more yes => ?_
  subst yes
  refine (he index fitsIndex is hi (by omega) _ (ends_of_kind bracket' (by decide))).bind
    fun index' sameIndex => ?_
  refine (Accepts.expected bracket').bind fun _ _ => (Accepts.expected comma).bind fun _ _ => ?_
  refine (hb value fits vs hv (by omega) _ (ends_of_kind closes (by decide))).bind
    fun value' same => ?_
  refine (Accepts.expected closes).bind_last fun _ _ => Accepts.newId.bind_nil fun _ _ => .pure ?_
  simp only [Expr.SameBut, Expr.unnumbered] at sameIndex same ⊢
  rw [eq, sameIndex, same]

theorem accepts_importing {path : Token} (kind : path.kind = .string)
    (hts : ts ∈ word .leftParen * (only path * word .rightParen)) :
    Accepts importing ts rest (Expr.SameBut (.import path)) := by
  obtain ⟨_, ⟨opens, kind', rfl⟩, _, ⟨_, rfl, _, ⟨close, closes, rfl⟩, rfl⟩, rfl⟩ := hts
  refine (Accepts.expected kind').bind fun _ _ => (Accepts.expect kind).bind fun _ eq => ?_
  exact (Accepts.expected closes).bind_last fun _ _ => .pure (by rw [eq]; rfl)

theorem accepts_loop (hb : Parses m body .expression .body) {keyword : Token} {b : Expr}
    (fits : b.Fits .expression)
    (hts : ts ∈ word .leftParen * (b.writings .between .body * word .rightParen))
    (short : ts.length ≤ m) :
    Accepts (looping body keyword) ts rest (Expr.SameBut (.loop keyword b)) := by
  obtain ⟨_, ⟨opens, kind, rfl⟩, _, ⟨bs, hbs, _, ⟨close, closes, rfl⟩, rfl⟩, rfl⟩ := hts
  simp only [List.length_append, List.length_singleton] at short
  refine (Accepts.expected kind).bind fun _ _ => ?_
  refine (hb b fits bs hbs (by omega) _ (ends_of_kind closes (by decide))).bind fun b' same => ?_
  refine (Accepts.acceptNone (by simp [closes])).bind_nil fun comma none => ?_
  subst none
  refine (Accepts.expected closes).bind_last fun _ _ => .pure ?_
  simp only [Expr.SameBut, Expr.unnumbered] at same ⊢
  rw [same]

theorem accepts_loopWhile (hb : Parses m body .expression .body) {keyword : Token}
    {condition b : Expr} (fitsCondition : condition.Fits .expression) (fits : b.Fits .expression)
    (hts : ts ∈ word .leftParen * (condition.writings .between .body * (word .comma *
      (b.writings .between .body * word .rightParen))))
    (short : ts.length ≤ m) :
    Accepts (looping body keyword) ts rest (Expr.SameBut (.loopWhile keyword condition b)) := by
  obtain ⟨_, ⟨opens, kind, rfl⟩, _, ⟨cs, hc, _, ⟨_, ⟨c, comma, rfl⟩, _, ⟨bs, hbs, _,
    ⟨close, closes, rfl⟩, rfl⟩, rfl⟩, rfl⟩, rfl⟩ := hts
  simp only [List.length_append, List.length_singleton] at short
  refine (Accepts.expected kind).bind fun _ _ => ?_
  refine (hb condition fitsCondition cs hc (by omega) _ (ends_of_kind comma (by decide))).bind
    fun condition' sameCondition => ?_
  refine (Accepts.accept comma).bind fun more yes => ?_
  subst yes
  refine (hb b fits bs hbs (by omega) _ (ends_of_kind closes (by decide))).bind fun b' same => ?_
  refine (Accepts.expected closes).bind_last fun _ _ => .pure ?_
  simp only [Expr.SameBut, Expr.unnumbered] at sameCondition same ⊢
  rw [sameCondition, same]

theorem accepts_namedFunction (hb : Parses m body .expression .body) {name : Token}
    {params : List Token} {b : Expr} (kind : name.kind = .identifier)
    (names : ∀ t ∈ params, t.kind = .identifier) (fits : b.Fits .expression)
    (hts : ts ∈ word .leftParen * (only name * (word .comma *
      ((header params * b.writings .between .body) * word .rightParen))))
    (short : ts.length ≤ m) :
    Accepts (namedFunction (m + 1) body) ts rest
      (Expr.SameBut (.function (some name) params b)) := by
  obtain ⟨_, ⟨opens, kind', rfl⟩, _, ⟨_, rfl, _, ⟨_, ⟨c, comma, rfl⟩, _, ⟨fs, hf, _,
    ⟨close, closes, rfl⟩, rfl⟩, rfl⟩, rfl⟩, rfl⟩ := hts
  simp only [List.length_append, List.length_singleton] at short
  refine (Accepts.expected kind').bind fun _ _ => (Accepts.expect kind).bind fun _ eq => ?_
  subst eq
  refine (Accepts.expected comma).bind fun _ _ => ?_
  refine (accepts_functionTail hb (some _) names fits hf (by omega)
    (ends_of_kind closes (by decide))).bind fun f same => ?_
  exact (Accepts.expected closes).bind_last fun _ _ => .pure same

/-! ### Cases -/

/-- The condition of a case is read up to the arrow behind it. -/
theorem accepts_caseCondition {value : Production Expr} (h : Parses m value .ternary .expr)
    {e : Expr} (fits : e.Fits .pattern) (hts : ts ∈ e.writings .between .expr)
    (short : ts.length ≤ m) {j : Nat} (room : ts.length ≤ j)
    {t : Token} (kind : t.kind = .fatArrow) :
    Accepts (caseCondition value j) ts (t :: rest) e.SameBut := by
  induction e using Expr.induction_parts generalizing ts j with
  | step e ih =>
    have positive : ts ≠ [] := fun nil => e.nil_notMem_writings _ _ (nil ▸ hts)
    replace positive := List.length_pos_iff.2 positive
    cases j with
    | zero => omega
    | succ j =>
      obtain same | tight := fits.1.eq_or_lt
      · have form : e.HasForm .pattern := same ▸ fits.2.hasForm
        obtain ⟨wildcard, rfl⟩ | ⟨left, pipe, right, rfl⟩ := form
        · obtain rfl := hts
          refine (Accepts.takeOneOf ?_).bind_last fun _ eq => ?_
          · simp [show wildcard.kind = .underscore from fits.2]
          · subst eq
            exact .pure rfl
        · obtain ⟨fitsLeft, kind', fitsRight⟩ := fits.2
          simp only [Expr.writings, mul_assoc] at hts
          obtain ⟨ls, hl, _, ⟨_, rfl, rs, hr, rfl⟩, rfl⟩ := hts
          simp only [List.length_append, List.length_singleton] at short room
          have goes : Ends .ternary (([pipe] ++ rs) ++ t :: rest) :=
            ends_of_kind kind' (by decide)
          have direct := h left fitsLeft ls hl (by omega) _ goes
          obtain ⟨u, us, rfl, first⟩ := start (Expr.Fits.mono fitsLeft (by decide)) hl
          have other : u.kind ≠ .underscore := fun eq => first (by rw [eq]; decide)
          refine (Accepts.takeNone (by simpa using other)).bind_nil fun _ eq => ?_
          subst eq
          refine direct.bind fun left' sameLeft => ?_
          refine (Accepts.takeOneOf (by simp [kind'])).bind fun _ eq => ?_
          subst eq
          refine (ih [] _ right (List.mem_cons_of_mem _ List.mem_cons_self) fitsRight hr (by omega)
            (by omega)).bind_last fun right' sameRight => .pure ?_
          simp only [Expr.SameBut, Expr.unnumbered] at sameLeft sameRight ⊢
          rw [sameLeft, sameRight]
      · have fits : e.Fits .ternary := ⟨Level.ternary_le (.inl tight), fits.2⟩
        have goes : Ends .ternary (t :: rest) := ends_of_kind kind (by decide)
        have direct := h e fits ts hts short _ goes
        obtain ⟨u, us, rfl, first⟩ := start (fits.mono (by decide)) hts
        have other : u.kind ≠ .underscore := fun eq => first (by rw [eq]; decide)
        refine (Accepts.takeNone (by simpa using other)).bind_nil fun _ eq => ?_
        subst eq
        refine direct.bind_last fun e' same => ?_
        refine (Accepts.takeNone (by simp [kind])).bind_nil fun _ eq => ?_
        subst eq
        exact .pure same

theorem acceptsItem_matchCase (he : Parses m expr .expression .expr)
    (hb : Parses m body .expression .body) {c : Case} (fits : c.Fits) :
    AcceptsItem m (matchCase (m + 1) expr body) (fun c => c.writings .between) Case.SameBut c := by
  obtain ⟨arrow, condition, b⟩ := c
  obtain ⟨kind, fitsCondition, fitsBody⟩ := fits
  intro ts hts short rest ends
  simp only [Case.writings, Case.condition, Case.arrow, Case.body, mul_assoc] at hts
  obtain ⟨cs, hc, _, ⟨_, rfl, bs, hbs, rfl⟩, rfl⟩ := hts
  simp only [List.length_append, List.length_singleton] at short
  refine (accepts_caseCondition (parses_ternary he hb) fitsCondition hc
    (by omega) (by omega) kind).bind
    fun condition' sameCondition => ?_
  refine (Accepts.expect kind).bind fun _ eq => ?_
  refine (hb b fitsBody bs hbs (by omega) rest ends).bind_last fun b' sameBody => .pure ?_
  exact ⟨eq, sameCondition, sameBody⟩

theorem accepts_matching (he : Parses m expr .expression .expr)
    (hb : Parses m body .expression .body) {keyword : Token} {scrutinee : Expr} {cases : List Case}
    (fits : scrutinee.Fits .ternary) (graded : Case.AllGraded cases)
    (hts : ts ∈ scrutinee.writings .between .expr * (word .leftBrace *
      (Commas.between.lay (Case.writingsOf .between cases) * word .rightBrace)))
    (short : ts.length ≤ m) :
    Accepts (matching (m + 1) expr body keyword) ts rest
      (Expr.SameBut (.match keyword scrutinee cases)) := by
  obtain ⟨ss, hs, _, ⟨_, ⟨opens, kind, rfl⟩, _,
    ⟨cs, hc, _, ⟨close, closes, rfl⟩, rfl⟩, rfl⟩, rfl⟩ := hts
  simp only [List.length_append, List.length_singleton] at short
  have fit := Case.allGraded_iff.1 graded
  rw [Case.writingsOf_eq_map] at hc
  have goes : Ends .ternary (([opens] ++ (cs ++ [close])) ++ rest) :=
    ends_of_kind kind (by decide)
  refine (parses_ternary he hb scrutinee fits ss hs (by omega) _ goes).bind
    fun scrutinee' sameScrutinee => ?_
  refine (Accepts.expected kind).bind fun _ _ => ?_
  refine (accepts_members (fun c hc => acceptsItem_matchCase he hb (fit c hc))
    (fun c hc ts hts => ?_) hc (by omega) (by omega) closes (ends_of_kind closes (by decide))
    (by decide)).bind fun cases' same => ?_
  · obtain ⟨t, us, rfl, first⟩ := start_case (fit c hc) hts
    exact ⟨t, us, rfl, first⟩
  · refine (Accepts.expected closes).bind_last fun _ _ => .pure ?_
    simp only [Expr.SameBut, Expr.unnumbered] at sameScrutinee ⊢
    rw [sameScrutinee, Case.unnumberedOf_eq same]

theorem parses_expression (he : Parses m expr .expression .expr)
    (hb : Parses m body .expression .body) :
    Parses (m + 1) (expression (m + 1) expr body) .expression .expr := by
  intro e fits ts hts short rest ends
  obtain ⟨level, graded⟩ | tight := keyword_or_fits fits
  · refine .get fun fresh => ?_
    cases e with
    | declare name =>
      simp only [Expr.writings, mul_assoc] at hts
      obtain ⟨_, ⟨t, kind, rfl⟩, us, hu, rfl⟩ := hts
      simp only [List.cons_append, kind]
      exact Accepts.skip.bind fun _ _ => accepts_declare graded hu
    | declareAs name value =>
      simp only [Expr.writings, mul_assoc] at hts
      obtain ⟨_, ⟨t, kind, rfl⟩, us, hu, rfl⟩ := hts
      simp only [List.length_append, List.length_singleton] at short
      simp only [List.cons_append, kind]
      exact Accepts.skip.bind fun _ _ => accepts_declareAs hb graded.1 graded.2 hu (by omega)
    | assign id name value =>
      simp only [Expr.writings, mul_assoc] at hts
      obtain ⟨_, ⟨t, kind, rfl⟩, us, hu, rfl⟩ := hts
      simp only [List.length_append, List.length_singleton] at short
      simp only [List.cons_append, kind]
      exact Accepts.skip.bind fun _ _ => accepts_assign hb graded.1 graded.2 hu (by omega)
    | assignElement id name index value =>
      simp only [Expr.writings, mul_assoc] at hts
      obtain ⟨_, ⟨t, kind, rfl⟩, us, hu, rfl⟩ := hts
      simp only [List.length_append, List.length_singleton] at short
      simp only [List.cons_append, kind]
      exact Accepts.skip.bind fun _ _ =>
        accepts_assignElement he hb graded.1 graded.2.1 graded.2.2 hu (by omega)
    | «import» path =>
      simp only [Expr.writings, mul_assoc] at hts
      obtain ⟨_, ⟨t, kind, rfl⟩, us, hu, rfl⟩ := hts
      simp only [List.cons_append, kind]
      exact Accepts.skip.bind fun _ _ => accepts_importing graded hu
    | loop keyword b =>
      simp only [Expr.writings, mul_assoc] at hts
      obtain ⟨_, rfl, us, hu, rfl⟩ := hts
      simp only [List.length_append, List.length_singleton] at short
      simp only [List.cons_append, graded.1]
      exact Accepts.skip.bind fun _ _ => accepts_loop hb graded.2 hu (by omega)
    | loopWhile keyword condition b =>
      simp only [Expr.writings, mul_assoc] at hts
      obtain ⟨_, rfl, us, hu, rfl⟩ := hts
      simp only [List.length_append, List.length_singleton] at short
      simp only [List.cons_append, graded.1]
      exact Accepts.skip.bind fun _ _ => accepts_loopWhile hb graded.2.1 graded.2.2 hu (by omega)
    | «match» keyword scrutinee cases =>
      simp only [Expr.writings, mul_assoc] at hts
      obtain ⟨_, rfl, us, hu, rfl⟩ := hts
      simp only [List.length_append, List.length_singleton] at short
      simp only [List.cons_append, graded.1]
      exact Accepts.skip.bind fun _ _ => accepts_matching he hb graded.2.1 graded.2.2 hu (by omega)
    | «break» keyword =>
      obtain rfl := hts
      simp only [List.cons_append, show keyword.kind = .break from graded]
      exact Accepts.skip.bind_last fun _ _ => .pure rfl
    | function name params b =>
      cases name with
      | none => cases level
      | some name =>
        simp only [Expr.writings, mul_assoc] at hts
        simp only [← mul_assoc (header params)] at hts
        obtain ⟨_, ⟨t, kind, rfl⟩, us, hu, rfl⟩ := hts
        have named : name.kind = .identifier := graded.1 name rfl
        have second : (us ++ rest)[1]? = some name := by
          obtain ⟨_, ⟨opens, -, rfl⟩, _, ⟨_, rfl, vs, -, rfl⟩, rfl⟩ := hu
          rfl
        simp only [List.length_append, List.length_singleton] at short
        simp only [List.cons_append, List.nil_append, kind, second, named,
          Option.any_some, beq_self_eq_true, if_true]
        exact Accepts.skip.bind fun _ _ =>
          accepts_namedFunction hb named graded.2.1 graded.2.2 hu (by omega)
    | binary left op right => exact absurd (level ▸ graded.binary_level) (by decide)
    | logical left op right => exact absurd (level ▸ graded.logical_level) (by decide)
    | _ => cases level
  · have direct := parses_ternary he hb e tight ts hts short rest (ends.mono (by decide))
    obtain ⟨t, us, rfl, first, anonymous⟩ := start_ternary tight hts
    refine .get fun fresh => ?_
    simp only [List.cons_append]
    split <;> rename_i kind
    · obtain ⟨u, v, vs, rfl, opens⟩ := anonymous kind
      simpa [opens] using direct
    · simp [kind] at first
    · simp [kind] at first
    · simp [kind] at first
    · simp [kind] at first
    · simp [kind] at first
    · simp [kind] at first
    · exact direct

theorem parses_functionOrExpression (he : Parses m expr .expression .expr)
    (hb : Parses m body .expression .body) :
    Parses (m + 1) (functionOrExpression (m + 1) expr body) .expression .body := by
  intro e fits ts hts short rest ends
  refine .get fun fresh => ?_
  obtain hts | ⟨params, b, rfl, bare⟩ := mem_writings_body hts
  · have noArrow : arrowAhead (ts ++ rest) = false := by
      refine arrowAhead_writings fits hts fun t ht arrow => ends t ht ?_
      rw [arrow]
      decide
    simp only [noArrow, Bool.false_eq_true, if_false]
    exact parses_expression he hb e fits ts hts short rest ends
  · have arrow : arrowAhead (ts ++ rest) = true := by
      obtain ⟨hs, hh, bs, -, rfl⟩ := bare
      rw [List.append_assoc]
      exact arrowAhead_header fits.2.2.1 hh _
    simp only [arrow, if_true]
    exact accepts_functionTail hb none fits.2.2.1 fits.2.2.2 bare short ends

end

/-- What stands at a place is read, from any of its writings. -/
theorem parses_read (m : Nat) (p : Place) : Parses m (read m p) .expression p := by
  induction m generalizing p with
  | zero =>
    intro e fits ts hts short
    obtain rfl : ts = [] := List.length_eq_zero_iff.1 (Nat.le_zero.1 short)
    exact absurd hts (e.nil_notMem_writings _ _)
  | succ m ih =>
    cases p with
    | expr => exact parses_expression (ih .expr) (ih .body)
    | body => exact parses_functionOrExpression (ih .expr) (ih .body)

end Grammar

/-! ### Trees can be written -/

namespace Grammar

theorem exists_mem_mul {P Q : Language Token} :
    (∃ ts, ts ∈ P * Q) ↔ (∃ ts, ts ∈ P) ∧ ∃ ts, ts ∈ Q := by
  constructor
  · rintro ⟨_, ts, ht, us, hu, -⟩
    exact ⟨⟨ts, ht⟩, us, hu⟩
  · rintro ⟨⟨ts, ht⟩, us, hu⟩
    exact ⟨_, Language.append_mem_mul ht hu⟩

theorem exists_mem_word (kind : TokenKind) : ∃ ts, ts ∈ word kind :=
  ⟨_, ⟨kind, "", none, ⟨1, 1⟩⟩, rfl, rfl⟩

theorem exists_mem_only (t : Token) : ∃ ts, ts ∈ only t := ⟨_, rfl⟩

theorem exists_mem_separated {ls : List (Language Token)} (h : ∀ l ∈ ls, ∃ ts, ts ∈ l) :
    ∃ ts, ts ∈ separated ls := by
  induction ls with
  | nil => exact ⟨[], rfl⟩
  | cons l ls ih =>
    obtain ⟨first, rest⟩ := List.forall_mem_cons.1 h
    cases ls with
    | nil => exact first
    | cons m ls =>
      exact exists_mem_mul.2 ⟨exists_mem_mul.2 ⟨first, exists_mem_word .comma⟩, ih rest⟩

theorem exists_mem_lay (c : Commas) {ls : List (Language Token)} (h : ∀ l ∈ ls, ∃ ts, ts ∈ l) :
    ∃ ts, ts ∈ c.lay ls := by
  cases c with
  | between => exact exists_mem_separated h
  | optional =>
    induction ls with
    | nil => exact ⟨[], rfl⟩
    | cons l ls ih =>
      obtain ⟨first, rest⟩ := List.forall_mem_cons.1 h
      have bare : ∃ ts, ts ∈ 1 + word .comma := ⟨[], .inl rfl⟩
      exact exists_mem_mul.2 ⟨exists_mem_mul.2 ⟨first, bare⟩, ih rest⟩

theorem exists_mem_header (params : List Token) : ∃ ts, ts ∈ header params := by
  simp only [header, exists_mem_mul, exists_mem_word, and_true, true_and]
  exact exists_mem_separated fun l hl => by
    obtain ⟨t, -, rfl⟩ := List.mem_map.1 hl
    exact exists_mem_only t

end Grammar

open Grammar

/-- Every tree can be written. -/
theorem Expr.exists_writing (c : Commas) (e : Expr) (p : Grammar.Place) :
    ∃ ts, ts ∈ e.writings c p := by
  induction e using Expr.induction_parts generalizing p with
  | step e ih =>
    have bodies {es : List Expr} (h : ∀ e ∈ es, ∀ p, ∃ ts, ts ∈ e.writings c p) :
        ∀ l ∈ Expr.writingsOf c es, ∃ ts, ts ∈ l := by
      simpa [Expr.writingsOf_eq_map] using fun e he => h e he .body
    cases e with
    | literal value => exact ⟨_, ⟨.number, "", some value, ⟨1, 1⟩⟩, rfl, rfl⟩
    | «variable» id name => exact exists_mem_only name
    | «break» keyword => exact exists_mem_only keyword
    | anyPattern wildcard => exact exists_mem_only wildcard
    | array elements close =>
      simp only [Expr.writings, exists_mem_mul, exists_mem_word, exists_mem_only,
        and_true, true_and]
      refine exists_mem_separated (bodies fun e he p => ?_)
      obtain ⟨Δ, part⟩ := Expr.exists_mem_inTurn he
      exact ih [] Δ e part p
    | block members =>
      simp only [Expr.writings, exists_mem_mul, exists_mem_word, and_true, true_and]
      refine exists_mem_lay c (bodies fun e he p => ?_)
      obtain ⟨Δ, part⟩ := Expr.exists_mem_inTurn he
      exact ih [] Δ e part p
    | call callee args close =>
      simp only [Expr.writings, exists_mem_mul, exists_mem_word, exists_mem_only, and_true]
      refine ⟨ih [] [] callee List.mem_cons_self .expr,
        exists_mem_separated (bodies fun e he p => ?_)⟩
      obtain ⟨Δ, part⟩ := Expr.exists_mem_inTurn he
      exact ih [] Δ e (List.mem_cons_of_mem _ part) p
    | «match» keyword scrutinee cases =>
      simp only [Expr.writings, exists_mem_mul, exists_mem_word, exists_mem_only,
        and_true, true_and]
      refine ⟨ih [] [] scrutinee List.mem_cons_self .expr, exists_mem_lay c ?_⟩
      simp only [Case.writingsOf_eq_map, List.forall_mem_map]
      intro a ha
      obtain ⟨Δ, part⟩ := Case.exists_mem_inTurn ha (.inl rfl)
      obtain ⟨Θ, part'⟩ := Case.exists_mem_inTurn ha (.inr rfl)
      exact exists_mem_mul.2 ⟨exists_mem_mul.2 ⟨ih [] Δ _ (List.mem_cons_of_mem _ part) .expr,
        exists_mem_only _⟩, ih [] Θ _ (List.mem_cons_of_mem _ part') .body⟩
    | function name params b =>
      have tail := ih [] _ b List.mem_cons_self .body
      cases name with
      | some name =>
        simpa only [Expr.writings, exists_mem_mul, exists_mem_word, exists_mem_only,
          exists_mem_header, and_true, true_and] using tail
      | none =>
        obtain ⟨ts, h⟩ : ∃ ts, ts ∈ word .defun * word .leftParen *
            (header params * b.writings c .body) * word .rightParen := by
          simpa only [exists_mem_mul, exists_mem_word, exists_mem_header,
            and_true, true_and] using tail
        exact ⟨ts, .inl h⟩
    | «import» | declare =>
      simp only [Expr.writings, exists_mem_mul, exists_mem_word, exists_mem_only, and_true]
    | assign | declareAs | group | unary | loop =>
      simp only [Expr.writings, exists_mem_mul, exists_mem_word, exists_mem_only,
        and_true, true_and]
      exact ih [] _ _ List.mem_cons_self _
    | assignElement | binary | logical | orPattern | index | loopWhile =>
      simp only [Expr.writings, exists_mem_mul, exists_mem_word, exists_mem_only,
        and_true, true_and]
      exact ⟨ih [] _ _ List.mem_cons_self _,
        ih [] _ _ (List.mem_cons_of_mem _ List.mem_cons_self) _⟩
    | slice | ternary =>
      simp only [Expr.writings, exists_mem_mul, exists_mem_word, exists_mem_only, and_true]
      exact ⟨⟨ih [] _ _ List.mem_cons_self _,
        ih [] _ _ (List.mem_cons_of_mem _ List.mem_cons_self) _⟩,
        ih [] _ _ (List.mem_cons_of_mem _ (List.mem_cons_of_mem _ List.mem_cons_self)) _⟩

/-! ### Programs -/

namespace Parse

theorem ofRest_nil (all : List Token) (depth n fresh : Nat) :
    ofRest all depth n ⟨[], fresh⟩ = ⟨[], [], fresh⟩ := by
  cases n <;> rfl

/-- A tree of the grammar can be written with commas between members and between cases, and each
such writing is read as that one tree, up to the numbers of uses, without a fault. -/
theorem ofTokens_complete {e : Expr} (h : e.Fits .expression) :
    (∃ ts, ts ∈ e.writings .between .expr) ∧
      ∀ ts ∈ e.writings .between .expr, ∀ fresh, ∃ e', (ofTokens fresh ts).exprs = [e'] ∧
        (ofTokens fresh ts).faults = [] ∧ e'.unnumbered = e.unnumbered := by
  refine ⟨e.exists_writing .between .expr, fun ts hts fresh => ?_⟩
  obtain ⟨e', fresh', ended, same⟩ :=
    parses_read (ts.length + 1) .expr e h ts hts (Nat.le_succ _) [] (ends_nil _) fresh
  rw [List.append_nil] at ended
  have some : ts ≠ [] := fun nil => e.nil_notMem_writings .between .expr (nil ▸ hts)
  obtain ⟨t, us, rfl⟩ := List.exists_cons_of_ne_nil some
  have whole : ofTokens fresh (t :: us) = ⟨[e'], [], fresh'⟩ := by
    simp only [ofTokens, List.length_cons, ofRest]
    rw [List.length_cons] at ended
    simp only [ended, ofRest_nil]
  rw [whole]
  exact ⟨e', rfl, rfl, same⟩

/-- A function without a keyword before the colon of a conditional, and a slice behind it. -/
theorem ofTokens_complete_of_conditional :
    let name (text : String) : Token := ⟨.identifier, text, none, ⟨1, 1⟩⟩
    let x : Expr := .variable ⟨0⟩ (name "x")
    let e : Expr := .ternary x (.function none [name "x"] x)
      (.slice x x x ⟨.rightBracket, "]", none, ⟨1, 1⟩⟩) ⟨.questionMark, "?", none, ⟨1, 1⟩⟩
    e.Fits .expression ∧ (∃ ts, ts ∈ e.writings .between .expr) ∧
      ∀ ts ∈ e.writings .between .expr, ∀ fresh, ∃ e', (ofTokens fresh ts).exprs = [e'] ∧
        (ofTokens fresh ts).faults = [] ∧ e'.unnumbered = e.unnumbered := by
  intro name x e
  have fits : e.Fits .expression := by
    refine ⟨by decide, ⟨by decide, rfl⟩, rfl, ⟨by decide, by simp, ?_, by decide, rfl⟩, by decide,
      ⟨by decide, rfl⟩, ⟨by decide, rfl⟩, ⟨by decide, rfl⟩, rfl⟩
    simp [name]
  exact ⟨fits, ofTokens_complete fits⟩

end Parse

end FoxScript
