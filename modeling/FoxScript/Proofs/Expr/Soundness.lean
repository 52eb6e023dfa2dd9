import FoxScript.Proofs.Expr.Header

/-!
# Reading is sound

When a program is read without a fault, the trees obey the levels of the grammar, and the tokens are
a writing of the trees, one after another.

A production is told by what it takes: `Takes n P ts act φ Q` says that behind tokens that `P`
describes, with `ts` still to come, `act` gives something with the property `φ`, and that the tokens
it has left behind by then are described by `Q`.

## Main statements

* `Grammar.takes_read`: reading at a place gives a tree of the grammar and takes a writing of it.
* `Parse.ofTokens_sound`: so it is for a program.
-/
namespace FoxScript

namespace Grammar

variable {α β : Type} {n : Nat} {P : Language Token} {ts : List Token} {act : Production α}
  {φ : α → Prop} {Q : α → Language Token}

/-- Behind tokens of `P`, in front of `ts` and with at most `n` tokens in all, what `act` gives is
`φ` and leaves tokens of `Q` behind. -/
def Takes (n : Nat) (P : Language Token) (ts : List Token) (act : Production α) (φ : α → Prop)
    (Q : α → Language Token) : Prop :=
  ∀ pre ∈ P, (pre ++ ts).length ≤ n → ∀ fresh a t, act ⟨ts, fresh⟩ = .ok a t →
    φ a ∧ ∃ pre' ∈ Q a, pre ++ ts = pre' ++ t.rest

namespace Takes

theorem pure {a : α} (h : φ a) (le : P ≤ Q a) : Takes n P ts (pure a) φ Q := by
  intro pre hp _ fresh b t ended
  cases ended
  exact ⟨h, pre, le hp, rfl⟩

theorem throw (miss : Miss) : Takes n P ts (throw miss : Production α) φ Q := by
  intro pre _ _ fresh a t ended
  cases ended

theorem bind {next : α → Production β} {ψ : β → Prop} {R : β → Language Token}
    (h : Takes n P ts act φ Q) (hn : ∀ a, φ a → ∀ rest, Takes n (Q a) rest (next a) ψ R) :
    Takes n P ts (act >>= next) ψ R := by
  intro pre hp le fresh b u ended
  simp only [Bind.bind, EStateM.bind] at ended
  cases ha : act ⟨ts, fresh⟩ with
  | error e t => simp [ha] at ended
  | ok a t =>
    obtain ⟨ok, pre', hp', same⟩ := h pre hp le fresh a t ha
    obtain ⟨rest, fresh'⟩ := t
    rw [ha] at ended
    rw [same] at le ⊢
    exact hn a ok rest pre' hp' le fresh' b u ended

theorem mono {Q' : α → Language Token} (h : Takes n P ts act φ Q) (le : ∀ a, φ a → Q a ≤ Q' a) :
    Takes n P ts act φ Q' := by
  intro pre hp short fresh a t ended
  obtain ⟨ok, pre', hp', same⟩ := h pre hp short fresh a t ended
  exact ⟨ok, pre', le a ok hp', same⟩

/-- What `act` takes, it takes behind any other tokens. A token behind which reading starts makes
room for one level of nesting. -/
theorem frame {L : α → Language Token} (h : Takes (n - 1) 1 ts act φ L) (some : [] ∉ P) :
    Takes n P ts act φ fun a => P * L a := by
  intro pre hp le fresh a t ended
  have positive : 0 < pre.length := List.length_pos_iff.2 fun nil => some (nil ▸ hp)
  rw [List.length_append] at le
  obtain ⟨ok, taken, ht, same⟩ := h [] rfl (by simp; omega) fresh a t ended
  refine ⟨ok, pre ++ taken, Language.append_mem_mul hp ht, ?_⟩
  rw [List.nil_append] at same
  rw [same, List.append_assoc]

/-! ### Looking at the tokens that are left -/

theorem get {next : Cursor → Production β} {ψ : β → Prop} {R : β → Language Token}
    (h : ∀ fresh, Takes n P ts (next ⟨ts, fresh⟩) ψ R) : Takes n P ts (get >>= next) ψ R :=
  fun pre hp le fresh => h fresh pre hp le fresh

theorem nextKind {next : Option TokenKind → Production β} {ψ : β → Prop} {R : β → Language Token}
    (h : Takes n P ts (next (ts.head?.map Token.kind)) ψ R) :
    Takes n P ts (nextKind? >>= next) ψ R :=
  h

theorem skip {t : Token} : Takes n P (t :: ts) skip (fun _ => True) fun _ => P * only t := by
  intro pre hp _ fresh a s ended
  cases ended
  exact ⟨trivial, pre ++ [t], Language.append_mem_mul hp rfl, by simp⟩

theorem skipWord {t : Token} {kind : TokenKind} (h : t.kind = kind) :
    Takes n P (t :: ts) Grammar.skip (fun _ => True) fun _ => P * word kind :=
  skip.mono fun _ _ => mul_le_mul_right (fun _ hu => ⟨t, h, hu⟩) P

theorem newId : Takes n P ts newId (fun _ => True) fun _ => P := by
  intro pre hp _ fresh a t ended
  cases ended
  exact ⟨trivial, pre, hp, rfl⟩

/-! ### Single tokens -/

theorem takeOneOf (kinds : List TokenKind) :
    Takes n P ts (takeOneOf? kinds) (fun a => ∀ t ∈ a, t.kind ∈ kinds)
      fun a => a.elim P fun t => P * only t := by
  intro pre hp _ fresh a s ended
  cases ts with
  | nil =>
    cases ended
    exact ⟨by simp, pre, hp, rfl⟩
  | cons t ts =>
    rw [takeOneOf?_cons] at ended
    split at ended
    · rename_i among
      cases ended
      exact ⟨by simpa using among, pre ++ [t], Language.append_mem_mul hp rfl, by simp⟩
    · cases ended
      exact ⟨by simp, pre, hp, rfl⟩

theorem accept (kind : TokenKind) :
    Takes n P ts (accept kind) (fun _ => True)
      fun b => if b then P * word kind else P := by
  refine (takeOneOf [kind]).bind fun a ok rest => .pure trivial ?_
  cases a with
  | none => exact le_rfl
  | some t => exact mul_le_mul_right (fun us h => ⟨t, by simpa using ok t rfl, h⟩) P

theorem expect (e : Expectation) :
    Takes n P ts (expect e) (fun t => t.kind = e.kind) fun t => P * only t := by
  refine (takeOneOf [e.kind]).bind fun a ok rest => ?_
  cases a with
  | none => exact .throw _
  | some t => exact .pure (by simpa using ok t rfl) le_rfl

theorem discard (h : Takes n P ts act φ Q) {R : Language Token} (le : ∀ a, φ a → Q a ≤ R) :
    Takes n P ts (discard act) (fun _ => True) fun _ => R := by
  intro pre hp short fresh b t ended
  simp only [Functor.discard, Functor.mapConst, EStateM.map, Function.comp] at ended
  cases ha : act ⟨ts, fresh⟩ with
  | error e u => simp [ha] at ended
  | ok a u =>
    obtain ⟨ok, pre', hp', same⟩ := h pre hp short fresh a u ha
    rw [ha] at ended
    cases ended
    exact ⟨trivial, pre', le a ok hp', same⟩

theorem expected (e : Expectation) :
    Takes n P ts (Functor.discard (Grammar.expect e)) (fun _ => True) fun _ => P * word e.kind :=
  (expect e).discard fun t ok => mul_le_mul_right (fun _ h => ⟨t, ok, h⟩) P

end Takes

/-! ### Lists -/

section

variable {item : Production α} {L : α → Language Token}

namespace Takes

theorem sepByComma (h : ∀ P ts, [] ∉ P → Takes n P ts item φ fun a => P * L a) (some : [] ∉ P)
    (j : Nat) (room : ∀ pre ∈ P, n < j + pre.length) :
    Takes n P ts (sepByComma item j) (fun as => as ≠ [] ∧ ∀ a ∈ as, φ a)
      fun as => P * separated (as.map L) := by
  induction j generalizing P ts with
  | zero =>
    intro pre hp le
    have := room pre hp
    simp only [List.length_append] at le
    omega
  | succ j ih =>
    refine (h P ts some).bind fun a ok rest => (accept .comma).bind fun more _ rest => ?_
    cases more with
    | false => exact .pure (by simpa using ok) le_rfl
    | true =>
      have further : ∀ pre ∈ P * L a * word .comma, n < j + pre.length := by
        rintro _ ⟨_, ⟨pre, hp, taken, -, rfl⟩, _, ⟨t, -, rfl⟩, rfl⟩
        have := room pre hp
        simp only [List.length_append, List.length_singleton]
        omega
      refine (ih (by simp [nil_mem_mul]) further).bind fun as ok' rest => .pure ?_ ?_
      · simpa using ⟨ok, ok'.2⟩
      · simp [separated_cons, ok'.1, mul_assoc]

theorem listUntil (h : ∀ P ts, [] ∉ P → Takes n P ts item φ fun a => P * L a) (some : [] ∉ P)
    {rounds : Nat} (room : n < rounds) (close : TokenKind) :
    Takes n P ts (listUntil rounds close item) (fun as => ∀ a ∈ as, φ a)
      fun as => P * separated (as.map L) := by
  refine .nextKind ?_
  split
  · exact .pure (by simp) (by simp [separated])
  · intro pre hp le fresh as t ended
    obtain ⟨ok, taken⟩ := sepByComma h some rounds (fun pre _ => by omega)
      pre hp le fresh as t ended
    exact ⟨ok.2, taken⟩

theorem members (h : ∀ P ts, [] ∉ P → Takes n P ts item φ fun a => P * L a) (some : [] ∉ P)
    (close : TokenKind) (j : Nat) :
    Takes n P ts (members close item j) (fun as => ∀ a ∈ as, φ a)
      fun as => P * Commas.optional.lay (as.map L) := by
  induction j generalizing P ts with
  | zero => exact .pure (by simp) (by simp [Commas.lay])
  | succ j ih =>
    refine .nextKind ?_
    split
    · exact .pure (by simp) (by simp [Commas.lay])
    · split
      · exact .pure (by simp) (by simp [Commas.lay])
      · refine (h P ts some).bind fun a ok rest => ?_
        refine ((accept .comma).discard (R := P * L a * (1 + word .comma)) fun b _ => ?_).bind
          fun _ _ rest => ?_
        · cases b with
          | false => simp [mul_add]
          | true => simp [mul_add]
        · refine (ih (by simp [nil_mem_mul, some])).bind fun as ok' rest => .pure ?_ ?_
          · simpa using ⟨ok, ok'⟩
          · simp [Commas.lay, mul_assoc]

end Takes

end

/-! ### Levels -/

/-- A production that gives trees of a level and takes writings of them. -/
def Reads (n : Nat) (act : Production Expr) (l : Level) (p : Place) : Prop :=
  ∀ P ts, Takes n P ts act (Expr.Fits l) fun e => P * e.writings .optional p

/-- Such a production one level of nesting further in, where a token has been taken before. -/
def ReadsInside (n : Nat) (act : Production Expr) (p : Place) : Prop :=
  ∀ P ts, [] ∉ P → Takes n P ts act (Expr.Fits .expression) fun e => P * e.writings .optional p

/-- The writings of a function from its parameter list on. -/
def functionTailWritings (c : Commas) : Expr → Language Token
  | .function _ params body => header params * body.writings c .body
  | _ => 0

section

variable {rounds : Nat} {expr body : Production Expr}

theorem Reads.weaken {k l : Level} {act : Production Expr} {p : Place} (h : Reads n act l p)
    (le : k ≤ l) : Reads n act k p := by
  intro P ts pre hp short fresh e t ended
  obtain ⟨fits, taken⟩ := h P ts pre hp short fresh e t ended
  exact ⟨fits.mono le, taken⟩

theorem takes_functionHeader (room : n < rounds) :
    Takes n P ts (functionHeader rounds) (fun params => ∀ t ∈ params, t.kind = .identifier)
      fun params => P * header params := by
  refine (Takes.expected .openParameters).bind fun _ _ rest => ?_
  refine (Takes.listUntil (fun P ts _ => Takes.expect .parameter) (by simp [nil_mem_mul]) room
    .rightParen).bind fun params names rest => ?_
  refine (Takes.expected .closeParameters).bind fun _ _ rest => ?_
  refine (Takes.expected .functionArrow).bind fun _ _ rest => .pure names ?_
  simp [header, Expectation.kind, mul_assoc]

theorem takes_functionTail (hb : ReadsInside n body .body) (room : n < rounds)
    (name : Option Token) :
    Takes n P ts (functionTail rounds body name)
      (fun e => ∃ params b, e = .function name params b ∧ (∀ t ∈ params, t.kind = .identifier) ∧
        b.Fits .expression)
      fun e => P * functionTailWritings .optional e := by
  rw [functionTail_eq]
  refine (takes_functionHeader room).bind fun params names rest => ?_
  refine (hb _ _ (by simp [nil_mem_mul, nil_notMem_header])).bind fun b fits rest =>
    .pure ⟨params, b, rfl, names, fits⟩ ?_
  simp [functionTailWritings, mul_assoc]

theorem reads_primary (he : ReadsInside n expr .expr) (hb : ReadsInside n body .body)
    (room : n < rounds) : Reads n (primary rounds expr body) .primary .expr := by
  intro P ts
  have literal {t : Token} {value : Literal} (h : t.constant? = some value) :
      P * only t ≤ P * (Expr.literal value).writings .optional .expr :=
    mul_le_mul_right (fun us hu => ⟨t, h, hu⟩) P
  refine .get fun fresh => ?_
  cases ts with
  | nil => exact .throw _
  | cons t rest =>
    simp only
    split <;> rename_i kind
    case h_6 =>
      exact Takes.skip.bind fun _ _ rest => Takes.newId.bind fun id _ rest =>
        .pure ⟨le_rfl, kind⟩ le_rfl
    case h_7 =>
      refine (Takes.skipWord kind).bind fun _ _ rest => ?_
      refine (Takes.expected .openAnonymous).bind fun _ _ rest => ?_
      refine (takes_functionTail hb room none).bind fun f ok rest => ?_
      obtain ⟨params, b, rfl, names, fits⟩ := ok
      refine (Takes.expected .closeDefun).bind fun _ _ rest =>
        .pure ⟨le_rfl, by simp, names, fits⟩ ?_
      simp [Expr.writings, functionTailWritings, Place.bare, Expectation.kind, mul_assoc]
    case h_8 =>
      refine (Takes.skipWord kind).bind fun _ _ rest => ?_
      refine (Takes.members hb (by simp [nil_mem_mul]) .rightBrace rounds).bind
        fun es fit rest => ?_
      refine (Takes.expected .closeBlock).bind fun _ _ rest =>
        .pure ⟨le_rfl, Expr.allGraded_iff.2 fit⟩ ?_
      simp [Expr.writings, Expr.writingsOf_eq_map, Expectation.kind, mul_assoc]
    case h_9 =>
      refine (Takes.skipWord kind).bind fun _ _ rest => ?_
      refine (Takes.listUntil hb (by simp [nil_mem_mul]) room .rightBracket).bind
        fun es fit rest => ?_
      refine (Takes.expect .closeArray).bind fun close ok rest =>
        .pure ⟨le_rfl, Expr.allGraded_iff.2 fit, ok⟩ ?_
      simp [Expr.writings, Expr.writingsOf_eq_map, mul_assoc]
    case h_10 =>
      refine (Takes.skipWord kind).bind fun _ _ rest => ?_
      refine (he _ _ (by simp [nil_mem_mul])).bind fun inner fits rest => ?_
      refine (Takes.expected .closeGroup).bind fun _ _ rest => .pure ⟨le_rfl, fits⟩ ?_
      simp [Expr.writings, Expectation.kind, mul_assoc]
    case h_11 => exact .throw _
    all_goals
      exact Takes.skip.bind fun _ _ rest => .pure ⟨le_rfl, trivial⟩
        (literal (by simp [Token.constant?, kind]))

theorem takes_callsAfter (he : ReadsInside n expr .expr) (hb : ReadsInside n body .body)
    (room : n < rounds) {target : Expr} (fits : target.Fits .call) (j : Nat) :
    Takes n (P * target.writings .optional .expr) ts (callsAfter rounds expr body target j)
      (Expr.Fits .call) fun e => P * e.writings .optional .expr := by
  induction j generalizing target ts with
  | zero => exact .pure fits le_rfl
  | succ j ih =>
    refine .nextKind ?_
    cases ts with
    | nil => exact .pure fits le_rfl
    | cons t rest =>
      simp only [List.head?_cons, Option.map_some]
      split
      · rename_i kind
        refine (Takes.skipWord (Option.some.inj kind)).bind fun _ _ rest => ?_
        refine (Takes.listUntil hb (by simp [nil_mem_mul]) room .rightParen).bind
          fun args fit rest => ?_
        refine (Takes.expect .closeCall).bind fun close ok rest => ?_
        have fits : (Expr.call target args close).Fits .call :=
          ⟨le_rfl, fits, Expr.allGraded_iff.2 fit, ok⟩
        simpa [Expr.writings, Expr.writingsOf_eq_map, mul_assoc] using ih fits
      · rename_i kind
        refine (Takes.skipWord (Option.some.inj kind)).bind fun _ _ rest => ?_
        refine (he _ _ (by simp [nil_mem_mul])).bind fun lower lowerFits rest => ?_
        refine (Takes.accept .colon).bind fun colon _ rest => ?_
        cases colon with
        | false =>
          refine (Takes.expect .closeIndex).bind fun close ok rest => ?_
          have fits : (Expr.index target lower close).Fits .call := ⟨le_rfl, fits, lowerFits, ok⟩
          simpa [Expr.writings, mul_assoc] using ih fits
        | true =>
          refine (he _ _ (by simp [nil_mem_mul])).bind fun upper upperFits rest => ?_
          refine (Takes.expect .closeIndex).bind fun close ok rest => ?_
          have fits : (Expr.slice target lower upper close).Fits .call :=
            ⟨le_rfl, fits, lowerFits, upperFits, ok⟩
          simpa [Expr.writings, mul_assoc] using ih fits
      · exact .pure fits le_rfl

theorem reads_call (he : ReadsInside n expr .expr) (hb : ReadsInside n body .body)
    (room : n < rounds) : Reads n (call rounds expr body) .call .expr := by
  intro P ts
  refine (reads_primary he hb room P ts).bind fun target fits rest => ?_
  exact takes_callsAfter he hb room (fits.mono Level.le_primary) rounds

theorem reads_signsThen {operand : Production Expr} (h : Reads n operand .call .expr) (j : Nat) :
    Reads n (signsThen operand j) .sign .expr := by
  induction j with
  | zero => exact h.weaken (by decide)
  | succ j ih =>
    intro P ts
    refine (Takes.takeOneOf _).bind fun op ok rest => ?_
    cases op with
    | none => exact h.weaken (by decide) P rest
    | some op =>
      refine (ih _ _).bind fun e fits rest => .pure ⟨le_rfl, ok op rfl, fits⟩ ?_
      simp [Expr.writings, mul_assoc]

/-! ### Chains of operators -/

section

variable {k l : Level} {kinds : List TokenKind} {operand : Production Expr}

theorem takes_chainFrom (operator : k ∈ Level.joins) (level : ∀ kind ∈ kinds, kind.level = k)
    (lt : k < l) (h : Reads n operand l .expr) {left : Expr} (fits : left.Fits k) (j : Nat) :
    Takes n (P * left.writings .optional .expr) ts (chainFrom kinds k.join operand left j)
      (Expr.Fits k) fun e => P * e.writings .optional .expr := by
  induction j generalizing left ts with
  | zero => exact .pure fits le_rfl
  | succ j ih =>
    refine (Takes.takeOneOf kinds).bind fun op among rest => ?_
    cases op with
    | none => exact .pure fits le_rfl
    | some op =>
      refine (h _ _).bind fun right ok rest => ?_
      have fits := fits.join operator (level _ (among op rfl)) (lt.trans_le ok.1) ok.2
      simpa [mul_assoc] using ih fits

theorem Reads.chain {make : Expr → Token → Expr → Expr} (h : Reads n operand l .expr)
    (joins : make = k.join) (operator : k ∈ Level.joins) (level : ∀ kind ∈ kinds, kind.level = k)
    (lt : k < l) : Reads n (chain rounds kinds make operand) k .expr := by
  subst joins
  intro P ts
  refine (h P ts).bind fun left fits rest => ?_
  exact takes_chainFrom operator level lt h (fits.mono lt.le) rounds

end

theorem reads_disjunction (he : ReadsInside n expr .expr) (hb : ReadsInside n body .body)
    (room : n < rounds) : Reads n (disjunction rounds expr body) .disjunction .expr := by
  have unary : Reads n (unary rounds expr body) .sign .expr :=
    reads_signsThen (reads_call he hb room) rounds
  have factor : Reads n (factor rounds expr body) .product .expr :=
    unary.chain rfl (by decide) (by decide) (by decide)
  have term : Reads n (term rounds expr body) .sum .expr :=
    factor.chain rfl (by decide) (by decide) (by decide)
  have comparison : Reads n (comparison rounds expr body) .comparison .expr :=
    term.chain rfl (by decide) (by decide) (by decide)
  have equality : Reads n (equality rounds expr body) .equality .expr :=
    comparison.chain rfl (by decide) (by decide) (by decide)
  have conjunction : Reads n (conjunction rounds expr body) .conjunction .expr :=
    equality.chain rfl (by decide) (by decide) (by decide)
  exact conjunction.chain rfl (by decide) (by decide) (by decide)

theorem reads_ternary (he : ReadsInside n expr .expr) (hb : ReadsInside n body .body)
    (room : n < rounds) : Reads n (ternary rounds expr body) .ternary .expr := by
  intro P ts
  refine (reads_disjunction he hb room P ts).bind fun condition fits rest => ?_
  refine (Takes.takeOneOf _).bind fun op ok rest => ?_
  cases op with
  | none => exact .pure (fits.mono (by decide)) le_rfl
  | some op =>
    refine (hb _ _ (by simp [nil_mem_mul])).bind fun yes yesFits rest => ?_
    refine (Takes.expected .ternaryColon).bind fun _ _ rest => ?_
    refine (hb _ _ (by simp [nil_mem_mul])).bind fun no noFits rest =>
      .pure ⟨le_rfl, fits, by simpa using ok, yesFits, noFits⟩ ?_
    simp [Expr.writings, Expectation.kind, mul_assoc]

/-! ### Forms with a keyword -/

theorem takes_declaration (hb : ReadsInside n body .body) :
    Takes n (P * word .var) ts (declaration body) (Expr.Fits .expression)
      fun e => P * e.writings .optional .expr := by
  refine (Takes.expected .openVar).bind fun _ _ rest => ?_
  refine (Takes.expect .varName).bind fun name ok rest => ?_
  refine (Takes.accept .comma).bind fun comma _ rest => ?_
  cases comma with
  | false =>
    refine (Takes.expected .closeVar).bind fun _ _ rest => .pure ⟨le_rfl, ok⟩ ?_
    simp [Expr.writings, Expectation.kind, mul_assoc]
  | true =>
    refine (hb _ _ (by simp [nil_mem_mul])).bind fun value fits rest => ?_
    refine (Takes.expected .closeVar).bind fun _ _ rest => .pure ⟨le_rfl, ok, fits⟩ ?_
    simp [Expr.writings, Expectation.kind, mul_assoc]

theorem takes_assignment (he : ReadsInside n expr .expr) (hb : ReadsInside n body .body) :
    Takes n (P * word .assign) ts (assignment expr body) (Expr.Fits .expression)
      fun e => P * e.writings .optional .expr := by
  refine (Takes.expected .openAssign).bind fun _ _ rest => ?_
  refine (Takes.expect .assignName).bind fun name ok rest => ?_
  refine (Takes.accept .leftBracket).bind fun bracket _ rest => ?_
  cases bracket with
  | false =>
    refine (Takes.expected .assignComma).bind fun _ _ rest => ?_
    refine (hb _ _ (by simp [nil_mem_mul])).bind fun value fits rest => ?_
    refine (Takes.expected .closeAssign).bind fun _ _ rest => Takes.newId.bind fun id _ rest =>
      .pure ⟨le_rfl, ok, fits⟩ ?_
    simp [Expr.writings, Expectation.kind, mul_assoc]
  | true =>
    refine (he _ _ (by simp [nil_mem_mul])).bind fun index indexFits rest => ?_
    refine (Takes.expected .closeElement).bind fun _ _ rest => ?_
    refine (Takes.expected .assignComma).bind fun _ _ rest => ?_
    refine (hb _ _ (by simp [nil_mem_mul])).bind fun value fits rest => ?_
    refine (Takes.expected .closeAssign).bind fun _ _ rest => Takes.newId.bind fun id _ rest =>
      .pure ⟨le_rfl, ok, indexFits, fits⟩ ?_
    simp [Expr.writings, Expectation.kind, mul_assoc]

theorem takes_importing :
    Takes n (P * word .import) ts importing (Expr.Fits .expression)
      fun e => P * e.writings .optional .expr := by
  refine (Takes.expected .openImport).bind fun _ _ rest => ?_
  refine (Takes.expect .importPath).bind fun path ok rest => ?_
  refine (Takes.expected .closeImport).bind fun _ _ rest => .pure ⟨le_rfl, ok⟩ ?_
  simp [Expr.writings, Expectation.kind, mul_assoc]

theorem takes_looping (hb : ReadsInside n body .body) {keyword : Token}
    (h : keyword.kind = .while) :
    Takes n (P * only keyword) ts (looping body keyword) (Expr.Fits .expression)
      fun e => P * e.writings .optional .expr := by
  refine (Takes.expected .openWhile).bind fun _ _ rest => ?_
  refine (hb _ _ (by simp [nil_mem_mul])).bind fun first firstFits rest => ?_
  refine (Takes.accept .comma).bind fun comma _ rest => ?_
  cases comma with
  | false =>
    refine (Takes.expected .closeWhile).bind fun _ _ rest => .pure ⟨le_rfl, h, firstFits⟩ ?_
    simp [Expr.writings, Expectation.kind, mul_assoc]
  | true =>
    refine (hb _ _ (by simp [nil_mem_mul])).bind fun second fits rest => ?_
    refine (Takes.expected .closeWhile).bind fun _ _ rest => .pure ⟨le_rfl, h, firstFits, fits⟩ ?_
    simp [Expr.writings, Expectation.kind, mul_assoc]

theorem reads_caseCondition {value : Production Expr} (h : Reads n value .ternary .expr) (j : Nat) :
    Reads n (caseCondition value j) .pattern .expr := by
  induction j with
  | zero => exact h.weaken (by decide)
  | succ j ih =>
    intro P ts
    refine (Takes.takeOneOf _).bind fun wildcard among rest => ?_
    cases wildcard with
    | some wildcard => exact .pure ⟨le_rfl, by simpa [Expr.Graded] using among⟩ le_rfl
    | none =>
      refine (h P rest).bind fun left fits rest =>
        (Takes.takeOneOf _).bind fun pipe among rest => ?_
      cases pipe with
      | none => exact .pure (fits.mono (by decide)) le_rfl
      | some pipe =>
        refine (ih _ _).bind fun right rightFits rest =>
          .pure ⟨le_rfl, fits, by simpa using among, rightFits⟩ ?_
        simp [Expr.writings, mul_assoc]

theorem takes_matching (he : ReadsInside n expr .expr) (hb : ReadsInside n body .body)
    (room : n < rounds) {keyword : Token} (h : keyword.kind = .match) :
    Takes n (P * only keyword) ts (matching rounds expr body keyword) (Expr.Fits .expression)
      fun e => P * e.writings .optional .expr := by
  have ternary := reads_ternary he hb room
  have case (P : Language Token) (ts : List Token) (_ : [] ∉ P) :
      Takes n P ts (matchCase rounds expr body) Case.Fits fun c => P * c.writings .optional := by
    refine (reads_caseCondition ternary rounds P ts).bind fun condition conditionFits rest => ?_
    refine (Takes.expect .caseArrow).bind fun arrow ok rest => ?_
    refine (hb _ _ (by simp [nil_mem_mul])).bind fun b fits rest =>
      .pure ⟨ok, conditionFits, fits⟩ ?_
    simp [Case.writings, Case.condition, Case.arrow, Case.body, mul_assoc]
  refine (ternary _ _).bind fun scrutinee fits rest => ?_
  refine (Takes.expected .openMatch).bind fun _ _ rest => ?_
  refine (Takes.members case (by simp [nil_mem_mul]) .rightBrace rounds).bind
    fun cases fit rest => ?_
  refine (Takes.expected .closeMatch).bind fun _ _ rest =>
    .pure ⟨le_rfl, h, fits, Case.allGraded_iff.2 fit⟩ ?_
  simp [Expr.writings, Case.writingsOf_eq_map, Expectation.kind, mul_assoc]

theorem takes_namedFunction (hb : ReadsInside n body .body) (room : n < rounds) :
    Takes n (P * word .defun) ts (namedFunction rounds body) (Expr.Fits .expression)
      fun e => P * e.writings .optional .expr := by
  refine (Takes.expected .openNamed).bind fun _ _ rest => ?_
  refine (Takes.expect .functionName).bind fun name named rest => ?_
  refine (Takes.expected .functionComma).bind fun _ _ rest => ?_
  refine (takes_functionTail hb room (some name)).bind fun f ok rest => ?_
  obtain ⟨params, b, rfl, names, fits⟩ := ok
  refine (Takes.expected .closeDefun).bind fun _ _ rest =>
    .pure ⟨le_rfl, by simpa [Expectation.kind] using named, names, fits⟩ ?_
  simp [Expr.writings, functionTailWritings, Expectation.kind, mul_assoc]

theorem reads_expression (he : ReadsInside n expr .expr) (hb : ReadsInside n body .body)
    (room : n < rounds) : Reads n (expression rounds expr body) .expression .expr := by
  intro P ts
  have ternary := (reads_ternary he hb room).weaken (k := .expression) (by decide) P ts
  refine .get fun fresh => ?_
  cases ts with
  | nil => exact ternary
  | cons t rest =>
    simp only
    split <;> try rename_i kind
    · split
      · exact (Takes.skipWord kind).bind fun _ _ rest => takes_namedFunction hb room
      · exact ternary
    · exact (Takes.skipWord kind).bind fun _ _ rest => takes_declaration hb
    · exact (Takes.skipWord kind).bind fun _ _ rest => takes_assignment he hb
    · exact (Takes.skipWord kind).bind fun _ _ rest => takes_importing
    · exact Takes.skip.bind fun _ _ rest => takes_looping hb kind
    · exact Takes.skip.bind fun _ _ rest => takes_matching he hb room kind
    · exact Takes.skip.bind fun _ _ rest => .pure ⟨le_rfl, kind⟩ le_rfl
    · exact ternary

theorem reads_functionOrExpression (he : ReadsInside n expr .expr) (hb : ReadsInside n body .body)
    (room : n < rounds) : Reads n (functionOrExpression rounds expr body) .expression .body := by
  intro P ts
  refine .get fun fresh => ?_
  split
  · intro pre hp short fresh f t ended
    obtain ⟨⟨params, b, rfl, names, fits⟩, pre', hp', same⟩ :=
      takes_functionTail hb room none pre hp short fresh f t ended
    refine ⟨⟨Level.le_primary, by simp, names, fits⟩, pre', ?_, same⟩
    exact mul_le_mul_right (by simp [Expr.writings, functionTailWritings, Place.bare]) P hp'
  · exact (reads_expression he hb room P ts).mono fun e _ =>
      mul_le_mul_right (e.writings_expr_le .optional) P

end

/-! ### Nesting -/

/-- What is read at a place is a tree of the grammar, and what is taken is a writing of it. -/
theorem reads_read (m : Nat) (p : Place) : Reads (m - 1) (read m p) .expression p := by
  induction m generalizing p with
  | zero =>
    intro P ts
    cases p <;> exact .throw _
  | succ m ih =>
    have inside (p : Place) : ReadsInside m (read m p) p := by
      intro P ts some
      have := (ih p 1 ts)
      simp only [one_mul] at this
      exact this.frame some
    cases p with
    | expr => exact reads_expression (inside .expr) (inside .body) (Nat.lt_succ_self m)
    | body => exact reads_functionOrExpression (inside .expr) (inside .body) (Nat.lt_succ_self m)

end Grammar

/-! ### Programs -/

namespace Parse

open Grammar

/-- The writings of several expressions one after another. -/
def writings (es : List Expr) : Language Token :=
  (es.map fun e => e.writings .optional .expr).prod

theorem ofRest_sound {all : List Token} {depth n : Nat} {s : Cursor} (short : s.rest.length ≤ n)
    (shallow : s.rest.length < depth) (h : (ofRest all depth n s).faults = []) :
    s.rest ∈ writings (ofRest all depth n s).exprs ∧
      ∀ e ∈ (ofRest all depth n s).exprs, e.Fits .expression := by
  induction n generalizing s with
  | zero =>
    have : s.rest = [] := List.length_eq_zero_iff.1 (Nat.le_zero.1 short)
    simp [ofRest, writings, this]
  | succ n ih =>
    obtain ⟨rest, fresh⟩ := s
    cases rest with
    | nil => simp [ofRest, writings]
    | cons t rest =>
      have read := reads_read depth .expr 1 (t :: rest) [] rfl (by simp at shallow ⊢; omega) fresh
      rw [ofRest] at h ⊢
      simp only at h ⊢
      split at h
      · rename_i e u ended
        obtain ⟨fits, taken, ht, same⟩ := read e u ended
        simp only [one_mul, List.nil_append] at ht same
        have some : taken ≠ [] := fun nil => e.nil_notMem_writings _ _ (nil ▸ ht)
        have less : u.rest.length < (t :: rest).length := by
          rw [same, List.length_append]
          have := List.length_pos_iff.2 some
          omega
        simp only at short shallow
        obtain ⟨ih, fit⟩ := ih (by omega) (by omega) h
        refine ⟨?_, by simpa using ⟨fits, fit⟩⟩
        rw [same]
        exact Language.append_mem_mul ht ih
      · simp at h

/-- A program that is read without a fault is a writing of the trees that were read, up to commas
and the two ways to write a function without a name, and each of the trees obeys the levels. -/
theorem ofTokens_sound {fresh : Nat} {tokens : List Token}
    (h : (ofTokens fresh tokens).faults = []) :
    tokens ∈ writings (ofTokens fresh tokens).exprs ∧
      ∀ e ∈ (ofTokens fresh tokens).exprs, e.Fits .expression :=
  ofRest_sound le_rfl (Nat.lt_succ_self _) h

/-- Differences lean to the left. -/
theorem ofTokens_sound_of_differences :
    let x (column : Nat) : Token := ⟨.identifier, "x", none, ⟨1, column⟩⟩
    let minus (column : Nat) : Token := ⟨.minus, "-", none, ⟨1, column⟩⟩
    let tokens := [x 1, minus 3, x 5, minus 7, x 9]
    let tree : Expr := .binary (.binary (.variable ⟨0⟩ (x 1)) (minus 3) (.variable ⟨1⟩ (x 5)))
      (minus 7)
      (.variable ⟨2⟩ (x 9))
    (ofTokens 0 tokens).exprs = [tree] ∧ (ofTokens 0 tokens).faults = [] ∧
      tokens ∈ writings [tree] ∧ ∀ e ∈ [tree], e.Fits .expression := by
  intro x minus tokens tree
  have faults : (ofTokens 0 tokens).faults = [] := rfl
  exact ⟨rfl, faults, ofTokens_sound faults⟩

end Parse

end FoxScript
