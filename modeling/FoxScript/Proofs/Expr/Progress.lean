import FoxScript.Expr.Parser

/-!
# Reading makes progress

A production that gives something has taken at least one token. One that stops has put none back,
and it stops in front of a token that is refused. So neither the bound on the depth nor the one on
the rounds is ever met: what is nested has fewer tokens left, and so has the next round. There is
just one way to read without bounds.

## Main definitions

* `Grammar.Agrees`: two productions that do the same on few tokens, and make progress.
* `Grammar.Part`: the productions of the grammar.
* `Grammar.Unbounded`: productions that read as the grammar says, without any bound.

## Main statements

* `Grammar.agrees_part`: each production makes progress if those for what is nested do.
* `Grammar.unbounded_parse`, `Grammar.Unbounded.eq_parse`: there is one way to read without bounds.
-/
namespace FoxScript

namespace Grammar

/-- The kinds of tokens with which something starts that stands for itself. -/
def primaryKinds : List TokenKind :=
  [.false, .true, .null, .number, .string, .identifier, .defun, .leftBrace, .leftBracket,
    .leftParen]

/-- What is missing does not come next. -/
def Miss.Refuses (rest : List Token) : Miss → Prop
  | .token e => ∀ t ∈ rest.head?, t.kind ≠ e.kind
  | .expression => ∀ t ∈ rest.head?, t.kind ∉ primaryKinds

variable {α β : Type} {k d e : Nat} {s : Cursor} {act act' : Production α}
  {next next' : α → Production β}

/-! ### Two productions side by side -/

/-- How a production ends that finds the tokens of `s`. If it gives something it has taken at least
`d` of them; if it stops it has put none back, and the next one is refused. -/
def Leaves (d : Nat) (s : Cursor) : EStateM.Result Miss Cursor α → Prop
  | .ok _ t => t.rest <:+ s.rest ∧ t.rest.length + d ≤ s.rest.length
  | .error miss t => t.rest <:+ s.rest ∧ miss.Refuses t.rest

theorem Leaves.exists_taken {a : α} {t : Cursor} (h : Leaves d s (.ok a t)) :
    ∃ taken, s.rest = taken ++ t.rest ∧ d ≤ taken.length := by
  obtain ⟨⟨taken, found⟩, shorter⟩ := h
  refine ⟨taken, found.symm, ?_⟩
  have length := congrArg List.length found
  rw [List.length_append] at length
  omega

/-- At `s` the two productions do the same, and what they do is progress. -/
def AgreesAt (d : Nat) (s : Cursor) (act act' : Production α) : Prop :=
  act' s = act s ∧ Leaves d s (act s)

/-- On fewer than `k` tokens the two productions do the same, and what they do is progress. -/
def Agrees (k d : Nat) (act act' : Production α) : Prop :=
  ∀ s : Cursor, s.rest.length < k → AgreesAt d s act act'

namespace AgreesAt

theorem mono (h : AgreesAt d s act act') (le : e ≤ d) : AgreesAt e s act act' := by
  refine ⟨h.1, ?_⟩
  have leaves := h.2
  unfold Leaves at leaves ⊢
  split at leaves <;> grind

theorem pure (a : α) : AgreesAt 0 s (pure a) (pure a) := ⟨rfl, List.suffix_rfl, Nat.le_refl _⟩

theorem throw {miss : Miss} (refused : miss.Refuses s.rest) :
    AgreesAt d s (throw miss : Production α) (throw miss) :=
  ⟨rfl, List.suffix_rfl, refused⟩

/-- The second production finds what the first one has left. -/
theorem bind (h : AgreesAt d s act act')
    (hn : ∀ a t, act s = .ok a t → t.rest.length + d ≤ s.rest.length →
      AgreesAt e t (next a) (next' a)) :
    AgreesAt (d + e) s (act >>= next) (act' >>= next') := by
  obtain ⟨same, leaves⟩ := h
  simp only [AgreesAt, Bind.bind, EStateM.bind, same]
  cases ended : act s with
  | error miss t =>
    rw [ended] at leaves
    exact ⟨rfl, leaves⟩
  | ok a t =>
    rw [ended] at leaves
    obtain ⟨suffix, shorter⟩ := leaves
    obtain ⟨same', leaves'⟩ := hn a t ended shorter
    refine ⟨same', ?_⟩
    simp only
    cases ended' : next a t with
    | error miss u =>
      rw [ended'] at leaves'
      exact ⟨leaves'.1.trans suffix, leaves'.2⟩
    | ok b u =>
      rw [ended'] at leaves'
      obtain ⟨suffix', shorter'⟩ := leaves'
      exact ⟨suffix'.trans suffix, by omega⟩

theorem get {next next' : Cursor → Production β} (h : AgreesAt d s (next s) (next' s)) :
    AgreesAt d s (get >>= next) (get >>= next') :=
  h

/-- A token is taken, behind which fewer tokens are left. -/
theorem skip {next next' : Unit → Production β} {t : Token} {rest : List Token}
    (found : s.rest = t :: rest) (short : s.rest.length < k + 1)
    (h : Agrees k 0 (next ()) (next' ())) :
    AgreesAt 1 s (Grammar.skip >>= next) (Grammar.skip >>= next') := by
  have skipped : Grammar.skip s = .ok () { s with rest := s.rest.drop 1 } := rfl
  have taken : AgreesAt 1 s Grammar.skip Grammar.skip := by
    refine ⟨rfl, ?_⟩
    rw [skipped]
    simp [Leaves, found]
  exact taken.bind (e := 0) fun _ t _ shorter => h t (by omega)

end AgreesAt

/-- Either a token of one of the kinds is taken, or the next one is of no such kind. -/
theorem takeOneOf?_cases (kinds : List TokenKind) (s : Cursor) :
    (takeOneOf? kinds s = .ok none s ∧ ∀ t ∈ s.rest.head?, t.kind ∉ kinds) ∨
      ∃ t rest, s.rest = t :: rest ∧ takeOneOf? kinds s = .ok (some t) { s with rest := rest } := by
  obtain ⟨rest, fresh⟩ := s
  cases rest with
  | nil => exact .inl ⟨rfl, by simp⟩
  | cons t rest =>
    rw [takeOneOf?_cons]
    by_cases among : kinds.contains t.kind
    · exact .inr ⟨t, rest, rfl, if_pos among⟩
    · exact .inl ⟨if_neg among, by simpa using among⟩

namespace Agrees

theorem fewer {j : Nat} (h : Agrees k d act act') (le : j ≤ k) : Agrees j d act act' :=
  fun s short => h s (by omega)

theorem weaken (h : Agrees k d act act') : Agrees k 0 act act' :=
  fun s short => (h s short).mono (Nat.zero_le d)

theorem zero : Agrees 0 d act act' := fun _ short => absurd short (Nat.not_lt_zero _)

theorem pure (a : α) : Agrees k 0 (pure a) (pure a) := fun _ _ => .pure a

/-- What comes behind a production may find all tokens that it has left. -/
theorem bind (h : Agrees k d act act') (hn : ∀ a, Agrees k 0 (next a) (next' a)) :
    Agrees k d (act >>= next) (act' >>= next') := by
  intro s short
  exact (h s short).bind (e := 0) fun a t _ _ => hn a t (by omega)

/-- What comes behind a production that takes a token finds fewer tokens. -/
theorem strict (h : Agrees (k + 1) 1 act act') (hn : ∀ a, Agrees k 0 (next a) (next' a)) :
    Agrees (k + 1) 1 (act >>= next) (act' >>= next') := by
  intro s short
  exact (h s short).bind (e := 0) fun a t _ _ => hn a t (by omega)

theorem discard (h : Agrees k d act act') :
    Agrees k d (Functor.discard act) (Functor.discard act') :=
  h.bind fun _ => .pure ()

theorem nextKind {next next' : Option TokenKind → Production β}
    (h : ∀ s : Cursor, s.rest.length < k →
      AgreesAt d s (next (s.rest.head?.map Token.kind)) (next' (s.rest.head?.map Token.kind))) :
    Agrees k d (nextKind? >>= next) (nextKind? >>= next') :=
  h

/-! ### Single tokens -/

theorem takeOneOf (kinds : List TokenKind) : Agrees k 0 (takeOneOf? kinds) (takeOneOf? kinds) := by
  intro s _
  refine ⟨rfl, ?_⟩
  obtain ⟨passed, -⟩ | ⟨t, rest, found, taken⟩ := takeOneOf?_cases kinds s
  · rw [passed]
    exact ⟨List.suffix_rfl, Nat.le_refl _⟩
  · rw [taken]
    simp [Leaves, found]

/-- A token of one of the kinds is taken, behind which fewer tokens are left, or none is. -/
theorem takeOneOfThen {kinds : List TokenKind} {next next' : Option Token → Production β}
    (none : Agrees (k + 1) d (next none) (next' none))
    (some : ∀ t, Agrees k 0 (next (some t)) (next' (some t))) (le : d ≤ 1) :
    Agrees (k + 1) d (takeOneOf? kinds >>= next) (takeOneOf? kinds >>= next') := by
  intro s short
  obtain ⟨passed, -⟩ | ⟨t, rest, found, taken⟩ := takeOneOf?_cases kinds s
  · have first : AgreesAt 0 s (takeOneOf? kinds) (takeOneOf? kinds) := takeOneOf kinds s short
    refine (first.bind fun a u ended _ => ?_).mono (Nat.le_add_left d 0)
    rw [passed] at ended
    cases ended
    exact none s short
  · have first : AgreesAt 1 s (takeOneOf? kinds) (takeOneOf? kinds) := by
      refine ⟨rfl, ?_⟩
      rw [taken]
      simp [Leaves, found]
    refine (first.bind (e := 0) fun a u ended shorter => ?_).mono le
    rw [taken] at ended
    cases ended
    exact some t _ (by omega)

theorem newId : Agrees k 0 newId newId := fun _ _ => ⟨rfl, List.suffix_rfl, Nat.le_refl _⟩

theorem accept (kind : TokenKind) : Agrees k 0 (accept kind) (accept kind) :=
  (takeOneOf [kind]).bind fun _ => .pure _

/-- The token that must stand here is taken, or the one that stands here is refused. -/
theorem expect (e : Expectation) : Agrees k 1 (expect e) (expect e) := by
  intro s _
  refine ⟨rfl, ?_⟩
  unfold Grammar.expect
  simp only [Bind.bind, EStateM.bind]
  obtain ⟨passed, refused⟩ | ⟨t, rest, found, taken⟩ := takeOneOf?_cases [e.kind] s
  · rw [passed]
    exact ⟨List.suffix_rfl, by simpa [Miss.Refuses] using refused⟩
  · rw [taken]
    simp [Leaves, found, Pure.pure, EStateM.pure]

end Agrees

/-! ### Lists and chains -/

section

variable {m m' : Nat} {item item' : Production α}

/-- Each round begins with an item, so that as many rounds as there are tokens are enough. -/
theorem agrees_sepByComma (h : Agrees k 1 item item') (le : k ≤ m) (le' : k ≤ m') :
    Agrees k 0 (sepByComma item m) (sepByComma item' m') := by
  induction k generalizing m m' with
  | zero => exact .zero
  | succ k ih =>
    obtain ⟨m, rfl⟩ := Nat.exists_eq_add_of_lt le
    obtain ⟨m', rfl⟩ := Nat.exists_eq_add_of_lt le'
    refine (h.strict fun a => (Agrees.accept .comma).bind fun more => ?_).weaken
    cases more with
    | false => exact .pure _
    | true =>
      have further := ih (h.fewer (Nat.le_succ k)) (Nat.le_add_right k m) (Nat.le_add_right k m')
      exact further.bind fun _ => .pure _

theorem agrees_listUntil (h : Agrees k 1 item item') (close : TokenKind) (le : k ≤ m)
    (le' : k ≤ m') : Agrees k 0 (listUntil m close item) (listUntil m' close item') := by
  refine .nextKind fun s short => ?_
  split
  · exact .pure _
  · exact agrees_sepByComma h le le' s short

theorem agrees_members (h : Agrees k 1 item item') (close : TokenKind) (le : k ≤ m)
    (le' : k ≤ m') : Agrees k 0 (members close item m) (members close item' m') := by
  induction k generalizing m m' with
  | zero => exact .zero
  | succ k ih =>
    obtain ⟨m, rfl⟩ := Nat.exists_eq_add_of_lt le
    obtain ⟨m', rfl⟩ := Nat.exists_eq_add_of_lt le'
    refine .nextKind fun s short => ?_
    cases s.rest.head?.map Token.kind with
    | none => exact .pure _
    | some kind =>
      dsimp only
      split
      · exact .pure _
      · have further := ih (h.fewer (Nat.le_succ k)) (Nat.le_add_right k m) (Nat.le_add_right k m')
        refine (h.strict fun a => ?_).weaken s short
        exact (Agrees.accept .comma).discard.bind fun _ => further.bind fun _ => .pure _

end

section

variable {m m' : Nat} {operand operand' : Production Expr}

/-- Each round begins with an operator. -/
theorem agrees_chainFrom (h : Agrees k 1 operand operand') (kinds : List TokenKind)
    (make : Expr → Token → Expr → Expr) (left : Expr) (le : k ≤ m) (le' : k ≤ m') :
    Agrees k 0 (chainFrom kinds make operand left m) (chainFrom kinds make operand' left m') := by
  induction k generalizing m m' left with
  | zero => exact .zero
  | succ k ih =>
    obtain ⟨m, rfl⟩ := Nat.exists_eq_add_of_lt le
    obtain ⟨m', rfl⟩ := Nat.exists_eq_add_of_lt le'
    have inside := h.fewer (Nat.le_succ k)
    refine .takeOneOfThen (.pure left) (fun op => ?_) (Nat.zero_le 1)
    exact inside.weaken.bind fun right =>
      ih inside _ (Nat.le_add_right k m) (Nat.le_add_right k m')

theorem agrees_chain (h : Agrees (k + 1) 1 operand operand') (kinds : List TokenKind)
    (make : Expr → Token → Expr → Expr) (le : k ≤ m) (le' : k ≤ m') :
    Agrees (k + 1) 1 (chain m kinds make operand) (chain m' kinds make operand') :=
  h.strict fun left => agrees_chainFrom (h.fewer (Nat.le_succ k)) kinds make left le le'

/-- Each round begins with a sign. -/
theorem agrees_signsThen (h : Agrees k 1 operand operand') (le : k ≤ m) (le' : k ≤ m') :
    Agrees k 1 (signsThen operand m) (signsThen operand' m') := by
  induction k generalizing m m' with
  | zero => exact .zero
  | succ k ih =>
    obtain ⟨m, rfl⟩ := Nat.exists_eq_add_of_lt le
    obtain ⟨m', rfl⟩ := Nat.exists_eq_add_of_lt le'
    refine .takeOneOfThen h (fun op => ?_) (Nat.le_refl 1)
    have further := ih (h.fewer (Nat.le_succ k)) (Nat.le_add_right k m) (Nat.le_add_right k m')
    exact further.weaken.bind fun _ => .pure _

/-- Each round but the first comes behind a bar. -/
theorem agrees_caseCondition (h : Agrees k 1 operand operand') (le : k ≤ m) (le' : k ≤ m') :
    Agrees k 1 (caseCondition operand m) (caseCondition operand' m') := by
  induction k generalizing m m' with
  | zero => exact .zero
  | succ k ih =>
    obtain ⟨m, rfl⟩ := Nat.exists_eq_add_of_lt le
    obtain ⟨m', rfl⟩ := Nat.exists_eq_add_of_lt le'
    refine .takeOneOfThen ?_ (fun wildcard => .pure _) (Nat.le_refl 1)
    refine h.strict fun left => (Agrees.takeOneOf [.pipe]).bind fun pipe => ?_
    cases pipe with
    | none => exact .pure left
    | some pipe =>
      have further := ih (h.fewer (Nat.le_succ k)) (Nat.le_add_right k m) (Nat.le_add_right k m')
      exact further.weaken.bind fun _ => .pure _

end

/-! ### Productions -/

/-- Reads a function without a name, behind its keyword. -/
def anonymousFunction (rounds : Nat) (body : Production Expr) : Production Expr := do
  discard (expect .openAnonymous)
  let f ← functionTail rounds body none
  discard (expect .closeDefun)
  return f

/-- Reads a block, behind its opening brace. -/
def block (rounds : Nat) (body : Production Expr) : Production Expr := do
  let members ← members .rightBrace body rounds
  discard (expect .closeBlock)
  return .block members

/-- Reads an array, behind its opening bracket. -/
def array (rounds : Nat) (body : Production Expr) : Production Expr := do
  let elements ← listUntil rounds .rightBracket body
  let close ← expect .closeArray
  return .array elements close

section

variable {rounds rounds' : Nat} {expr expr' body body' : Production Expr}
  (he : Agrees k 1 expr expr') (hb : Agrees k 1 body body') (room : k ≤ rounds)
  (room' : k ≤ rounds')

include hb room room'

theorem agrees_functionTail (name : Option Token) :
    Agrees (k + 1) 1 (functionTail rounds body name) (functionTail rounds' body' name) := by
  refine (Agrees.expect .openParameters).discard.strict fun _ => ?_
  refine (agrees_listUntil (.expect .parameter) .rightParen room
    room').bind fun params => ?_
  refine (Agrees.expect .closeParameters).discard.weaken.bind fun _ => ?_
  refine (Agrees.expect .functionArrow).discard.weaken.bind fun _ => ?_
  exact hb.weaken.bind fun _ => .pure _

theorem agrees_anonymousFunction :
    Agrees k 1 (anonymousFunction rounds body) (anonymousFunction rounds' body') := by
  refine (Agrees.expect .openAnonymous).discard.bind fun _ => ?_
  refine ((agrees_functionTail hb room room' none).fewer (Nat.le_succ k)).weaken.bind fun f => ?_
  exact (Agrees.expect .closeDefun).discard.weaken.bind fun _ => .pure f

theorem agrees_namedFunction :
    Agrees k 1 (namedFunction rounds body) (namedFunction rounds' body') := by
  refine (Agrees.expect .openNamed).discard.bind fun _ => ?_
  refine (Agrees.expect .functionName).weaken.bind fun name => ?_
  refine (Agrees.expect .functionComma).discard.weaken.bind fun _ => ?_
  refine ((agrees_functionTail hb room room' (some name)).fewer (Nat.le_succ k)).weaken.bind
    fun f => ?_
  exact (Agrees.expect .closeDefun).discard.weaken.bind fun _ => .pure f

theorem agrees_array : Agrees k 1 (array rounds body) (array rounds' body') := by
  intro s short
  have elements := agrees_listUntil hb .rightBracket room room'
  -- the closing bracket is what is taken for certain
  refine ((elements s short).bind (e := 1) fun es t _ shorter => ?_).mono (Nat.le_refl 1)
  exact ((Agrees.expect .closeArray).bind (k := k) fun close => .pure _) t (by omega)

theorem agrees_block : Agrees k 1 (block rounds body) (block rounds' body') := by
  intro s short
  have members := agrees_members hb .rightBrace room room'
  refine ((members s short).bind (e := 1) fun es t _ shorter => ?_).mono (Nat.le_refl 1)
  exact ((Agrees.expect .closeBlock).discard.bind (k := k) fun _ => .pure _) t (by omega)

include he

theorem agrees_primary :
    Agrees (k + 1) 1 (primary rounds expr body) (primary rounds' expr' body') := by
  intro s short
  refine .get ?_
  cases found : s.rest with
  | nil => exact .throw (by simp [Miss.Refuses, found])
  | cons t rest =>
    dsimp only
    split <;> rename_i kind
    case h_6 => exact .skip found short (Agrees.newId.bind fun _ => .pure _)
    case h_7 => exact .skip found short (agrees_anonymousFunction hb room room').weaken
    case h_8 => exact .skip found short (agrees_block hb room room').weaken
    case h_9 => exact .skip found short (agrees_array hb room room').weaken
    case h_10 =>
      refine .skip found short (he.weaken.bind fun inner => ?_)
      exact (Agrees.expect .closeGroup).discard.weaken.bind fun _ => .pure _
    case h_11 =>
      refine .throw ?_
      rw [found]
      rintro _ ⟨⟩
      simp_all [primaryKinds]
    all_goals exact .skip found short (.pure _)

theorem agrees_callsAfter (target : Expr) {m m' : Nat} (le : k ≤ m) (le' : k ≤ m') :
    Agrees k 0 (callsAfter rounds expr body target m)
      (callsAfter rounds' expr' body' target m') := by
  induction k generalizing target m m' with
  | zero => exact .zero
  | succ k ih =>
    obtain ⟨m, rfl⟩ := Nat.exists_eq_add_of_lt le
    obtain ⟨m', rfl⟩ := Nat.exists_eq_add_of_lt le'
    have fewer := Nat.le_succ k
    have further (target : Expr) := ih (he.fewer fewer) (hb.fewer fewer) (by omega) (by omega)
      target (Nat.le_add_right k m) (Nat.le_add_right k m')
    refine .nextKind fun s short => ?_
    cases found : s.rest with
    | nil => exact .pure target
    | cons t rest =>
      simp only [List.head?_cons, Option.map_some]
      split
      · refine (AgreesAt.skip found short ?_).mono (Nat.zero_le 1)
        refine (agrees_listUntil (hb.fewer fewer) .rightParen (by omega) (by omega)).bind
          fun args => ?_
        exact (Agrees.expect .closeCall).weaken.bind fun close => further _
      · refine (AgreesAt.skip found short ?_).mono (Nat.zero_le 1)
        refine (he.fewer fewer).weaken.bind fun lower => (Agrees.accept .colon).bind fun colon => ?_
        cases colon with
        | false => exact (Agrees.expect .closeIndex).weaken.bind fun close => further _
        | true =>
          refine (he.fewer fewer).weaken.bind fun upper => ?_
          exact (Agrees.expect .closeIndex).weaken.bind fun close => further _
      · exact .pure target

theorem agrees_call : Agrees (k + 1) 1 (call rounds expr body) (call rounds' expr' body') :=
  (agrees_primary he hb room room').strict fun target =>
    agrees_callsAfter he hb room room' target room room'

end

section

variable {rounds rounds' : Nat} {expr expr' body body' : Production Expr}
  (he : Agrees k 1 expr expr') (hb : Agrees k 1 body body') (room : k < rounds)
  (room' : k < rounds')

include he hb room room'

theorem agrees_unary : Agrees (k + 1) 1 (unary rounds expr body) (unary rounds' expr' body') :=
  agrees_signsThen (agrees_call he hb (Nat.le_of_lt room) (Nat.le_of_lt room')) room room'

theorem agrees_factor : Agrees (k + 1) 1 (factor rounds expr body) (factor rounds' expr' body') :=
  agrees_chain (agrees_unary he hb room room') _ _ (Nat.le_of_lt room) (Nat.le_of_lt room')

theorem agrees_term : Agrees (k + 1) 1 (term rounds expr body) (term rounds' expr' body') :=
  agrees_chain (agrees_factor he hb room room') _ _ (Nat.le_of_lt room) (Nat.le_of_lt room')

theorem agrees_comparison :
    Agrees (k + 1) 1 (comparison rounds expr body) (comparison rounds' expr' body') :=
  agrees_chain (agrees_term he hb room room') _ _ (Nat.le_of_lt room) (Nat.le_of_lt room')

theorem agrees_equality :
    Agrees (k + 1) 1 (equality rounds expr body) (equality rounds' expr' body') :=
  agrees_chain (agrees_comparison he hb room room') _ _ (Nat.le_of_lt room) (Nat.le_of_lt room')

theorem agrees_conjunction :
    Agrees (k + 1) 1 (conjunction rounds expr body) (conjunction rounds' expr' body') :=
  agrees_chain (agrees_equality he hb room room') _ _ (Nat.le_of_lt room) (Nat.le_of_lt room')

theorem agrees_disjunction :
    Agrees (k + 1) 1 (disjunction rounds expr body) (disjunction rounds' expr' body') :=
  agrees_chain (agrees_conjunction he hb room room') _ _ (Nat.le_of_lt room) (Nat.le_of_lt room')

theorem agrees_ternary :
    Agrees (k + 1) 1 (ternary rounds expr body) (ternary rounds' expr' body') := by
  refine (agrees_disjunction he hb room room').strict fun condition => ?_
  refine (Agrees.takeOneOf [.questionMark]).bind fun op => ?_
  cases op with
  | none => exact .pure condition
  | some op =>
    refine hb.weaken.bind fun yes => (Agrees.expect .ternaryColon).discard.weaken.bind fun _ => ?_
    exact hb.weaken.bind fun no => .pure _

/-! ### Keyword forms -/

omit he room room' in
theorem agrees_declaration : Agrees k 1 (declaration body) (declaration body') := by
  refine (Agrees.expect .openVar).discard.bind fun _ => ?_
  refine (Agrees.expect .varName).weaken.bind fun name => ?_
  refine (Agrees.accept .comma).bind fun comma => ?_
  cases comma with
  | false => exact (Agrees.expect .closeVar).discard.weaken.bind fun _ => .pure _
  | true =>
    refine hb.weaken.bind fun value => ?_
    exact (Agrees.expect .closeVar).discard.weaken.bind fun _ => .pure _

omit room room' in
theorem agrees_assignment : Agrees k 1 (assignment expr body) (assignment expr' body') := by
  -- the comma, the value and what closes are the same for names and elements
  have tail (make : NodeId → Expr → Expr) :
      Agrees k 0
        (do
          discard (expect .assignComma)
          let value ← body
          discard (expect .closeAssign)
          return make (← newId) value)
        (do
          discard (expect .assignComma)
          let value ← body'
          discard (expect .closeAssign)
          return make (← newId) value) := by
    refine (Agrees.expect .assignComma).discard.weaken.bind fun _ => hb.weaken.bind fun value => ?_
    refine (Agrees.expect .closeAssign).discard.weaken.bind fun _ => ?_
    exact Agrees.newId.bind fun _ => .pure _
  refine (Agrees.expect .openAssign).discard.bind fun _ => ?_
  refine (Agrees.expect .assignName).weaken.bind fun name => ?_
  refine (Agrees.accept .leftBracket).bind fun bracket => ?_
  cases bracket with
  | false => exact tail fun id value => .assign id name value
  | true =>
    refine he.weaken.bind fun index => (Agrees.expect .closeElement).discard.weaken.bind fun _ => ?_
    exact tail fun id value => .assignElement id name index value

omit he hb room room' in
theorem agrees_importing : Agrees k 1 importing importing := by
  refine (Agrees.expect .openImport).discard.bind fun _ => ?_
  refine (Agrees.expect .importPath).weaken.bind fun path => ?_
  exact (Agrees.expect .closeImport).discard.weaken.bind fun _ => .pure _

omit he room room' in
theorem agrees_looping (keyword : Token) :
    Agrees k 1 (looping body keyword) (looping body' keyword) := by
  refine (Agrees.expect .openWhile).discard.bind fun _ => hb.weaken.bind fun first => ?_
  refine (Agrees.accept .comma).bind fun comma => ?_
  cases comma with
  | false => exact (Agrees.expect .closeWhile).discard.weaken.bind fun _ => .pure _
  | true =>
    refine hb.weaken.bind fun second => ?_
    exact (Agrees.expect .closeWhile).discard.weaken.bind fun _ => .pure _

theorem agrees_condition :
    Agrees (k + 1) 1 (caseCondition (ternary rounds expr body) rounds)
      (caseCondition (ternary rounds' expr' body') rounds') :=
  agrees_caseCondition (agrees_ternary he hb room room') room room'

theorem agrees_matching (keyword : Token) :
    Agrees (k + 1) 1 (matching rounds expr body keyword)
      (matching rounds' expr' body' keyword) := by
  have case : Agrees (k + 1) 1 (matchCase rounds expr body) (matchCase rounds' expr' body') := by
    refine (agrees_condition he hb room room').strict fun condition => ?_
    refine (Agrees.expect .caseArrow).weaken.bind fun arrow => ?_
    exact hb.weaken.bind fun e => .pure _
  refine (agrees_ternary he hb room room').strict fun scrutinee => ?_
  refine (Agrees.expect .openMatch).discard.weaken.bind fun _ => ?_
  refine (agrees_members (case.fewer (Nat.le_succ k)) .rightBrace (Nat.le_of_lt room)
    (Nat.le_of_lt room')).bind fun cases => ?_
  exact (Agrees.expect .closeMatch).discard.weaken.bind fun _ => .pure _

theorem agrees_expression :
    Agrees (k + 1) 1 (expression rounds expr body) (expression rounds' expr' body') := by
  intro s short
  have ternary := agrees_ternary he hb room room' s short
  refine .get ?_
  cases found : s.rest with
  | nil => exact ternary
  | cons t rest =>
    dsimp only
    split
    case h_1 =>
      split
      · have named := agrees_namedFunction hb (Nat.le_of_lt room) (Nat.le_of_lt room')
        exact .skip found short named.weaken
      · exact ternary
    case h_2 => exact .skip found short (agrees_declaration hb).weaken
    case h_3 => exact .skip found short (agrees_assignment he hb).weaken
    case h_4 => exact .skip found short agrees_importing.weaken
    case h_5 => exact .skip found short (agrees_looping hb t).weaken
    case h_6 =>
      have matching := (agrees_matching he hb room room' t).fewer (Nat.le_succ k)
      exact .skip found short matching.weaken
    case h_7 => exact .skip found short (.pure _)
    case h_8 => exact ternary

theorem agrees_functionOrExpression :
    Agrees (k + 1) 1 (functionOrExpression rounds expr body)
      (functionOrExpression rounds' expr' body') := by
  intro s short
  refine .get ?_
  split
  · exact agrees_functionTail hb (Nat.le_of_lt room) (Nat.le_of_lt room') none s short
  · exact agrees_expression he hb room room' s short

end

/-- The productions that give an expression. -/
inductive Part
  | expression | functionOrExpression
  | declaration | assignment | importing | looping (keyword : Token) | matching (keyword : Token)
  | condition | namedFunction | anonymousFunction | functionTail (name : Option Token)
  | ternary | disjunction | conjunction | equality | comparison | term | factor | unary
  | call | primary | block | array

/-- What the production does, given the productions for what is nested. -/
def Part.production (rounds : Nat) (expr body : Production Expr) : Part → Production Expr
  | expression => Grammar.expression rounds expr body
  | functionOrExpression => Grammar.functionOrExpression rounds expr body
  | declaration => Grammar.declaration body
  | assignment => Grammar.assignment expr body
  | importing => Grammar.importing
  | looping keyword => Grammar.looping body keyword
  | matching keyword => Grammar.matching rounds expr body keyword
  | condition => caseCondition (Grammar.ternary rounds expr body) rounds
  | namedFunction => Grammar.namedFunction rounds body
  | anonymousFunction => Grammar.anonymousFunction rounds body
  | functionTail name => Grammar.functionTail rounds body name
  | ternary => Grammar.ternary rounds expr body
  | disjunction => Grammar.disjunction rounds expr body
  | conjunction => Grammar.conjunction rounds expr body
  | equality => Grammar.equality rounds expr body
  | comparison => Grammar.comparison rounds expr body
  | term => Grammar.term rounds expr body
  | factor => Grammar.factor rounds expr body
  | unary => Grammar.unary rounds expr body
  | call => Grammar.call rounds expr body
  | primary => Grammar.primary rounds expr body
  | block => Grammar.block rounds body
  | array => Grammar.array rounds body

section

variable {rounds rounds' : Nat} {expr expr' body body' : Production Expr}

/-- On fewer tokens than there are rounds each production makes progress, and does the same whatever
the bounds are, if the productions for what is nested do so. -/
theorem agrees_part (he : Agrees k 1 expr expr') (hb : Agrees k 1 body body') (room : k ≤ rounds)
    (room' : k ≤ rounds') (part : Part) :
    Agrees k 1 (part.production rounds expr body) (part.production rounds' expr' body') := by
  cases k with
  | zero => exact .zero
  | succ k =>
    have he' := he.fewer (Nat.le_succ k)
    have hb' := hb.fewer (Nat.le_succ k)
    have few := Nat.le_of_lt room
    have few' := Nat.le_of_lt room'
    cases part with
    | expression => exact agrees_expression he' hb' room room'
    | functionOrExpression => exact agrees_functionOrExpression he' hb' room room'
    | declaration => exact agrees_declaration hb
    | assignment => exact agrees_assignment he hb
    | importing => exact agrees_importing
    | looping keyword => exact agrees_looping hb keyword
    | matching keyword => exact agrees_matching he' hb' room room' keyword
    | condition => exact agrees_condition he' hb' room room'
    | namedFunction => exact agrees_namedFunction hb room room'
    | anonymousFunction => exact agrees_anonymousFunction hb room room'
    | functionTail name => exact agrees_functionTail hb' few few' name
    | ternary => exact agrees_ternary he' hb' room room'
    | disjunction => exact agrees_disjunction he' hb' room room'
    | conjunction => exact agrees_conjunction he' hb' room room'
    | equality => exact agrees_equality he' hb' room room'
    | comparison => exact agrees_comparison he' hb' room room'
    | term => exact agrees_term he' hb' room room'
    | factor => exact agrees_factor he' hb' room room'
    | unary => exact agrees_unary he' hb' room room'
    | call => exact agrees_call he' hb' few few'
    | primary => exact agrees_primary he' hb' few few'
    | block => exact agrees_block hb room room'
    | array => exact agrees_array hb room room'

end

/-! ### Reading without bounds -/

/-- Productions for the two places that read as the grammar says, and that read what is nested
themselves. All numbers of rounds that are larger than the number of tokens are equally good. -/
structure Unbounded (P : Place → Production Expr) : Prop where
  /-- What stands at the place of an expression. -/
  expr : ∀ s rounds, s.rest.length < rounds →
    P .expr s = expression rounds (P .expr) (P .body) s
  /-- What stands at the place of a body. -/
  body : ∀ s rounds, s.rest.length < rounds →
    P .body s = functionOrExpression rounds (P .expr) (P .body) s

/-- Reads what stands at a place, however deep things are nested in it. -/
def parse (p : Place) : Production Expr := fun s => read (s.rest.length + 1) p s

/-- On fewer than `n` tokens a nesting of `n` is as good as any that is deeper. -/
theorem agrees_read {n m : Nat} (le : n ≤ m) (p : Place) : Agrees n 1 (read n p) (read m p) := by
  induction n generalizing m p with
  | zero => exact .zero
  | succ n ih =>
    obtain ⟨m, rfl⟩ := Nat.exists_eq_add_of_lt le
    have inside (p : Place) : Agrees n 1 (read n p) (read (n + m) p) := ih (Nat.le_add_right n m) p
    cases p with
    | expr => exact agrees_expression (inside .expr) (inside .body) (Nat.lt_succ_self n) le
    | body =>
      exact agrees_functionOrExpression (inside .expr) (inside .body) (Nat.lt_succ_self n) le

theorem agrees_read_parse (n : Nat) (p : Place) : Agrees n 1 (read n p) (parse p) := by
  intro s short
  obtain ⟨-, leaves⟩ := agrees_read (Nat.le_refl n) p s short
  exact ⟨(agrees_read short p s (Nat.lt_succ_self _)).1.symm, leaves⟩

/-- Reading without bounds makes progress. -/
theorem agrees_parse (k : Nat) (p : Place) : Agrees k 1 (parse p) (parse p) := by
  intro s short
  obtain ⟨same, leaves⟩ := agrees_read_parse k p s short
  exact ⟨rfl, same ▸ leaves⟩

/-- What a production does without bounds. -/
def Part.read (part : Part) : Production Expr := fun s =>
  part.production (s.rest.length + 1) (parse .expr) (parse .body) s

theorem Part.agrees_read (part : Part) {rounds : Nat} {s : Cursor} (room : s.rest.length < rounds) :
    part.production rounds (parse .expr) (parse .body) s = part.read s ∧
      Leaves 1 s (part.read s) := by
  obtain ⟨same, leaves⟩ := agrees_part (agrees_parse (s.rest.length + 1) .expr)
    (agrees_parse _ .body) (Nat.le_refl _) room part s (Nat.lt_succ_self _)
  exact ⟨same, leaves⟩

theorem unbounded_parse : Unbounded parse where
  expr _ _ room :=
    (agrees_expression (agrees_read_parse _ .expr) (agrees_read_parse _ .body)
      (Nat.lt_succ_self _) room _ (Nat.lt_succ_self _)).1.symm
  body _ _ room :=
    (agrees_functionOrExpression (agrees_read_parse _ .expr) (agrees_read_parse _ .body)
      (Nat.lt_succ_self _) room _ (Nat.lt_succ_self _)).1.symm

theorem Unbounded.agrees_read {P : Place → Production Expr} (h : Unbounded P) (n : Nat)
    (p : Place) : Agrees n 1 (read n p) (P p) := by
  induction n generalizing p with
  | zero => exact .zero
  | succ n ih =>
    intro s short
    have room := Nat.lt_succ_self n
    cases p with
    | expr =>
      rw [AgreesAt, h.expr s (n + 1) short]
      exact agrees_expression (ih .expr) (ih .body) room room s short
    | body =>
      rw [AgreesAt, h.body s (n + 1) short]
      exact agrees_functionOrExpression (ih .expr) (ih .body) room room s short

/-- There is just one way to read without bounds, since what is nested has fewer tokens left. -/
theorem Unbounded.eq_parse {P : Place → Production Expr} (h : Unbounded P) : P = parse := by
  funext p s
  exact (h.agrees_read (s.rest.length + 1) p s (Nat.lt_succ_self _)).1

end Grammar

end FoxScript
