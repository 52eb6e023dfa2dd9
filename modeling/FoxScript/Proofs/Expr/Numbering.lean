import FoxScript.Proofs.Scope.Context

/-!
# Numbers of uses

Reading gives each use of a name a number of its own: the uses in a tree that was read have numbers
from the one at which reading started up to the one at which it stopped, and no number twice.

## Main statements

* `Parse.numbered_ofTokens`, `Import.numbered_read`: the uses in a program that was read are numbered
  apart, from the given number on.
-/
namespace FoxScript

theorem Expr.flatMap_ids (es : List Expr) : es.flatMap Expr.ids = Expr.idsOf es := by
  induction es with
  | nil => rfl
  | cons e es ih => simp [Expr.idsOf, Expr.ids, ih]

namespace Grammar

/-- The numbers differ and lie between two bounds. -/
def Numbered (low : Nat) (ids : List NodeId) (high : Nat) : Prop :=
  ids.Nodup ∧ ∀ id ∈ ids, low ≤ id.index ∧ id.index < high

theorem Numbered.perm {low high : Nat} {ids ids' : List NodeId} (h : Numbered low ids high)
    (p : ids.Perm ids') : Numbered low ids' high :=
  ⟨p.nodup_iff.1 h.1, fun id hid => h.2 id (p.mem_iff.2 hid)⟩

/-- A production after which the numbers `ids`, those of `before` among them, are in use. -/
def Numbers {α : Type} (before : List NodeId) (act : Production α) (ids : α → List NodeId) : Prop :=
  ∀ low s, Numbered low before s.fresh → low ≤ s.fresh →
    match act s with
    | .ok a t => s.fresh ≤ t.fresh ∧ Numbered low (ids a) t.fresh
    | .error _ t => s.fresh ≤ t.fresh

/-- A production that uses the numbers `ids` besides those before it. -/
def Counts {α : Type} (act : Production α) (ids : α → List NodeId) : Prop :=
  ∀ before, Numbers before act fun a => before ++ ids a

/-- A production that uses no number. -/
def Quiet {α : Type} (act : Production α) : Prop := ∀ s, match act s with
  | .ok _ t => t.fresh = s.fresh
  | .error _ t => t.fresh = s.fresh

namespace Numbers

variable {α β : Type} {before : List NodeId} {act : Production α} {ids : α → List NodeId}

theorem pure {a : α} (h : before.Perm (ids a)) : Numbers before (pure a) ids :=
  fun _ _ numbered _ => ⟨Nat.le_refl _, numbered.perm h⟩

theorem bind {next : α → Production β} {ids' : β → List NodeId} (h : Numbers before act ids)
    (hn : ∀ a, Numbers (ids a) (next a) ids') : Numbers before (act >>= next) ids' := by
  intro low s numbered le
  have first := h low s numbered le
  show match EStateM.bind act next s with
    | .ok a t => s.fresh ≤ t.fresh ∧ Numbered low (ids' a) t.fresh
    | .error _ t => s.fresh ≤ t.fresh
  rw [EStateM.bind]
  cases ha : act s with
  | error e t => simpa [ha] using first
  | ok a t =>
    simp only [ha] at first
    have second := hn a low t first.2 (Nat.le_trans le first.1)
    simp only
    cases hb : next a t with
    | error e u => exact Nat.le_trans first.1 (by simpa [hb] using second)
    | ok b u =>
      simp only [hb] at second
      exact ⟨Nat.le_trans first.1 second.1, second.2⟩

theorem quiet (h : Quiet act) : Numbers before act fun _ => before := by
  intro low s numbered _
  have same := h s
  cases ha : act s <;> simp only [ha] at same ⊢
  · exact ⟨Nat.le_of_eq same.symm, same ▸ numbered⟩
  · exact Nat.le_of_eq same.symm

theorem throw (miss : Miss) : Numbers before (throw miss : Production α) ids :=
  fun _ _ _ _ => Nat.le_refl _

theorem newId : Numbers before newId fun id => id :: before := by
  intro low s numbered le
  refine ⟨Nat.le_succ _, List.nodup_cons.2 ⟨fun h => ?_, numbered.1⟩, fun id hid => ?_⟩
  · exact Nat.lt_irrefl _ (numbered.2 _ h).2
  · obtain rfl | hid := List.mem_cons.1 hid
    · exact ⟨le, Nat.lt_succ_self _⟩
    · exact ⟨(numbered.2 id hid).1, Nat.lt_succ_of_lt (numbered.2 id hid).2⟩

/-- After a quiet production. -/
theorem after {next : α → Production β} {ids' : β → List NodeId} (h : Quiet act)
    (hn : ∀ a, Numbers before (next a) ids') : Numbers before (act >>= next) ids' :=
  (quiet h).bind hn

end Numbers

/-! ### Quiet productions -/

theorem quiet_get : Quiet (get : Production Cursor) := fun _ => rfl

theorem quiet_throw {α : Type} (miss : Miss) : Quiet (throw miss : Production α) := fun _ => rfl

theorem quiet_nextKind : Quiet nextKind? := fun _ => rfl

theorem quiet_skip : Quiet skip := fun _ => rfl

theorem quiet_takeOneOf (kinds : List TokenKind) : Quiet (takeOneOf? kinds) := by
  intro s
  obtain ⟨rest, fresh⟩ := s
  cases rest with
  | nil => rfl
  | cons t rest =>
    rw [takeOneOf?_cons]
    by_cases among : kinds.contains t.kind
    · rw [if_pos among]
    · rw [if_neg among]

namespace Quiet

variable {α β : Type} {act : Production α}

theorem pure (a : α) : Quiet (pure a : Production α) := fun _ => rfl

theorem bind {next : α → Production β} (h : Quiet act) (hn : ∀ a, Quiet (next a)) :
    Quiet (act >>= next) := by
  intro s
  have first := h s
  simp only [Bind.bind, EStateM.bind]
  cases ha : act s with
  | error e t => simpa [ha] using first
  | ok a t =>
    simp only [ha] at first
    simp only [← first]
    exact hn a t

theorem discard (h : Quiet act) : Quiet (discard act) := h.bind fun _ => .pure ()

end Quiet

theorem quiet_accept (kind : TokenKind) : Quiet (accept kind) :=
  (quiet_takeOneOf [kind]).bind fun _ => .pure _

theorem quiet_expect (e : Expectation) : Quiet (expect e) := by
  refine (quiet_takeOneOf [e.kind]).bind fun t => ?_
  cases t with
  | none => exact quiet_throw _
  | some t => exact .pure t

/-- A list of quiet parts is quiet. -/
theorem Quiet.sepByComma {α : Type} {item : Production α} (h : Quiet item) (n : Nat) :
    Quiet (sepByComma item n) := by
  induction n with
  | zero => exact .pure []
  | succ n ih =>
    refine h.bind fun a => (quiet_accept .comma).bind fun more => ?_
    cases more with
    | false => exact .pure [a]
    | true => exact ih.bind fun as => .pure (a :: as)

theorem Quiet.listUntil {α : Type} {item : Production α} (h : Quiet item) (rounds : Nat)
    (close : TokenKind) : Quiet (listUntil rounds close item) := by
  refine quiet_nextKind.bind fun k => ?_
  split
  · exact .pure []
  · exact h.sepByComma rounds

/-! ### Lists and chains -/

namespace Counts

variable {α : Type} {item : Production α} {ids : α → List NodeId}

theorem sepByComma (h : Counts item ids) (n : Nat) :
    Counts (sepByComma item n) fun as => as.flatMap ids := by
  induction n with
  | zero => exact fun before => .pure (by simp)
  | succ n ih =>
    intro before
    refine (h before).bind fun a => .after (quiet_accept .comma) fun more => ?_
    cases more
    · exact .pure (by simp)
    · exact (ih _).bind fun as => .pure (by simp)

theorem listUntil (h : Counts item ids) (rounds : Nat) (close : TokenKind) :
    Counts (listUntil rounds close item) fun as => as.flatMap ids := by
  intro before
  refine .after quiet_nextKind fun k => ?_
  split
  · exact .pure (by simp)
  · exact h.sepByComma rounds before

theorem members (h : Counts item ids) (close : TokenKind) (n : Nat) :
    Counts (members close item n) fun as => as.flatMap ids := by
  induction n with
  | zero => exact fun before => .pure (by simp)
  | succ n ih =>
    intro before
    refine .after quiet_nextKind fun k => ?_
    cases k with
    | none => exact .pure (by simp)
    | some k =>
      simp only
      split
      · exact .pure (by simp)
      · refine (h before).bind fun a => .after (quiet_accept .comma).discard fun _ => ?_
        exact (ih _).bind fun as => .pure (by simp)

end Counts

/-- An operator takes the numbers of its operands and no other. -/
def Joins (make : Expr → Token → Expr → Expr) : Prop :=
  ∀ left op right, (make left op right).ids = left.ids ++ right.ids

theorem joins_binary : Joins .binary := fun _ _ _ => by simp [Expr.ids]

theorem joins_logical : Joins .logical := fun _ _ _ => by simp [Expr.ids]

section

variable {make : Expr → Token → Expr → Expr} {operand : Production Expr}

theorem Counts.chainFrom (joins : Joins make) (h : Counts operand Expr.ids) (kinds : List TokenKind)
    (left : Expr) (n : Nat) (before : List NodeId) :
    Numbers (before ++ left.ids) (chainFrom kinds make operand left n) fun e => before ++ e.ids := by
  induction n generalizing left with
  | zero => exact .pure (.refl _)
  | succ n ih =>
    refine .after (quiet_takeOneOf kinds) fun op => ?_
    cases op with
    | none => exact .pure (.refl _)
    | some op =>
      refine (h _).bind fun right => ?_
      simpa [joins left op right] using ih (make left op right)

theorem Counts.chain (joins : Joins make) (h : Counts operand Expr.ids) (rounds : Nat)
    (kinds : List TokenKind) : Counts (chain rounds kinds make operand) Expr.ids :=
  fun before => (h before).bind fun left => Counts.chainFrom joins h kinds left rounds before

end

/-! ### Productions -/

section

variable {rounds : Nat} {expr body : Production Expr}

theorem counts_functionTail (hb : Counts body Expr.ids) (name : Option Token) :
    Counts (functionTail rounds body name) Expr.ids := by
  intro before
  refine .after (quiet_expect .openParameters).discard fun _ => ?_
  refine .after ((quiet_expect .parameter).listUntil rounds .rightParen) fun params => ?_
  refine .after (quiet_expect .closeParameters).discard fun _ => ?_
  refine .after (quiet_expect .functionArrow).discard fun _ => ?_
  exact (hb before).bind fun e => .pure (by simp [Expr.ids])

theorem counts_primary (he : Counts expr Expr.ids) (hb : Counts body Expr.ids) :
    Counts (primary rounds expr body) Expr.ids := by
  intro before
  refine .after quiet_get fun s => ?_
  cases s.rest with
  | nil => exact .throw _
  | cons t rest =>
    simp only
    split
    · exact .after quiet_skip fun _ => .pure (by simp [Expr.ids])
    · exact .after quiet_skip fun _ => .pure (by simp [Expr.ids])
    · exact .after quiet_skip fun _ => .pure (by simp [Expr.ids])
    · exact .after quiet_skip fun _ => .pure (by simp [Expr.ids])
    · exact .after quiet_skip fun _ => .pure (by simp [Expr.ids])
    · refine .after quiet_skip fun _ => Numbers.newId.bind fun id => .pure ?_
      have perm : ([id] ++ before).Perm (before ++ [id]) := List.perm_append_comm
      simpa [Expr.ids] using perm
    · refine .after quiet_skip fun _ => .after (quiet_expect .openAnonymous).discard fun _ => ?_
      refine (counts_functionTail hb none before).bind fun f => ?_
      exact .after (quiet_expect .closeDefun).discard fun _ => .pure (.refl _)
    · refine .after quiet_skip fun _ => (hb.members .rightBrace rounds before).bind fun es => ?_
      refine .after (quiet_expect .closeBlock).discard fun _ => .pure ?_
      simp [Expr.ids, Expr.flatMap_ids, Expr.idsOf]
    · refine .after quiet_skip fun _ => (hb.listUntil rounds .rightBracket before).bind fun es => ?_
      refine .after (quiet_expect .closeArray) fun close => .pure ?_
      simp [Expr.ids, Expr.flatMap_ids, Expr.idsOf]
    · refine .after quiet_skip fun _ => (he before).bind fun e => ?_
      refine .after (quiet_expect .closeGroup).discard fun _ => .pure ?_
      simp [Expr.ids]
    · exact .throw _

theorem counts_callsAfter (he : Counts expr Expr.ids) (hb : Counts body Expr.ids) (target : Expr)
    (n : Nat) (before : List NodeId) :
    Numbers (before ++ target.ids) (callsAfter rounds expr body target n)
      fun e => before ++ e.ids := by
  induction n generalizing target with
  | zero => exact .pure (.refl _)
  | succ n ih =>
    refine .after quiet_nextKind fun k => ?_
    split
    · refine .after quiet_skip fun _ => (hb.listUntil rounds .rightParen _).bind fun args => ?_
      refine .after (quiet_expect .closeCall) fun close => ?_
      simpa [Expr.ids, Expr.flatMap_ids, Expr.idsOf] using ih (.call target args close)
    · refine .after quiet_skip fun _ => (he _).bind fun lower => ?_
      refine .after (quiet_accept .colon) fun colon => ?_
      cases colon
      · refine .after (quiet_expect .closeIndex) fun close => ?_
        simpa [Expr.ids] using ih (.index target lower close)
      · refine (he _).bind fun upper => .after (quiet_expect .closeIndex) fun close => ?_
        simpa [Expr.ids] using ih (.slice target lower upper close)
    · exact .pure (.refl _)

theorem counts_call (he : Counts expr Expr.ids) (hb : Counts body Expr.ids) :
    Counts (call rounds expr body) Expr.ids :=
  fun before => (counts_primary he hb before).bind fun target =>
    counts_callsAfter he hb target rounds before

theorem counts_signsThen {operand : Production Expr} (h : Counts operand Expr.ids) (n : Nat) :
    Counts (signsThen operand n) Expr.ids := by
  induction n with
  | zero => exact h
  | succ n ih =>
    refine fun before => .after (quiet_takeOneOf _) fun op => ?_
    cases op with
    | none => exact h before
    | some op => exact (ih before).bind fun e => .pure (by simp [Expr.ids])

theorem counts_disjunction (he : Counts expr Expr.ids) (hb : Counts body Expr.ids) :
    Counts (disjunction rounds expr body) Expr.ids := by
  have unary : Counts (unary rounds expr body) Expr.ids := counts_signsThen (counts_call he hb) rounds
  have factor := Counts.chain joins_binary unary rounds [.star, .slash]
  have term := Counts.chain joins_binary factor rounds [.minus, .plus]
  have comparison := Counts.chain joins_binary term rounds
    [.greater, .greaterEqual, .less, .lessEqual]
  have equality := Counts.chain joins_binary comparison rounds [.bangEqual, .equalEqual]
  exact .chain joins_logical (.chain joins_logical equality rounds [.and]) rounds [.or]

theorem counts_ternary (he : Counts expr Expr.ids) (hb : Counts body Expr.ids) :
    Counts (ternary rounds expr body) Expr.ids := by
  refine fun before => (counts_disjunction he hb before).bind fun condition => ?_
  refine .after (quiet_takeOneOf _) fun op => ?_
  cases op with
  | none => exact .pure (.refl _)
  | some op =>
    refine (hb _).bind fun yes => .after (quiet_expect .ternaryColon).discard fun _ => ?_
    exact (hb _).bind fun no => .pure (by simp [Expr.ids])

/-! ### Keyword forms -/

theorem counts_declaration (hb : Counts body Expr.ids) : Counts (declaration body) Expr.ids := by
  intro before
  refine .after (quiet_expect .openVar).discard fun _ => .after (quiet_expect .varName) fun name => ?_
  refine .after (quiet_accept .comma) fun comma => ?_
  cases comma
  · exact .after (quiet_expect .closeVar).discard fun _ => .pure (by simp [Expr.ids])
  · refine (hb _).bind fun value => .after (quiet_expect .closeVar).discard fun _ => .pure ?_
    simp [Expr.ids]

theorem counts_assignment (he : Counts expr Expr.ids) (hb : Counts body Expr.ids) :
    Counts (assignment expr body) Expr.ids := by
  intro before
  refine .after (quiet_expect .openAssign).discard fun _ => ?_
  refine .after (quiet_expect .assignName) fun name => ?_
  refine .after (quiet_accept .leftBracket) fun bracket => ?_
  cases bracket
  · refine .after (quiet_expect .assignComma).discard fun _ => (hb _).bind fun value => ?_
    refine .after (quiet_expect .closeAssign).discard fun _ => Numbers.newId.bind fun id => .pure ?_
    simp only [Expr.ids, Expr.uses, List.map_cons]
    exact List.perm_middle.symm
  · refine (he _).bind fun i => .after (quiet_expect .closeElement).discard fun _ => ?_
    refine .after (quiet_expect .assignComma).discard fun _ => (hb _).bind fun value => ?_
    refine .after (quiet_expect .closeAssign).discard fun _ => Numbers.newId.bind fun id => .pure ?_
    simp only [Expr.ids, Expr.uses, List.map_cons, List.map_append, List.append_assoc]
    exact List.perm_middle.symm

theorem counts_importing : Counts importing Expr.ids := by
  intro before
  refine .after (quiet_expect .openImport).discard fun _ => ?_
  refine .after (quiet_expect .importPath) fun path => ?_
  exact .after (quiet_expect .closeImport).discard fun _ => .pure (by simp [Expr.ids])

theorem counts_looping (hb : Counts body Expr.ids) (keyword : Token) :
    Counts (looping body keyword) Expr.ids := by
  intro before
  refine .after (quiet_expect .openWhile).discard fun _ => (hb _).bind fun first => ?_
  refine .after (quiet_accept .comma) fun comma => ?_
  cases comma
  · refine .after (quiet_expect .closeWhile).discard fun _ => .pure ?_
    simp [Expr.ids]
  · refine (hb _).bind fun second => .after (quiet_expect .closeWhile).discard fun _ => .pure ?_
    simp [Expr.ids]

theorem counts_caseCondition {value : Production Expr} (h : Counts value Expr.ids) (n : Nat) :
    Counts (caseCondition value n) Expr.ids := by
  induction n with
  | zero => exact h
  | succ n ih =>
    refine fun before => .after (quiet_takeOneOf _) fun wildcard => ?_
    cases wildcard with
    | some wildcard => exact .pure (by simp [Expr.ids])
    | none =>
      refine (h _).bind fun left => .after (quiet_takeOneOf _) fun pipe => ?_
      cases pipe with
      | some pipe => exact (ih _).bind fun right => .pure (by simp [Expr.ids])
      | none => exact .pure (.refl _)

/-- The numbers of the uses in a case. -/
def caseIds (c : Case) : List NodeId := c.condition.ids ++ c.body.ids

theorem flatMap_caseIds (cs : List Case) : cs.flatMap caseIds = (Case.usesOf cs).map Use.id := by
  induction cs with
  | nil => rfl
  | cons c cs ih =>
    obtain ⟨arrow, condition, body⟩ := c
    simp [caseIds, Case.condition, Case.body, Expr.ids, ih]

theorem counts_matching (he : Counts expr Expr.ids) (hb : Counts body Expr.ids) (keyword : Token) :
    Counts (matching rounds expr body keyword) Expr.ids := by
  have case : Counts (matchCase rounds expr body) caseIds := by
    refine fun before => (counts_caseCondition (counts_ternary he hb) rounds before).bind
      fun condition => .after (quiet_expect .caseArrow) fun arrow => (hb _).bind fun e => .pure ?_
    simp [caseIds, Case.condition, Case.body]
  intro before
  refine (counts_ternary he hb before).bind fun scrutinee => ?_
  refine .after (quiet_expect .openMatch).discard fun _ => ?_
  refine (case.members .rightBrace rounds _).bind fun cases => ?_
  refine .after (quiet_expect .closeMatch).discard fun _ => .pure ?_
  simp [Expr.ids, flatMap_caseIds]

theorem counts_namedFunction (hb : Counts body Expr.ids) :
    Counts (namedFunction rounds body) Expr.ids := by
  intro before
  refine .after (quiet_expect .openNamed).discard fun _ => ?_
  refine .after (quiet_expect .functionName) fun name => ?_
  refine .after (quiet_expect .functionComma).discard fun _ => ?_
  refine (counts_functionTail hb (some name) before).bind fun f => ?_
  exact .after (quiet_expect .closeDefun).discard fun _ => .pure (.refl _)

theorem counts_expression (he : Counts expr Expr.ids) (hb : Counts body Expr.ids) :
    Counts (expression rounds expr body) Expr.ids := by
  intro before
  refine .after quiet_get fun s => ?_
  cases s.rest with
  | nil => exact counts_ternary he hb before
  | cons t rest =>
    simp only
    split
    · split
      · exact .after quiet_skip fun _ => counts_namedFunction hb before
      · exact counts_ternary he hb before
    · exact .after quiet_skip fun _ => counts_declaration hb before
    · exact .after quiet_skip fun _ => counts_assignment he hb before
    · exact .after quiet_skip fun _ => counts_importing before
    · exact .after quiet_skip fun _ => counts_looping hb t before
    · exact .after quiet_skip fun _ => counts_matching he hb t before
    · exact .after quiet_skip fun _ => .pure (by simp [Expr.ids])
    · exact counts_ternary he hb before

theorem counts_functionOrExpression (he : Counts expr Expr.ids) (hb : Counts body Expr.ids) :
    Counts (functionOrExpression rounds expr body) Expr.ids := by
  refine fun before => .after quiet_get fun s => ?_
  split
  · exact counts_functionTail hb none before
  · exact counts_expression he hb before

end

theorem counts_read (n : Nat) (place : Place) : Counts (read n place) Expr.ids := by
  induction n generalizing place with
  | zero => cases place <;> exact fun before => .throw _
  | succ n ih =>
    cases place
    · exact counts_expression (ih .expr) (ih .body)
    · exact counts_functionOrExpression (ih .expr) (ih .body)

end Grammar

/-! ### Programs -/

open Grammar

theorem Parse.numbered_ofRest (all : List Token) (depth n : Nat) (s : Cursor) :
    let p := Parse.ofRest all depth n s
    s.fresh ≤ p.fresh ∧ Numbered s.fresh (Expr.idsOf p.exprs) p.fresh := by
  have none (low high : Nat) : Numbered low (Expr.idsOf []) high := by
    simp [Numbered, Expr.idsOf]
  induction n generalizing s with
  | zero => exact ⟨Nat.le_refl _, none _ _⟩
  | succ n ih =>
    rw [Parse.ofRest]
    split
    · exact ⟨Nat.le_refl _, none _ _⟩
    · have read := counts_read depth .expr [] s.fresh s (by simp [Numbered]) (Nat.le_refl _)
      split
      · rename_i e t ht
        simp only [ht, List.nil_append] at read
        obtain ⟨le, nodup, bounds⟩ := ih t
        refine ⟨Nat.le_trans read.1 le, ?_⟩
        have ids : Expr.idsOf (e :: (Parse.ofRest all depth n t).exprs) =
            e.ids ++ Expr.idsOf (Parse.ofRest all depth n t).exprs := by
          simp [Expr.idsOf, Expr.ids]
        simp only [ids]
        refine ⟨List.nodup_append.2 ⟨read.2.1, nodup, fun id hid id' hid' h => ?_⟩, fun id hid => ?_⟩
        · have := (read.2.2 id hid).2
          have := (bounds id' hid').1
          grind
        · obtain hid | hid := List.mem_append.1 hid
          · exact ⟨(read.2.2 id hid).1, Nat.lt_of_lt_of_le (read.2.2 id hid).2 le⟩
          · exact ⟨Nat.le_trans read.1 (bounds id hid).1, (bounds id hid).2⟩
      · rename_i miss t ht
        simp only [ht] at read
        obtain ⟨le, nodup, bounds⟩ :=
          ih { t with rest := if t.rest.length = s.rest.length then _ else t.rest }
        exact ⟨Nat.le_trans read le, nodup,
          fun id hid => ⟨Nat.le_trans read (bounds id hid).1, (bounds id hid).2⟩⟩

/-- The uses of a program that was read from a text are numbered apart, from the given number up to
the next one that is free. -/
theorem Import.numbered_read (fresh : Nat) (source : String) :
    let p := Import.read fresh source
    fresh ≤ p.fresh ∧ Numbered fresh (Expr.idsOf p.exprs) p.fresh :=
  Parse.numbered_ofRest (Lexer.tokens (Lexer.scan source)) _ _ ⟨_, fresh⟩

end FoxScript
