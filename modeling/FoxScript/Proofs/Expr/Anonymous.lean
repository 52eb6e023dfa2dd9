import FoxScript.Proofs.Scope.Context
import Mathlib.Data.List.Forall2

/-!
# Programs without their numbers

Nothing in the text of a program says from which number on its uses are numbered. So a text can be
read from any number on: what is read is the same but for the numbers, and the faults are the same.

## Main definitions

* `Expr.anonymous`: an expression without the numbers of its uses.
* `Grammar.Alongside`: two productions that read the same but for the numbers.

## Main statements

* `Parse.ofRest_sameText`: tokens are read as the same program from any number on.
-/
namespace FoxScript

mutual

/-- An expression all of whose uses have the same number. -/
@[simp] def Expr.anonymous : Expr → Expr
  | .literal value => .literal value
  | .variable _ name => .variable ⟨0⟩ name
  | .array elements close => .array (Expr.anonymousEach elements) close
  | .assign _ name value => .assign ⟨0⟩ name value.anonymous
  | .assignElement _ name index value =>
    .assignElement ⟨0⟩ name index.anonymous value.anonymous
  | .binary left op right => .binary left.anonymous op right.anonymous
  | .block members => .block (Expr.anonymousEach members)
  | .break keyword => .break keyword
  | .call callee args close => .call callee.anonymous (Expr.anonymousEach args) close
  | .function name params body => .function name params body.anonymous
  | .group inner => .group inner.anonymous
  | .import path => .import path
  | .index target index close => .index target.anonymous index.anonymous close
  | .slice target lower upper close =>
    .slice target.anonymous lower.anonymous upper.anonymous close
  | .logical left op right => .logical left.anonymous op right.anonymous
  | .match keyword scrutinee cases =>
    .match keyword scrutinee.anonymous (Case.anonymousEach cases)
  | .orPattern left pipe right => .orPattern left.anonymous pipe right.anonymous
  | .anyPattern wildcard => .anyPattern wildcard
  | .ternary condition yes no op =>
    .ternary condition.anonymous yes.anonymous no.anonymous op
  | .unary op operand => .unary op operand.anonymous
  | .declare name => .declare name
  | .declareAs name value => .declareAs name value.anonymous
  | .loop keyword body => .loop keyword body.anonymous
  | .loopWhile keyword condition body => .loopWhile keyword condition.anonymous body.anonymous

/-- Expressions all of whose uses have the same number. -/
@[simp] def Expr.anonymousEach : List Expr → List Expr
  | [] => []
  | e :: es => e.anonymous :: Expr.anonymousEach es

/-- Cases all of whose uses have the same number. -/
@[simp] def Case.anonymousEach : List Case → List Case
  | [] => []
  | .mk arrow condition body :: cases =>
    .mk arrow condition.anonymous body.anonymous :: Case.anonymousEach cases

end

/-- Two expressions that are the same but for the numbers of their uses. -/
def Expr.SameText (e e' : Expr) : Prop := e'.anonymous = e.anonymous

/-- Two cases that are the same but for the numbers of their uses. -/
def Case.SameText (c c' : Case) : Prop := Case.anonymousEach [c'] = Case.anonymousEach [c]

theorem Expr.anonymousEach_eq {es es' : List Expr} (h : List.Forall₂ Expr.SameText es es') :
    Expr.anonymousEach es' = Expr.anonymousEach es := by
  induction h with
  | nil => rfl
  | cons he _ ih => rw [anonymousEach, anonymousEach, he, ih]

theorem Case.anonymousEach_eq {cs cs' : List Case} (h : List.Forall₂ Case.SameText cs cs') :
    Case.anonymousEach cs' = Case.anonymousEach cs := by
  induction h with
  | nil => rfl
  | @cons c c' _ _ hc _ ih =>
    obtain ⟨arrow, condition, body⟩ := c
    obtain ⟨arrow', condition', body'⟩ := c'
    simp_all [Case.SameText]

namespace Grammar

/-! ### Productions -/

/-- Two productions end alike: what they give is related, and the same tokens are left. -/
inductive EndAlike {α : Type} (R : α → α → Prop) :
    EStateM.Result Miss Cursor α → EStateM.Result Miss Cursor α → Prop
  /-- Both give something. -/
  | ok {a a' : α} {t t' : Cursor} (h : R a a') (rest : t'.rest = t.rest) :
    EndAlike R (.ok a t) (.ok a' t')
  /-- Both miss something. -/
  | error (miss : Miss) {t t' : Cursor} (rest : t'.rest = t.rest) :
    EndAlike R (.error miss t) (.error miss t')

/-- Two productions end alike if the same tokens are left, whatever the next number is. -/
def Alongside {α : Type} (R : α → α → Prop) (act act' : Production α) : Prop :=
  ∀ s s' : Cursor, s'.rest = s.rest → EndAlike R (act s) (act' s')

namespace Alongside

variable {α β : Type} {R : α → α → Prop} {R' : β → β → Prop} {act act' : Production α}

theorem pure {a a' : α} (h : R a a') : Alongside R (pure a) (pure a') := fun _ _ same => .ok h same

theorem throw (miss : Miss) : Alongside R (throw miss) (throw miss) :=
  fun _ _ same => .error miss same

theorem bind {next next' : α → Production β} (h : Alongside R act act')
    (hn : ∀ a a', R a a' → Alongside R' (next a) (next' a')) :
    Alongside R' (act >>= next) (act' >>= next') := by
  intro s s' same
  have first := h s s' same
  simp only [Bind.bind, EStateM.bind]
  generalize act s = r at first
  generalize act' s' = r' at first
  cases first with
  | ok ha rest => exact hn _ _ ha _ _ rest
  | error miss rest => exact .error miss rest

/-- After a production that gives the same on both sides. -/
theorem after {next next' : α → Production β} (h : Alongside Eq act act')
    (hn : ∀ a, Alongside R' (next a) (next' a)) : Alongside R' (act >>= next) (act' >>= next') :=
  h.bind fun a _ same => same ▸ hn a

theorem discard (h : Alongside Eq act act') : Alongside Eq (discard act) (discard act') :=
  h.bind fun _ _ _ => .pure rfl

/-- A production that looks at the tokens that are left. -/
theorem look {next : Cursor → Production α}
    (h : ∀ s s' : Cursor, s'.rest = s.rest → Alongside R (next s) (next s')) :
    Alongside R (get >>= next) (get >>= next) := fun s s' same => h s s' same s s' same

end Alongside

theorem alongside_nextKind : Alongside Eq nextKind? nextKind? :=
  .look fun _ _ same => same ▸ .pure rfl

theorem alongside_skip : Alongside Eq skip skip :=
  fun _ _ same => .ok rfl (congrArg (List.drop 1) same)

theorem alongside_takeOneOf (kinds : List TokenKind) :
    Alongside Eq (takeOneOf? kinds) (takeOneOf? kinds) := by
  rintro ⟨_, fresh⟩ ⟨tokens, fresh'⟩ rfl
  cases tokens with
  | nil => exact .ok rfl rfl
  | cons t rest =>
    simp only [takeOneOf?_cons]
    split
    · exact .ok rfl rfl
    · exact .ok rfl rfl

theorem alongside_accept (kind : TokenKind) : Alongside Eq (accept kind) (accept kind) :=
  (alongside_takeOneOf [kind]).after fun _ => .pure rfl

theorem alongside_expect (e : Expectation) : Alongside Eq (expect e) (expect e) := by
  refine (alongside_takeOneOf [e.kind]).after fun t => ?_
  cases t with
  | some t => exact .pure rfl
  | none => exact .throw _

/-- The number of a use is no matter. -/
theorem alongside_newId : Alongside (fun _ _ => True) newId newId := fun _ _ same => .ok trivial same

/-! ### Lists and chains -/

section

variable {α : Type} {R : α → α → Prop} {item : Production α} (h : Alongside R item item)

include h

theorem alongside_sepByComma (n : Nat) :
    Alongside (List.Forall₂ R) (sepByComma item n) (sepByComma item n) := by
  induction n with
  | zero => exact .pure .nil
  | succ n ih =>
    refine h.bind fun a a' ha => (alongside_accept .comma).after fun more => ?_
    cases more
    · exact .pure (.cons ha .nil)
    · exact ih.bind fun _ _ has => .pure (.cons ha has)

theorem alongside_listUntil (rounds : Nat) (close : TokenKind) :
    Alongside (List.Forall₂ R) (listUntil rounds close item) (listUntil rounds close item) := by
  refine alongside_nextKind.after fun k => ?_
  split
  · exact .pure .nil
  · exact alongside_sepByComma h rounds

theorem alongside_members (close : TokenKind) (n : Nat) :
    Alongside (List.Forall₂ R) (members close item n) (members close item n) := by
  induction n with
  | zero => exact .pure .nil
  | succ n ih =>
    refine alongside_nextKind.after fun k => ?_
    cases k with
    | none => exact .pure .nil
    | some k =>
      dsimp only
      split
      · exact .pure .nil
      · refine h.bind fun a a' ha => (alongside_accept .comma).discard.after fun _ => ?_
        exact ih.bind fun _ _ has => .pure (.cons ha has)

end

/-- An operator is the same around operands that are the same. -/
def KeepsText (make : Expr → Token → Expr → Expr) : Prop :=
  ∀ {left left' right right' : Expr} (op : Token), left.SameText left' → right.SameText right' →
    (make left op right).SameText (make left' op right')

theorem keepsText_binary : KeepsText .binary := fun _ hl hr => by
  rw [Expr.SameText, Expr.anonymous, Expr.anonymous, hl, hr]

theorem keepsText_logical : KeepsText .logical := fun _ hl hr => by
  rw [Expr.SameText, Expr.anonymous, Expr.anonymous, hl, hr]

section

variable {make : Expr → Token → Expr → Expr} {operand : Production Expr}

theorem alongside_chainFrom (keeps : KeepsText make)
    (h : Alongside Expr.SameText operand operand) (kinds : List TokenKind) {left left' : Expr}
    (same : left.SameText left') (n : Nat) :
    Alongside Expr.SameText (chainFrom kinds make operand left n)
      (chainFrom kinds make operand left' n) := by
  induction n generalizing left left' with
  | zero => exact .pure same
  | succ n ih =>
    refine (alongside_takeOneOf kinds).after fun op => ?_
    cases op with
    | none => exact .pure same
    | some op => exact h.bind fun _ _ hr => ih (keeps op same hr)

theorem alongside_chain (keeps : KeepsText make) (h : Alongside Expr.SameText operand operand)
    (rounds : Nat) (kinds : List TokenKind) :
    Alongside Expr.SameText (chain rounds kinds make operand) (chain rounds kinds make operand) :=
  h.bind fun _ _ same => alongside_chainFrom keeps h kinds same rounds

end

/-! ### Levels -/

section

variable {rounds : Nat} {expr body : Production Expr}

theorem alongside_functionTail (hb : Alongside Expr.SameText body body) (name : Option Token) :
    Alongside Expr.SameText (functionTail rounds body name) (functionTail rounds body name) := by
  refine (alongside_expect .openParameters).discard.after fun _ => ?_
  refine (alongside_listUntil (alongside_expect .parameter) rounds .rightParen).bind
    fun params params' same => ?_
  obtain rfl : params = params' := by rwa [List.forall₂_eq_eq_eq] at same
  refine (alongside_expect .closeParameters).discard.after fun _ => ?_
  refine (alongside_expect .functionArrow).discard.after fun _ => ?_
  refine hb.bind fun e e' he => .pure ?_
  rw [Expr.SameText, Expr.anonymous, Expr.anonymous, he]

theorem alongside_primary (he : Alongside Expr.SameText expr expr)
    (hb : Alongside Expr.SameText body body) :
    Alongside Expr.SameText (primary rounds expr body) (primary rounds expr body) := by
  refine .look fun s s' same => ?_
  rw [same]
  cases s.rest with
  | nil => exact .throw _
  | cons t rest =>
    dsimp only
    split
    · exact alongside_skip.after fun _ => .pure rfl
    · exact alongside_skip.after fun _ => .pure rfl
    · exact alongside_skip.after fun _ => .pure rfl
    · exact alongside_skip.after fun _ => .pure rfl
    · exact alongside_skip.after fun _ => .pure rfl
    · exact alongside_skip.after fun _ => alongside_newId.bind fun _ _ _ => .pure rfl
    · refine alongside_skip.after fun _ => (alongside_expect .openAnonymous).discard.after fun _ => ?_
      refine (alongside_functionTail hb none).bind fun f f' hf => ?_
      exact (alongside_expect .closeDefun).discard.after fun _ => .pure hf
    · refine alongside_skip.after fun _ => (alongside_members hb .rightBrace rounds).bind
        fun es es' hes => ?_
      refine (alongside_expect .closeBlock).discard.after fun _ => .pure ?_
      rw [Expr.SameText, Expr.anonymous, Expr.anonymous, Expr.anonymousEach_eq hes]
    · refine alongside_skip.after fun _ => (alongside_listUntil hb rounds .rightBracket).bind
        fun es es' hes => ?_
      refine (alongside_expect .closeArray).after fun close => .pure ?_
      rw [Expr.SameText, Expr.anonymous, Expr.anonymous, Expr.anonymousEach_eq hes]
    · refine alongside_skip.after fun _ => he.bind fun e e' same => ?_
      refine (alongside_expect .closeGroup).discard.after fun _ => .pure ?_
      rw [Expr.SameText, Expr.anonymous, Expr.anonymous, same]
    · exact .throw _

theorem alongside_callsAfter (he : Alongside Expr.SameText expr expr)
    (hb : Alongside Expr.SameText body body) {target target' : Expr}
    (same : target.SameText target') (n : Nat) :
    Alongside Expr.SameText (callsAfter rounds expr body target n)
      (callsAfter rounds expr body target' n) := by
  induction n generalizing target target' with
  | zero => exact .pure same
  | succ n ih =>
    refine alongside_nextKind.after fun k => ?_
    split
    · refine alongside_skip.after fun _ => (alongside_listUntil hb rounds .rightParen).bind
        fun args args' hargs => (alongside_expect .closeCall).after fun close => ih ?_
      rw [Expr.SameText, Expr.anonymous, Expr.anonymous, same, Expr.anonymousEach_eq hargs]
    · refine alongside_skip.after fun _ => he.bind fun lower lower' hl => ?_
      refine (alongside_accept .colon).after fun colon => ?_
      cases colon
      · refine (alongside_expect .closeIndex).after fun close => ih ?_
        rw [Expr.SameText, Expr.anonymous, Expr.anonymous, same, hl]
      · refine he.bind fun upper upper' hu => (alongside_expect .closeIndex).after
          fun close => ih ?_
        rw [Expr.SameText, Expr.anonymous, Expr.anonymous, same, hl, hu]
    · exact .pure same

theorem alongside_call (he : Alongside Expr.SameText expr expr)
    (hb : Alongside Expr.SameText body body) :
    Alongside Expr.SameText (call rounds expr body) (call rounds expr body) :=
  (alongside_primary he hb).bind fun _ _ same => alongside_callsAfter he hb same rounds

theorem alongside_signsThen {operand : Production Expr}
    (h : Alongside Expr.SameText operand operand) (n : Nat) :
    Alongside Expr.SameText (signsThen operand n) (signsThen operand n) := by
  induction n with
  | zero => exact h
  | succ n ih =>
    refine (alongside_takeOneOf _).after fun op => ?_
    cases op with
    | none => exact h
    | some op =>
      refine ih.bind fun e e' same => .pure ?_
      rw [Expr.SameText, Expr.anonymous, Expr.anonymous, same]

theorem alongside_disjunction (he : Alongside Expr.SameText expr expr)
    (hb : Alongside Expr.SameText body body) :
    Alongside Expr.SameText (disjunction rounds expr body) (disjunction rounds expr body) := by
  have unary : Alongside Expr.SameText (unary rounds expr body) (unary rounds expr body) :=
    alongside_signsThen (alongside_call he hb) rounds
  have factor := alongside_chain keepsText_binary unary rounds [.star, .slash]
  have term := alongside_chain keepsText_binary factor rounds [.minus, .plus]
  have comparison := alongside_chain keepsText_binary term rounds
    [.greater, .greaterEqual, .less, .lessEqual]
  have equality := alongside_chain keepsText_binary comparison rounds [.bangEqual, .equalEqual]
  have conjunction := alongside_chain keepsText_logical equality rounds [.and]
  exact alongside_chain keepsText_logical conjunction rounds [.or]

theorem alongside_ternary (he : Alongside Expr.SameText expr expr)
    (hb : Alongside Expr.SameText body body) :
    Alongside Expr.SameText (ternary rounds expr body) (ternary rounds expr body) := by
  refine (alongside_disjunction he hb).bind fun condition condition' hc => ?_
  refine (alongside_takeOneOf _).after fun op => ?_
  cases op with
  | none => exact .pure hc
  | some op =>
    refine hb.bind fun yes yes' hy => (alongside_expect .ternaryColon).discard.after fun _ => ?_
    refine hb.bind fun no no' hn => .pure ?_
    rw [Expr.SameText, Expr.anonymous, Expr.anonymous, hc, hy, hn]

/-! ### Keyword forms -/

theorem alongside_declaration (hb : Alongside Expr.SameText body body) :
    Alongside Expr.SameText (declaration body) (declaration body) := by
  refine (alongside_expect .openVar).discard.after fun _ => ?_
  refine (alongside_expect .varName).after fun name => ?_
  refine (alongside_accept .comma).after fun comma => ?_
  cases comma
  · exact (alongside_expect .closeVar).discard.after fun _ => .pure rfl
  · refine hb.bind fun value value' hv => ?_
    refine (alongside_expect .closeVar).discard.after fun _ => .pure ?_
    rw [Expr.SameText, Expr.anonymous, Expr.anonymous, hv]

theorem alongside_assignment (he : Alongside Expr.SameText expr expr)
    (hb : Alongside Expr.SameText body body) :
    Alongside Expr.SameText (assignment expr body) (assignment expr body) := by
  refine (alongside_expect .openAssign).discard.after fun _ => ?_
  refine (alongside_expect .assignName).after fun name => ?_
  refine (alongside_accept .leftBracket).after fun bracket => ?_
  cases bracket
  · refine (alongside_expect .assignComma).discard.after fun _ => hb.bind fun value value' hv => ?_
    refine (alongside_expect .closeAssign).discard.after fun _ => ?_
    refine alongside_newId.bind fun _ _ _ => .pure ?_
    rw [Expr.SameText, Expr.anonymous, Expr.anonymous, hv]
  · refine he.bind fun i i' hi => (alongside_expect .closeElement).discard.after fun _ => ?_
    refine (alongside_expect .assignComma).discard.after fun _ => hb.bind fun value value' hv => ?_
    refine (alongside_expect .closeAssign).discard.after fun _ => ?_
    refine alongside_newId.bind fun _ _ _ => .pure ?_
    rw [Expr.SameText, Expr.anonymous, Expr.anonymous, hi, hv]

theorem alongside_importing : Alongside Expr.SameText importing importing := by
  refine (alongside_expect .openImport).discard.after fun _ => ?_
  refine (alongside_expect .importPath).after fun path => ?_
  exact (alongside_expect .closeImport).discard.after fun _ => .pure rfl

theorem alongside_looping (hb : Alongside Expr.SameText body body) (keyword : Token) :
    Alongside Expr.SameText (looping body keyword) (looping body keyword) := by
  refine (alongside_expect .openWhile).discard.after fun _ => hb.bind fun first first' hf => ?_
  refine (alongside_accept .comma).after fun comma => ?_
  cases comma
  · refine (alongside_expect .closeWhile).discard.after fun _ => .pure ?_
    rw [Expr.SameText, Expr.anonymous, Expr.anonymous, hf]
  · refine hb.bind fun second second' hs => ?_
    refine (alongside_expect .closeWhile).discard.after fun _ => .pure ?_
    rw [Expr.SameText, Expr.anonymous, Expr.anonymous, hf, hs]

theorem alongside_caseCondition {value : Production Expr} (h : Alongside Expr.SameText value value)
    (n : Nat) : Alongside Expr.SameText (caseCondition value n) (caseCondition value n) := by
  induction n with
  | zero => exact h
  | succ n ih =>
    refine (alongside_takeOneOf _).after fun wildcard => ?_
    cases wildcard with
    | some wildcard => exact .pure rfl
    | none =>
      refine h.bind fun left left' hl => (alongside_takeOneOf _).after fun pipe => ?_
      cases pipe with
      | some pipe =>
        refine ih.bind fun right right' hr => .pure ?_
        rw [Expr.SameText, Expr.anonymous, Expr.anonymous, hl, hr]
      | none => exact .pure hl

theorem alongside_matching (he : Alongside Expr.SameText expr expr)
    (hb : Alongside Expr.SameText body body) (keyword : Token) :
    Alongside Expr.SameText (matching rounds expr body keyword)
      (matching rounds expr body keyword) := by
  have case : Alongside Case.SameText (matchCase rounds expr body) (matchCase rounds expr body) := by
    refine (alongside_caseCondition (alongside_ternary he hb) rounds).bind
      fun condition condition' hc => (alongside_expect .caseArrow).after fun arrow => ?_
    refine hb.bind fun e e' same => .pure ?_
    simp only [Case.SameText, Case.anonymousEach]
    rw [hc, same]
  refine (alongside_ternary he hb).bind fun scrutinee scrutinee' hs => ?_
  refine (alongside_expect .openMatch).discard.after fun _ => ?_
  refine (alongside_members case .rightBrace rounds).bind fun cases cases' hcs => ?_
  refine (alongside_expect .closeMatch).discard.after fun _ => .pure ?_
  rw [Expr.SameText, Expr.anonymous, Expr.anonymous, hs, Case.anonymousEach_eq hcs]

theorem alongside_namedFunction (hb : Alongside Expr.SameText body body) :
    Alongside Expr.SameText (namedFunction rounds body) (namedFunction rounds body) := by
  refine (alongside_expect .openNamed).discard.after fun _ => ?_
  refine (alongside_expect .functionName).after fun name => ?_
  refine (alongside_expect .functionComma).discard.after fun _ => ?_
  refine (alongside_functionTail hb (some name)).bind fun f f' hf => ?_
  exact (alongside_expect .closeDefun).discard.after fun _ => .pure hf

theorem alongside_expression (he : Alongside Expr.SameText expr expr)
    (hb : Alongside Expr.SameText body body) :
    Alongside Expr.SameText (expression rounds expr body) (expression rounds expr body) := by
  refine .look fun s s' same => ?_
  rw [same]
  cases s.rest with
  | nil => exact alongside_ternary he hb
  | cons t rest =>
    dsimp only
    split
    · split
      · exact alongside_skip.after fun _ => alongside_namedFunction hb
      · exact alongside_ternary he hb
    · exact alongside_skip.after fun _ => alongside_declaration hb
    · exact alongside_skip.after fun _ => alongside_assignment he hb
    · exact alongside_skip.after fun _ => alongside_importing
    · exact alongside_skip.after fun _ => alongside_looping hb t
    · exact alongside_skip.after fun _ => alongside_matching he hb t
    · exact alongside_skip.after fun _ => .pure rfl
    · exact alongside_ternary he hb

theorem alongside_functionOrExpression (he : Alongside Expr.SameText expr expr)
    (hb : Alongside Expr.SameText body body) :
    Alongside Expr.SameText (functionOrExpression rounds expr body)
      (functionOrExpression rounds expr body) := by
  refine .look fun s s' same => ?_
  rw [same]
  split
  · exact alongside_functionTail hb none
  · exact alongside_expression he hb

end

theorem alongside_read (n : Nat) (place : Place) :
    Alongside Expr.SameText (read n place) (read n place) := by
  induction n generalizing place with
  | zero => cases place <;> exact .throw _
  | succ n ih =>
    cases place
    · exact alongside_expression (ih .expr) (ih .body)
    · exact alongside_functionOrExpression (ih .expr) (ih .body)

end Grammar

/-! ### Programs -/

theorem Parse.ofRest_sameText (all : List Token) (depth n : Nat) {s s' : Grammar.Cursor}
    (same : s'.rest = s.rest) :
    (ofRest all depth n s').faults = (ofRest all depth n s).faults ∧
      List.Forall₂ Expr.SameText (ofRest all depth n s).exprs (ofRest all depth n s').exprs := by
  induction n generalizing s s' with
  | zero => exact ⟨rfl, .nil⟩
  | succ n ih =>
    rw [ofRest, ofRest, same]
    cases rest : s.rest with
    | nil => exact ⟨rfl, .nil⟩
    | cons t after =>
      have ends := Grammar.alongside_read depth .expr s s' same
      dsimp only
      generalize Grammar.read depth .expr s = r at ends
      generalize Grammar.read depth .expr s' = r' at ends
      cases ends with
      | ok he left =>
        obtain ⟨faults, exprs⟩ := ih left
        exact ⟨faults, .cons he exprs⟩
      | @error miss u u' left =>
        dsimp only
        rw [left]
        generalize (if u.rest.length = _ then after else u.rest) = next
        have same : { u' with rest := next }.rest = { u with rest := next }.rest := rfl
        obtain ⟨faults, exprs⟩ := ih same
        exact ⟨by rw [faults], exprs⟩

end FoxScript
