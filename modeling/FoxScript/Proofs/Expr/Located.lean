import FoxScript.Proofs.Expr.Attempts
import FoxScript.Proofs.Token.Tiling

/-!
# Where faults of the syntax are

In a text without faults of the scan, a fault of the syntax stands at the first token that could not
be taken. Where the tokens ran out it stands in the line in which the last token starts, as many
bytes behind its start as it has: that is the place behind it unless it goes over several lines.

## Main definitions

* `Lexer.Front`: how far some tokens reach in a text.
* `Parse.Located`: where a fault stands.

## Main statements

* `Lexer.exists_front`: each token has its place in the text.
* `Parse.faults_located`: each fault of the syntax stands where reading has stopped.
-/
namespace FoxScript

/-! ### Places of tokens -/

namespace Lexer

/-- The token of a piece, if it gives one. -/
def Piece.token? (p : Piece) : Option Token := p.item?.bind Except.toOption

theorem tokens_items (ps : List Piece) :
    tokens (ps.filterMap Piece.item?) = ps.filterMap Piece.token? :=
  List.filterMap_filterMap

/-- A piece that gives a token is spelled like it. -/
theorem Piece.eq_of_token? {p : Piece} {u : Token} (h : p.token? = some u) :
    ∃ cs, p = .item cs (.ok u) := by
  cases p with
  | layout cs => cases h
  | item cs x =>
    cases x with
    | error d => cases h
    | ok t =>
      cases h
      exact ⟨cs, rfl⟩

/-- Pieces fit behind those before them. -/
theorem Tiles.fits {before : List Char} {ps qs : List Piece} {p : Piece}
    (h : Tiles before (ps ++ p :: qs)) :
    p.Fits (before ++ ps.flatMap Piece.chars) (qs.flatMap Piece.chars) := by
  induction ps generalizing before with
  | nil => simpa using h.1
  | cons q ps ih => simpa [List.append_assoc] using ih h.2

/-- The text starts with the characters `cs`, which hold the tokens `ts` and end where a piece of
the scan ends. -/
def Front (source : String) (ts : List Token) (cs : List Char) : Prop :=
  ∃ ps qs, Tiles [] (ps ++ qs) ∧ (ps ++ qs).flatMap Piece.chars = source.toList ∧
    (ps ++ qs).filterMap Piece.item? = scan source ∧
    ps.filterMap Piece.token? = ts ∧ ps.flatMap Piece.chars = cs

/-- A token of a scan has its place in the text, behind the tokens before it. -/
theorem exists_front {source : String} {before after : List Token} {u : Token}
    (h : tokens (scan source) = before ++ u :: after) :
    ∃ cs, Front source before cs ∧ Front source (before ++ [u]) (cs ++ u.lexeme.toList) ∧
      u.position = .counted cs := by
  obtain ⟨pieces, tiles, chars, items⟩ := (scan_tiles source).1
  rw [← items, tokens_items] at h
  obtain ⟨ps, rest, rfl, held, left⟩ := List.filterMap_eq_append_iff.1 h
  obtain ⟨layout, p, qs, rfl, silent, found, -⟩ := List.filterMap_eq_cons_iff.1 left
  obtain ⟨cs, rfl⟩ := Piece.eq_of_token? found
  have held : (ps ++ layout).filterMap Piece.token? = before := by
    rw [List.filterMap_append, held, List.filterMap_eq_nil_iff.2 silent, List.append_nil]
  rw [← List.append_assoc] at tiles chars items
  obtain ⟨-, spelled, placed⟩ := tiles.fits
  rw [List.nil_append] at placed
  refine ⟨(ps ++ layout).flatMap Piece.chars, ⟨_, _, tiles, chars, items, held, rfl⟩, ?_, placed⟩
  rw [List.append_cons] at tiles chars items
  refine ⟨ps ++ layout ++ [.item cs (.ok u)], qs, tiles, chars, items, ?_, ?_⟩
  · rw [List.filterMap_append, held]
    rfl
  · rw [List.flatMap_append, spelled, String.toList_ofList]
    simp [Piece.chars]

end Lexer

/-! ### Places behind tokens -/

theorem Position.line_after (p : Position) (cs : List Char) :
    (p.after cs).line = p.line + cs.count '\n' := by
  induction cs generalizing p with
  | nil => rfl
  | cons c cs ih =>
    rw [after_cons, ih, List.count_cons, next]
    by_cases feed : c = '\n'
    · simp only [feed, if_true, beq_self_eq_true]
      omega
    · simp [feed]

theorem Position.after_of_not_mem (p : Position) {cs : List Char} (h : '\n' ∉ cs) :
    p.after cs = ⟨p.line, p.column + (String.ofList cs).utf8ByteSize⟩ := by
  induction cs generalizing p with
  | nil => simp
  | cons c cs ih =>
    obtain ⟨other, rest⟩ := List.ne_and_not_mem_of_not_mem_cons h
    rw [after_cons, ih _ rest, next, if_neg (Ne.symm other), String.ofList_cons,
      String.utf8ByteSize_append, String.utf8ByteSize_singleton, Nat.add_assoc]

/-- The place after the last byte of a token is the one behind it just if it has no line feed. -/
theorem Token.stop_eq_iff {u : Token} {cs : List Char} (h : u.position = .counted cs) :
    u.stop = .counted (cs ++ u.lexeme.toList) ↔ '\n' ∉ u.lexeme.toList := by
  rw [← Position.after_counted, ← h]
  constructor
  · intro same feed
    have line := congrArg Position.line same
    have some := List.count_pos_iff.2 feed
    rw [Position.line_after] at line
    simp only [stop] at line
    omega
  · intro none
    rw [Position.after_of_not_mem _ none, String.ofList_toList, stop]

/-! ### Faults -/

/-- What is wrong where something is missing and another token, if any, is found. -/
def Grammar.Miss.fault (found : Option String) : Grammar.Miss → SyntaxFault
  | .token e => .unmet e found
  | .expression => .noExpression found

namespace Parse

open Grammar

/-- Where a fault stands in a text if something is missed in front of the tokens `rest`, with those
of `before` behind. -/
inductive Located (source : String) (before : List Token) (miss : Miss) :
    List Token → Diagnostic → Prop
  /-- A token is left: the fault stands where that token starts. -/
  | token {u : Token} {rest : List Token} {cs : List Char} (front : Lexer.Front source before cs)
    (next : Lexer.Front source (before ++ [u]) (cs ++ u.lexeme.toList)) :
    Located source before miss (u :: rest)
      (.syntactic ⟨u.lexeme, .counted cs⟩ (miss.fault (some u.lexeme)))
  /-- No token is left: the fault stands as far behind the start of the last token as that token has
  bytes, which is the place behind it just if it has no line feed. -/
  | ended {u : Token} {cs : List Char} {p : Position}
    (last : before.getLast? = some u) (front : Lexer.Front source before.dropLast cs)
    (next : Lexer.Front source before (cs ++ u.lexeme.toList))
    (line : p.line = (Position.counted cs).line)
    (column : p.column = (Position.counted cs).column + u.lexeme.utf8ByteSize)
    (behind : p = .counted (cs ++ u.lexeme.toList) ↔ '\n' ∉ u.lexeme.toList) :
    Located source before miss [] (.syntactic ⟨"end of input", p⟩ (miss.fault none))

theorem faultAt_cons (all : List Token) (u : Token) (rest : List Token) (miss : Miss) :
    faultAt all (u :: rest) miss = .syntactic u.location (miss.fault (some u.lexeme)) := by
  cases miss <;> rfl

theorem faultAt_nil (all : List Token) (miss : Miss) :
    faultAt all [] miss = .syntactic (endLocation all) (miss.fault none) := by
  cases miss <;> rfl

/-- A fault stands where its tokens have their place in the text. -/
theorem located_faultAt {source : String} {before rest : List Token} (miss : Miss)
    (h : Lexer.tokens (Lexer.scan source) = before ++ rest) (some : before ++ rest ≠ []) :
    Located source before miss rest (faultAt (before ++ rest) rest miss) := by
  cases rest with
  | cons u rest =>
    obtain ⟨cs, front, next, placed⟩ := Lexer.exists_front h
    rw [faultAt_cons, Token.location, placed]
    exact .token front next
  | nil =>
    rw [List.append_nil] at h some ⊢
    obtain ⟨init, u, rfl⟩ := (List.eq_nil_or_concat' before).resolve_left some
    obtain ⟨cs, front, next, placed⟩ := Lexer.exists_front h
    have last : (init ++ [u]).getLast? = .some u := List.getLast?_concat
    have stop : endLocation (init ++ [u]) = ⟨"end of input", u.stop⟩ := by
      rw [endLocation, last]
      rfl
    rw [faultAt_nil, stop]
    refine .ended last (by rwa [List.dropLast_concat]) next ?_ ?_ (Token.stop_eq_iff placed)
    · rw [← placed]
      rfl
    · rw [← placed]
      rfl

/-- Each attempt that comes to a fault has stopped in front of tokens of which the first, if there
is one, is refused, and the fault stands at the place of that token in the text. Where the tokens
have run out, the fault stands as far behind the start of the last token as that token has bytes,
which is the place behind it just if it does not go over several lines. -/
theorem faults_located (source : String) (fresh : Nat) :
    ∃ as, Attempts (Lexer.tokens (Lexer.scan source))
        ⟨Lexer.tokens (Lexer.scan source), fresh⟩ as ∧
      (ofTokens fresh (Lexer.tokens (Lexer.scan source))).faults = as.filterMap Attempt.fault? ∧
      ∀ a ∈ as, ∀ d, a.fault? = some d → ∃ before miss,
        Lexer.tokens (Lexer.scan source) = before ++ a.stop ∧ miss.Refuses a.stop ∧
          Located source before miss a.stop d := by
  generalize found : Lexer.tokens (Lexer.scan source) = tokens
  obtain ⟨as, attempts, -, faults⟩ :=
    exists_attempts tokens (s := ⟨tokens, fresh⟩) le_rfl (Nat.lt_succ_self tokens.length)
  refine ⟨as, attempts, faults, fun a ha d fault => ?_⟩
  obtain ⟨⟨before, rfl⟩, stopped⟩ := attempts.stops a ha
  obtain ⟨miss, refused, rfl⟩ := stopped d fault
  refine ⟨before, miss, rfl, refused, located_faultAt miss found fun none => ?_⟩
  -- without tokens there is no attempt
  have used := attempts.flatMap_tokens
  rw [none] at used
  exact attempts.tokens_ne_nil a ha (List.flatMap_eq_nil_iff.1 used a ha)

/-- A text over two lines is the last token: the fault stands in the first of them. -/
example : (ofTokens 0 (Lexer.tokens (Lexer.scan "(\"a\nb\""))).faults =
    [.syntactic ⟨"end of input", ⟨1, 7⟩⟩ (.unmet .closeGroup none)] := by
  rfl

end Parse

end FoxScript
