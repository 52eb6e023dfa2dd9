import FoxScript.Token.Lexer
import Mathlib.Data.List.DropRight

/-!
# What a scan covers

A scan cuts its text into pieces that follow one another without gap or overlap: tokens, faults, and
the layout between them, each of which takes at least one character. Tokens and faults know where
they start. The scanner that gives one item after the other gives the same items and then no more.

## Main definitions

* `Position.counted`: the place after some characters, by counting.
* `Lexer.Layout`: blank characters and comments, told with what follows them.
* `Lexer.Piece.Fits`: what holds of a piece between what stands before it and what follows.
* `Lexer.Scanner`: a scan under way.

## Main statements

* `Position.after_start`: positions that are moved on character by character are counted right.
* `Lexer.read_fits`: what is read at the front of a text.
* `Lexer.scan_tiles`: the pieces of a scan, and its items one by one.
-/
namespace FoxScript

/-! ### Positions by counting -/

/-- The place after some characters at the start of a text. Its line is one more than there are line
feeds, and its column one more than the last line has bytes. -/
def Position.counted (before : List Char) : Position :=
  ⟨before.count '\n' + 1, (String.ofList (before.rtakeWhile (· ≠ '\n'))).utf8ByteSize + 1⟩

@[simp] theorem Position.counted_nil : Position.counted [] = .start := rfl

theorem Position.counted_concat (before : List Char) (c : Char) :
    Position.counted (before ++ [c]) = (Position.counted before).next c := by
  by_cases feed : c = '\n'
  · simp [counted, next, feed]
  · simp only [counted, next, feed, if_false, List.count_append, List.count_singleton,
      beq_iff_eq, Nat.add_zero]
    rw [List.rtakeWhile_concat_pos _ _ _ (by simpa using feed), String.ofList_append,
      String.utf8ByteSize_append, ← String.singleton_eq_ofList, String.utf8ByteSize_singleton]
    simp only [Position.mk.injEq, true_and]
    omega

theorem Position.after_counted (before cs : List Char) :
    (Position.counted before).after cs = .counted (before ++ cs) := by
  induction cs generalizing before with
  | nil => simp
  | cons c cs ih => rw [after_cons, ← counted_concat, ih, List.append_assoc, List.singleton_append]

/-- Positions that are moved on character by character are counted right. -/
theorem Position.after_start (cs : List Char) : Position.start.after cs = .counted cs :=
  after_counted [] cs

namespace Lexer

/-! ### Pieces -/

/-- What is left of comments that are nested `depth + 1` deep, and what follows it. A comment ends
at its mark, before which all comments inside it have ended, or with the text. -/
inductive Comment : Nat → List Char → List Char → Prop
  /-- The text ends. -/
  | unclosed (depth : Nat) : Comment depth [] []
  /-- The outermost comment ends. -/
  | close (rest : List Char) : Comment 0 ['*', '/'] rest
  /-- A comment inside ends. -/
  | closeInner {depth : Nat} {cs rest : List Char} (h : Comment depth cs rest) :
    Comment (depth + 1) ('*' :: '/' :: cs) rest
  /-- A comment inside starts. -/
  | openInner {depth : Nat} {cs rest : List Char} (h : Comment (depth + 1) cs rest) :
    Comment depth ('/' :: '*' :: cs) rest
  /-- A character that starts no mark. -/
  | char {depth : Nat} {c : Char} {cs rest : List Char} (h : Comment depth cs rest)
    (opens : ¬['/', '*'] <+: c :: (cs ++ rest)) (closes : ¬['*', '/'] <+: c :: (cs ++ rest)) :
    Comment depth (c :: cs) rest

/-- Characters that belong to no token, and what follows them. -/
inductive Layout : List Char → List Char → Prop
  /-- A blank character. -/
  | blank {c : Char} (h : c ∈ [' ', '\t', '\r', '\n']) (rest : List Char) : Layout [c] rest
  /-- A comment up to the end of its line. -/
  | line {cs rest : List Char} (inside : '\n' ∉ cs) (ends : ∀ c ∈ rest.head?, c = '\n') :
    Layout ('/' :: '/' :: cs) rest
  /-- A comment with a mark at its end, which can hold others. -/
  | block {cs rest : List Char} (h : Comment 0 cs rest) : Layout ('/' :: '*' :: cs) rest

/-- Characters that are faulty, and what follows them. -/
inductive Faulty : SyntaxFault → List Char → List Char → Prop
  /-- A character with which nothing starts. -/
  | unexpected (c : Char) (rest : List Char) : Faulty (.unexpectedCharacter c) [c] rest
  /-- A text that does not end. -/
  | unclosed {cs : List Char} (inside : '"' ∉ cs) : Faulty .unclosedText ('"' :: cs) []

/-- A part of a text, and what a scan makes of it. -/
inductive Piece
  /-- Characters that belong to no token. -/
  | layout (chars : List Char)
  /-- A token, or a fault. -/
  | item (chars : List Char) (x : Except Diagnostic Token)

namespace Piece

/-- The characters of the piece. -/
def chars : Piece → List Char
  | layout cs | item cs _ => cs

/-- What the scan gives for the piece. -/
def item? : Piece → Option (Except Diagnostic Token)
  | layout _ => none
  | item _ x => some x

/-- What holds of a piece between what stands before it and what follows: it takes a character, a
token is spelled like the piece, and tokens and faults stand at the start of the piece. -/
def Fits (before : List Char) (p : Piece) (rest : List Char) : Prop :=
  p.chars ≠ [] ∧
    match p with
    | layout cs => Layout cs rest
    | item cs (.ok t) => t.lexeme = String.ofList cs ∧ t.position = .counted before
    | item cs (.error d) => ∃ f, d = .syntactic ⟨sample cs, .counted before⟩ f ∧ Faulty f cs rest

end Piece

/-- Each of the pieces fits where it stands, from what stands before them on. -/
def Tiles (before : List Char) : List Piece → Prop
  | [] => True
  | p :: ps => p.Fits before (ps.flatMap Piece.chars) ∧ Tiles (before ++ p.chars) ps

/-! ### What is read at the front -/

theorem commentLength_spec (depth : Nat) (cs : List Char) :
    commentLength depth cs ≤ cs.length ∧
      Comment depth (cs.take (commentLength depth cs)) (cs.drop (commentLength depth cs)) := by
  fun_induction commentLength depth cs with
  | case1 depth => exact ⟨Nat.le_refl _, .unclosed depth⟩
  | case2 depth cs ih => exact ⟨by simpa using ih.1, .openInner ih.2⟩
  | case3 cs => exact ⟨by simp, .close cs⟩
  | case4 cs depth ih => exact ⟨by simpa using ih.1, .closeInner ih.2⟩
  | case5 depth c cs opens closes ih =>
    refine ⟨by simpa using ih.1, ?_⟩
    rw [List.take_succ_cons, List.drop_succ_cons]
    refine .char ih.2 ?_ ?_
    · rw [List.take_append_drop, List.cons_prefix_cons, not_and]
      rintro rfl ⟨ds, rfl⟩
      exact opens ds rfl rfl
    · rw [List.take_append_drop, List.cons_prefix_cons, not_and]
      rintro rfl ⟨ds, rfl⟩
      exact closes ds rfl rfl

theorem take_runLength (p : Char → Bool) (cs : List Char) :
    cs.take (runLength p cs) = cs.takeWhile p :=
  (List.prefix_iff_eq_take.1 (List.takeWhile_prefix p)).symm

theorem drop_runLength (p : Char → Bool) (cs : List Char) :
    cs.drop (runLength p cs) = cs.dropWhile p := by
  have parts : cs.take (runLength p cs) ++ cs.drop (runLength p cs) =
      cs.takeWhile p ++ cs.dropWhile p := by simp
  rw [take_runLength] at parts
  exact List.append_cancel_left parts

theorem runLength_le (p : Char → Bool) (cs : List Char) : runLength p cs ≤ cs.length :=
  (List.takeWhile_prefix p).length_le

theorem lineLength_spec (cs : List Char) :
    lineLength cs ≤ cs.length ∧ '\n' ∉ cs.take (lineLength cs) ∧
      ∀ c ∈ (cs.drop (lineLength cs)).head?, c = '\n' := by
  refine ⟨runLength_le _ _, ?_, fun c hc => ?_⟩
  · rw [lineLength, take_runLength]
    intro feed
    simpa using List.mem_takeWhile_imp feed
  · rw [lineLength, drop_runLength] at hc
    have := List.head?_dropWhile_not (· != '\n') cs
    simpa [Option.mem_def.1 hc] using this

theorem numberLength_le (cs : List Char) : numberLength cs ≤ cs.length := by
  rw [numberLength]
  split
  · rename_i d rest drop
    have length := congrArg List.length drop
    have run := runLength_le Char.isDigit rest
    simp only [List.length_drop, List.length_cons] at length
    split <;> omega
  · exact runLength_le _ _

/-- What is read at the front of `c :: cs` is of its kind, and is all there. -/
def Reads (c : Char) (cs : List Char) (r : Reading × Nat) : Prop :=
  r.2 ≤ cs.length ∧
    match r.1 with
    | .layout => Layout (c :: cs.take r.2) (cs.drop r.2)
    | .token _ _ => True
    | .fault f => Faulty f (c :: cs.take r.2) (cs.drop r.2)

section

variable (c : Char) (cs : List Char)

theorem Reads.mark (kind : TokenKind) : Reads c cs (.token kind none, 0) :=
  ⟨Nat.zero_le _, trivial⟩

theorem reads_readMark (next : Char) (long short : TokenKind) :
    Reads c cs (readMark cs next long short) := by
  rw [readMark]
  split
  · rename_i follows
    obtain ⟨ds, rfl⟩ := List.head?_eq_some_iff.1 follows
    exact ⟨by simp, trivial⟩
  · exact .mark c cs short

theorem reads_readNumber : Reads c cs (readNumber c cs) := ⟨numberLength_le cs, trivial⟩

theorem reads_readName : Reads c cs (readName c cs) := ⟨runLength_le _ cs, trivial⟩

theorem reads_readText : Reads '"' cs (readText cs) := by
  rw [readText]
  split
  · rename_i shorter
    exact ⟨shorter, trivial⟩
  · rename_i longer
    refine ⟨Nat.le_refl _, ?_⟩
    simp only [List.take_length, List.drop_length]
    refine .unclosed fun quote => ?_
    have all : cs.takeWhile (· != '"') = cs :=
      (List.takeWhile_prefix _).eq_of_length_le (Nat.le_of_not_lt longer)
    rw [← all] at quote
    simpa using List.mem_takeWhile_imp quote

theorem Reads.blank {c : Char} (h : c ∈ [' ', '\t', '\r', '\n']) (cs : List Char) :
    Reads c cs (.layout, 0) :=
  ⟨Nat.zero_le _, .blank h cs⟩

theorem reads_line : Reads '/' ('/' :: cs) (.layout, lineLength cs + 1) := by
  obtain ⟨le, inside, ends⟩ := lineLength_spec cs
  exact ⟨Nat.succ_le_succ le, .line inside ends⟩

theorem reads_block : Reads '/' ('*' :: cs) (.layout, commentLength 0 cs + 1) := by
  obtain ⟨le, comment⟩ := commentLength_spec 0 cs
  exact ⟨Nat.succ_le_succ le, .block comment⟩

/-- Whatever stands at the front of a text is read right: one case for each way in which something
can start. -/
theorem reads_read : Reads c cs (read c cs) := by
  unfold read
  split
  iterate 4 exact .blank (by simp) cs
  iterate 12 exact .mark _ cs _
  iterate 2 exact reads_readMark _ cs _ _ _
  · split
    · rename_i follows
      obtain ⟨ds, rfl⟩ := List.head?_eq_some_iff.1 follows
      exact ⟨by simp, trivial⟩
    · exact reads_readMark _ cs _ _ _
  iterate 2 exact reads_readMark _ cs _ _ _
  · split
    · exact reads_line _
    · exact reads_block _
    · exact .mark _ cs _
  · exact reads_readText cs
  · split
    · exact reads_readNumber c cs
    · split
      · exact reads_readName c cs
      · exact ⟨Nat.zero_le _, .unexpected c cs⟩

end

/-! ### Scans from one piece to the next -/

/-- Characters that belong to what was read before are passed over. -/
theorem scanFrom_append (p : Position) (cs ds : List Char) :
    scanFrom cs.length p (cs ++ ds) = scanFrom 0 (p.after cs) ds := by
  induction cs generalizing p with
  | nil => rfl
  | cons c cs ih => exact ih (p.next c)

theorem scanFrom_of_le {n : Nat} {cs : List Char} (le : n ≤ cs.length) (p : Position) :
    scanFrom n p cs = scanFrom 0 (p.after (cs.take n)) (cs.drop n) := by
  have passed := scanFrom_append p (cs.take n) (cs.drop n)
  rwa [List.take_append_drop, List.length_take, Nat.min_eq_left le] at passed

/-- A scan gives what is read at the front and goes on behind it. -/
theorem scanFrom_cons (p : Position) (c : Char) (cs : List Char) :
    scanFrom 0 p (c :: cs) =
      (item? p (c :: cs.take (read c cs).2) (read c cs).1).toList ++
        scanFrom 0 (p.after (c :: cs.take (read c cs).2)) (cs.drop (read c cs).2) := by
  rw [Position.after_cons, ← scanFrom_of_le (reads_read c cs).1, scanFrom]
  generalize read c cs = r
  obtain ⟨reading, n⟩ := r
  dsimp only
  cases item? p (c :: cs.take n) reading <;> rfl

/-- The piece that is read at the front. -/
def firstPiece (p : Position) (c : Char) (cs : List Char) : Piece :=
  let taken := c :: cs.take (read c cs).2
  match item? p taken (read c cs).1 with
  | some x => .item taken x
  | none => .layout taken

theorem chars_firstPiece (p : Position) (c : Char) (cs : List Char) :
    (firstPiece p c cs).chars = c :: cs.take (read c cs).2 := by
  rw [firstPiece]
  split <;> rfl

theorem item?_firstPiece (p : Position) (c : Char) (cs : List Char) :
    (firstPiece p c cs).item? = item? p (c :: cs.take (read c cs).2) (read c cs).1 := by
  rw [firstPiece]
  split <;> simp_all [Piece.item?]

/-- What is read at the front fits there. -/
theorem fits_firstPiece (before : List Char) (c : Char) (cs : List Char) :
    (firstPiece (.counted before) c cs).Fits before (cs.drop (read c cs).2) := by
  refine ⟨by simp [chars_firstPiece], ?_⟩
  have reads := (reads_read c cs).2
  revert reads
  rw [firstPiece]
  cases (read c cs).1 with
  | layout => exact id
  | token kind literal => exact fun _ => ⟨rfl, rfl⟩
  | fault f => exact fun faulty => ⟨f, rfl, faulty⟩

/-- A scan from some place on goes piece by piece. -/
theorem exists_tiles (before cs : List Char) : ∃ pieces, Tiles before pieces ∧
    pieces.flatMap Piece.chars = cs ∧
    pieces.filterMap Piece.item? = scanFrom 0 (.counted before) cs := by
  induction h : cs.length using Nat.strong_induction_on generalizing before cs with
  | _ n ih =>
  cases cs with
  | nil => exact ⟨[], trivial, rfl, rfl⟩
  | cons c cs =>
    let first := firstPiece (.counted before) c cs
    have shorter : (cs.drop (read c cs).2).length < n := by
      rw [← h, List.length_drop, List.length_cons]
      omega
    obtain ⟨pieces, tiles, chars, items⟩ := ih _ shorter (before ++ first.chars) _ rfl
    refine ⟨first :: pieces, ⟨?_, tiles⟩, ?_, ?_⟩
    · rw [chars]
      exact fits_firstPiece before c cs
    · simp [chars, first, chars_firstPiece]
    · rw [scanFrom_cons, ← item?_firstPiece, ← chars_firstPiece (.counted before),
        Position.after_counted, ← items, List.filterMap_cons]
      cases first.item? <;> rfl

/-! ### Scans under way -/

/-- A scan under way. -/
structure Scanner where
  /-- The characters that are left. -/
  rest : List Char
  /-- The place where they start. -/
  position : Position
  /-- Whether there was a fault. -/
  hasError : Bool

namespace Scanner

/-- A scan that starts. -/
def ofText (source : String) : Scanner := ⟨source.toList, .start, false⟩

/-- The next item from a place on, past layout, and the scan after it. The first `skip` characters
belong to layout that was read before. -/
def nextFrom (skip : Nat) (p : Position) (hasError : Bool) :
    List Char → Option (Except Diagnostic Token) × Scanner
  | [] => (none, ⟨[], p, hasError⟩)
  | c :: cs =>
    match skip with
    | skip + 1 => nextFrom skip (p.next c) hasError cs
    | 0 =>
      let (reading, n) := read c cs
      let taken := c :: cs.take n
      match item? p taken reading with
      | some item =>
        let faulty := match item with
          | .ok _ => hasError
          | .error _ => true
        (some item, ⟨cs.drop n, p.after taken, faulty⟩)
      | none => nextFrom n (p.next c) hasError cs

/-- The next item, if there is one, and the scan after it. -/
def next (s : Scanner) : Option (Except Diagnostic Token) × Scanner :=
  nextFrom 0 s.position s.hasError s.rest

/-- The scan gives these items and then no more, and is the other after that. -/
inductive Yields : Scanner → List (Except Diagnostic Token) → Scanner → Prop
  /-- There is no item. -/
  | done {s t : Scanner} (h : s.next = (none, t)) : Yields s [] t
  /-- There is an item. -/
  | item {s t u : Scanner} {x : Except Diagnostic Token} {xs : List (Except Diagnostic Token)}
    (h : s.next = (some x, t)) (more : Yields t xs u) : Yields s (x :: xs) u

/-- Whether there is a fault among some items. -/
def anyFault (items : List (Except Diagnostic Token)) : Bool := !(faults items).isEmpty

theorem anyFault_cons (x : Except Diagnostic Token) (xs : List (Except Diagnostic Token)) :
    anyFault (x :: xs) = (anyFault [x] || anyFault xs) := by
  cases x <;> simp [anyFault, faults]

theorem anyFault_iff (items : List (Except Diagnostic Token)) :
    anyFault items ↔ ∃ d, .error d ∈ items := by
  induction items with
  | nil => simp [anyFault, faults]
  | cons x xs ih =>
    rw [anyFault_cons, Bool.or_eq_true, ih]
    cases x <;> simp [anyFault, faults]

/-- A scanner that gives no item is at the end of its text. One that gives an item goes on like the
scan behind it, and has noticed if the item is a fault. -/
theorem nextFrom_spec (skip : Nat) (p : Position) (hasError : Bool) (cs : List Char) :
    (∃ q, nextFrom skip p hasError cs = (none, ⟨[], q, hasError⟩) ∧ scanFrom skip p cs = []) ∨
    ∃ x t, nextFrom skip p hasError cs = (some x, t) ∧ t.rest.length < cs.length ∧
      scanFrom skip p cs = x :: scanFrom 0 t.position t.rest ∧
      t.hasError = (hasError || anyFault [x]) := by
  induction cs generalizing skip p with
  | nil => exact .inl ⟨p, rfl, rfl⟩
  | cons c cs ih =>
    cases skip with
    | succ skip =>
      obtain ⟨q, ends, none⟩ | ⟨x, t, gives, shorter, items, noticed⟩ := ih skip (p.next c)
      · exact .inl ⟨q, ends, none⟩
      · exact .inr ⟨x, t, gives, Nat.lt_succ_of_lt shorter, items, noticed⟩
    | zero =>
      have le := (reads_read c cs).1
      rw [nextFrom, scanFrom]
      generalize read c cs = r at le ⊢
      obtain ⟨reading, n⟩ := r
      dsimp only at le ⊢
      cases item? p (c :: cs.take n) reading with
      | none =>
        obtain ⟨q, ends, none⟩ | ⟨x, t, gives, shorter, items, noticed⟩ := ih n (p.next c)
        · exact .inl ⟨q, ends, none⟩
        · exact .inr ⟨x, t, gives, Nat.lt_succ_of_lt shorter, items, noticed⟩
      | some x =>
        refine .inr ⟨x, _, rfl, ?_, ?_, ?_⟩
        · exact Nat.lt_succ_of_le (by simp)
        · dsimp only
          rw [scanFrom_of_le le, Position.after_cons]
        · cases x <;> simp [anyFault, faults]

/-- A scanner gives the items of the scan one by one and then no more, and knows at its end whether
there was a fault among them. -/
theorem yields_scanFrom (s : Scanner) :
    ∃ t, s.Yields (scanFrom 0 s.position s.rest) t ∧ t.next = (none, t) ∧
      t.hasError = (s.hasError || anyFault (scanFrom 0 s.position s.rest)) := by
  induction h : s.rest.length using Nat.strong_induction_on generalizing s with
  | _ n ih =>
  obtain ⟨q, ends, none⟩ | ⟨x, t, gives, shorter, items, noticed⟩ :=
    nextFrom_spec 0 s.position s.hasError s.rest
  · rw [none]
    exact ⟨_, .done ends, rfl, by simp [anyFault, faults]⟩
  · obtain ⟨u, yields, ends, noticed'⟩ := ih _ (h ▸ shorter) t rfl
    rw [items]
    refine ⟨u, .item gives yields, ends, ?_⟩
    rw [noticed', noticed, Bool.or_assoc, ← anyFault_cons]

end Scanner

/-- A scan cuts its text into pieces that fit: layout, and in between the items that it gives, each
with its place. The scanner gives these items one by one and then no more, and it has an error at
the end just if one of them is a fault. -/
theorem scan_tiles (source : String) :
    (∃ pieces, Tiles [] pieces ∧ pieces.flatMap Piece.chars = source.toList ∧
      pieces.filterMap Piece.item? = scan source) ∧
    ∃ last, (Scanner.ofText source).Yields (scan source) last ∧ last.next = (none, last) ∧
      (last.hasError ↔ ∃ d, .error d ∈ scan source) := by
  obtain ⟨last, yields, ends, noticed⟩ := (Scanner.ofText source).yields_scanFrom
  refine ⟨exists_tiles [] source.toList, last, yields, ends, ?_⟩
  rw [noticed, Scanner.ofText, Bool.false_or]
  exact Scanner.anyFault_iff _

end Lexer

end FoxScript
