import FoxScript.Proofs.Token.Tiling

/-!
# Tokens do not depend on what stands between them

The spelling of a token is read as this token again wherever a blank character follows it, or
nothing. Blank characters and closed comments are passed over, and a scan goes on behind them as if
they were not there. So the tokens of a text can be spaced in any way.

## Main definitions

* `Lexer.Closed`: a comment that ends just where its characters end, whatever follows.
* `Lexer.Spacing`, `Lexer.Separator`: what can stand between tokens.
* `Lexer.Rereads`: what is read again from its own characters.
* `Lexer.spaced`: tokens with separators between them.

## Main statements

* `Lexer.Closed.commentLength`: a comment ends at its own end.
* `Lexer.rereads_read`: each token is read again from its spelling.
* `Lexer.scan_spaced`: the tokens of a text that is spaced anew.
-/
namespace FoxScript.Lexer

/-! ### Separators -/

/-- What is left of comments that are nested `depth + 1` deep, if they end just with it. A character
that starts no mark stands for itself. -/
inductive Closed : Nat → List Char → Prop
  /-- The outermost comment ends. -/
  | close : Closed 0 ['*', '/']
  /-- A comment inside ends. -/
  | closeInner {depth : Nat} {cs : List Char} (h : Closed depth cs) :
    Closed (depth + 1) ('*' :: '/' :: cs)
  /-- A comment inside starts. -/
  | openInner {depth : Nat} {cs : List Char} (h : Closed (depth + 1) cs) :
    Closed depth ('/' :: '*' :: cs)
  /-- A character that starts no mark. -/
  | char {depth : Nat} {c : Char} {cs : List Char} (h : Closed depth cs)
    (opens : ¬['/', '*'] <+: c :: cs) (closes : ¬['*', '/'] <+: c :: cs) : Closed depth (c :: cs)

/-- Characters that can stand between tokens: blank characters, comments that end with their lines,
and comments that are closed. -/
inductive Spacing : List Char → Prop
  /-- There are none. -/
  | nil : Spacing []
  /-- First there is a blank character. -/
  | blank {c : Char} {cs : List Char} (h : isLayout c) (rest : Spacing cs) : Spacing (c :: cs)
  /-- First there is a comment with the end of its line. -/
  | line {inside cs : List Char} (h : '\n' ∉ inside) (rest : Spacing cs) :
    Spacing ('/' :: '/' :: (inside ++ '\n' :: cs))
  /-- First there is a comment that is closed. -/
  | block {inside cs : List Char} (h : Closed 0 inside) (rest : Spacing cs) :
    Spacing ('/' :: '*' :: (inside ++ cs))

/-- Characters that keep tokens apart: they start with a blank one. -/
inductive Separator : List Char → Prop
  /-- Such are a blank character and what can stand behind it. -/
  | mk {c : Char} {cs : List Char} (h : isLayout c) (rest : Spacing cs) : Separator (c :: cs)

/-- What stands behind a token: nothing, or a blank character first. -/
def Apart (rest : List Char) : Prop := ∀ c ∈ rest.head?, isLayout c

variable {c : Char} {cs rest inside : List Char} {depth : Nat} {p : Position}

theorem Separator.apart (h : Separator cs) (rest : List Char) : Apart (cs ++ rest) := by
  obtain ⟨blank, -⟩ := h
  intro d first
  cases first
  exact blank

theorem Separator.spacing (h : Separator cs) : Spacing cs := by
  obtain ⟨blank, rest⟩ := h
  exact .blank blank rest

theorem Closed.ne_nil (h : Closed depth cs) : cs ≠ [] := by
  cases h <;> simp

/-- What starts no mark before the end of a comment starts none before what follows. -/
theorem Closed.mark_append {a b : Char} (h : Closed depth cs) (free : ¬[a, b] <+: c :: cs)
    (rest : List Char) : ¬[a, b] <+: c :: (cs ++ rest) := by
  obtain ⟨d, ds, rfl⟩ := List.exists_cons_of_ne_nil h.ne_nil
  simpa [List.cons_prefix_cons] using free

theorem commentLength_char (opens : ¬['/', '*'] <+: c :: cs) (closes : ¬['*', '/'] <+: c :: cs)
    (depth : Nat) : commentLength depth (c :: cs) = commentLength depth cs + 1 := by
  rw [commentLength]
  · rintro ds rfl rfl
    exact opens (by simp)
  · rintro ds rfl rfl
    exact closes (by simp)

/-- A closed comment ends at its own end. -/
theorem Closed.commentLength (h : Closed depth cs) (rest : List Char) :
    commentLength depth (cs ++ rest) = cs.length := by
  induction h with
  | close => rfl
  | closeInner _ ih => simp [Lexer.commentLength, ih]
  | openInner _ ih => simp [Lexer.commentLength, ih]
  | char h opens closes ih =>
    rw [List.cons_append,
      commentLength_char (h.mark_append opens rest) (h.mark_append closes rest), ih,
      List.length_cons]

theorem runLength_append {q : Char → Bool} (all : ∀ c ∈ cs, q c)
    (ends : ∀ c ∈ rest.head?, q c = false) : runLength q (cs ++ rest) = cs.length := by
  have stops : rest.takeWhile q = [] := by
    cases rest with
    | nil => rfl
    | cons d ds => simp [ends d rfl]
  rw [runLength, List.takeWhile_append_of_pos all, stops, List.append_nil]

theorem lineLength_append (h : '\n' ∉ inside) (rest : List Char) :
    lineLength (inside ++ '\n' :: rest) = inside.length := by
  refine runLength_append (fun d mem => ?_) fun d first => ?_
  · have other : d ≠ '\n' := by
      rintro rfl
      exact h mem
    simpa using other
  · cases first
    rfl

/-! ### What a scan passes over -/

theorem read_of_isLayout (h : isLayout c) (cs : List Char) : read c cs = (.layout, 0) := by
  simp only [isLayout, Bool.or_eq_true, beq_iff_eq] at h
  obtain ((rfl | rfl) | rfl) | rfl := h <;> rfl

theorem scanFrom_of_layout (h : read c (cs ++ rest) = (.layout, cs.length)) (p : Position) :
    scanFrom 0 p (c :: (cs ++ rest)) = scanFrom 0 (p.after (c :: cs)) rest := by
  rw [scanFrom_cons, h]
  simp [item?]

theorem scanFrom_of_token {kind : TokenKind} {literal : Option Literal}
    (h : read c (cs ++ rest) = (.token kind literal, cs.length)) (p : Position) :
    scanFrom 0 p (c :: (cs ++ rest)) =
      .ok ⟨kind, String.ofList (c :: cs), literal, p⟩ :: scanFrom 0 (p.after (c :: cs)) rest := by
  rw [scanFrom_cons, h]
  simp [item?]

/-- What can stand between tokens is passed over. -/
theorem Spacing.scanFrom (h : Spacing cs) (p : Position) (rest : List Char) :
    scanFrom 0 p (cs ++ rest) = scanFrom 0 (p.after cs) rest := by
  induction h generalizing p with
  | nil => rfl
  | @blank c cs h _ ih =>
    have here : read c ([] ++ (cs ++ rest)) = (.layout, 0) := read_of_isLayout h _
    exact (scanFrom_of_layout here p).trans (ih _)
  | @line inside cs h _ ih =>
    have comment : read '/' (('/' :: inside) ++ ('\n' :: (cs ++ rest))) =
        (.layout, ('/' :: inside).length) := by
      rw [List.length_cons, ← lineLength_append h (cs ++ rest)]
      rfl
    have feed : read '\n' ([] ++ (cs ++ rest)) = (.layout, 0) := rfl
    have passed := (scanFrom_of_layout comment p).trans
      ((scanFrom_of_layout feed _).trans (ih _))
    simpa [Position.after_append] using passed
  | @block inside cs h _ ih =>
    have comment : read '/' (('*' :: inside) ++ (cs ++ rest)) =
        (.layout, ('*' :: inside).length) := by
      rw [List.length_cons, ← h.commentLength (cs ++ rest)]
      rfl
    have passed := (scanFrom_of_layout comment p).trans (ih _)
    simpa [Position.after_append] using passed

/-! ### What is read again -/

theorem eq_of_isLayout (h : isLayout c) : c = ' ' ∨ c = '\t' ∨ c = '\r' ∨ c = '\n' := by
  simpa [isLayout, or_assoc] using h

/-- Blank characters go on with nothing that stands before them. -/
theorem Apart.head_ne (h : Apart rest) (d : Char) (visible : ¬isLayout d) :
    rest.head? ≠ some d := by
  intro first
  exact visible (h d first)

theorem Apart.isDigit (h : Apart rest) : ∀ c ∈ rest.head?, c.isDigit = false := by
  intro c first
  obtain rfl | rfl | rfl | rfl := eq_of_isLayout (h c first) <;> rfl

theorem Apart.isNamePart (h : Apart rest) : ∀ c ∈ rest.head?, isNamePart c = false := by
  intro c first
  obtain rfl | rfl | rfl | rfl := eq_of_isLayout (h c first) <;> rfl

/-- A token that is read from `c` and what follows is read again from its own characters, where a
blank character follows them, or nothing. -/
def Rereads (c : Char) (cs : List Char) (r : Reading × Nat) : Prop :=
  ∀ kind literal, r.1 = .token kind literal → ∀ rest, Apart rest → read c (cs.take r.2 ++ rest) = r

/-- What follows the first digit of a number is digits, and then perhaps a point with digits. -/
theorem take_numberLength (cs : List Char) :
    ∃ ds, (∀ d ∈ ds, d.isDigit) ∧
      (cs.take (numberLength cs) = ds ∨ ∃ e es, (∀ d ∈ e :: es, d.isDigit) ∧
        cs.take (numberLength cs) = ds ++ '.' :: e :: es) := by
  have digits : ∀ (cs : List Char), ∀ d ∈ cs.takeWhile Char.isDigit, d.isDigit :=
    fun cs d mem => List.mem_takeWhile_imp mem
  refine ⟨cs.takeWhile Char.isDigit, digits cs, ?_⟩
  have whole := take_runLength Char.isDigit cs
  rw [numberLength]
  split
  · rename_i d rest drop
    split
    · rename_i digit
      refine .inr ⟨d, rest.takeWhile Char.isDigit, ?_, ?_⟩
      · exact List.forall_mem_cons.2 ⟨digit, digits rest⟩
      · rw [Nat.add_assoc, List.take_add, whole, drop, Nat.add_comm 2]
        simp [take_runLength]
    · exact .inl whole
  · exact .inl whole

theorem numberLength_digits {ds : List Char} (digits : ∀ d ∈ ds, d.isDigit) (apart : Apart rest) :
    numberLength (ds ++ rest) = ds.length := by
  have run := runLength_append digits apart.isDigit
  rw [numberLength, run, List.drop_left]
  split
  · exact absurd rfl (apart.head_ne '.' (by decide))
  · rfl

theorem numberLength_point {ds es : List Char} {e : Char} (digits : ∀ d ∈ ds, d.isDigit)
    (fraction : ∀ d ∈ e :: es, d.isDigit) (apart : Apart rest) :
    numberLength (ds ++ '.' :: e :: (es ++ rest)) = ds.length + 2 + es.length := by
  have run : runLength Char.isDigit (ds ++ '.' :: e :: (es ++ rest)) = ds.length := by
    refine runLength_append digits fun c first => ?_
    cases first
    rfl
  obtain ⟨first, others⟩ := List.forall_mem_cons.1 fraction
  rw [numberLength, run, List.drop_left]
  simp [first, runLength_append others apart.isDigit]

/-- A number ends where its characters end. -/
theorem numberLength_take (cs : List Char) (apart : Apart rest) :
    numberLength (cs.take (numberLength cs) ++ rest) = numberLength cs := by
  have length : (cs.take (numberLength cs)).length = numberLength cs :=
    List.length_take_of_le (numberLength_le cs)
  obtain ⟨ds, digits, whole | ⟨e, es, fraction, point⟩⟩ := take_numberLength cs
  · rw [whole, numberLength_digits digits apart, ← whole, length]
  · have again := numberLength_point digits fraction apart
    rw [point] at length
    rw [point, List.append_assoc, List.cons_append, List.cons_append, again, ← length]
    simp only [List.length_append, List.length_cons]
    omega

section

variable (c : Char) (cs : List Char)

theorem Rereads.of_not_token {r : Reading × Nat}
    (h : ∀ kind literal, r.1 ≠ .token kind literal) : Rereads c cs r :=
  fun kind literal token => absurd token (h kind literal)

theorem Rereads.mark {kind : TokenKind} (h : ∀ ds, read c ds = (.token kind none, 0)) :
    Rereads c cs (.token kind none, 0) :=
  fun _ _ _ rest _ => h rest

/-- A mark does not get longer where a blank character follows. -/
theorem readMark_take (next : Char) (long short : TokenKind) (visible : ¬isLayout next)
    (apart : Apart rest) :
    readMark (cs.take (readMark cs next long short).2 ++ rest) next long short =
      readMark cs next long short := by
  by_cases follows : cs.head? = some next
  · obtain ⟨ds, rfl⟩ := List.head?_eq_some_iff.1 follows
    simp [readMark]
  · simp [readMark, follows, apart.head_ne next visible]

theorem rereads_readMark {next : Char} {long short : TokenKind} (visible : ¬isLayout next)
    (h : ∀ ds, read c ds = readMark ds next long short) :
    Rereads c cs (readMark cs next long short) := by
  intro kind literal _ rest apart
  rw [h, readMark_take cs next long short visible apart]

theorem rereads_readNumber (h : ∀ ds, read c ds = readNumber c ds) :
    Rereads c cs (readNumber c cs) := by
  intro kind literal _ rest apart
  have ends : numberLength (cs.take (readNumber c cs).2 ++ rest) = numberLength cs :=
    numberLength_take cs apart
  have same : (cs.take (readNumber c cs).2 ++ rest).take (numberLength cs) =
      cs.take (numberLength cs) :=
    List.take_left' (List.length_take_of_le (numberLength_le cs))
  rw [h, readNumber, ends, same]
  rfl

theorem rereads_readName (h : ∀ ds, read c ds = readName c ds) : Rereads c cs (readName c cs) := by
  intro kind literal _ rest apart
  have length : (cs.take (runLength Lexer.isNamePart cs)).length = runLength Lexer.isNamePart cs :=
    List.length_take_of_le (runLength_le _ cs)
  have ends : runLength Lexer.isNamePart (cs.take (readName c cs).2 ++ rest) =
      runLength Lexer.isNamePart cs := by
    refine (runLength_append (fun d mem => ?_) apart.isNamePart).trans length
    rw [show (readName c cs).2 = runLength Lexer.isNamePart cs from rfl, take_runLength] at mem
    exact List.mem_takeWhile_imp mem
  have same : (cs.take (readName c cs).2 ++ rest).take (runLength Lexer.isNamePart cs) =
      cs.take (runLength Lexer.isNamePart cs) := List.take_left' length
  rw [h, readName, ends, same]
  rfl

/-- A text ends at its closing quote, whatever follows. -/
theorem readText_of_not_mem (h : '"' ∉ inside) (rest : List Char) :
    readText (inside ++ '"' :: rest) =
      (.token .string (some (.text (String.ofList inside))), inside.length + 1) := by
  have run : (inside ++ '"' :: rest).takeWhile (· != '"') = inside := by
    rw [List.takeWhile_append_of_pos]
    · simp
    · intro d mem
      have other : d ≠ '"' := by
        rintro rfl
        exact h mem
      simpa using other
  simp [readText, run]

/-- A text that ends holds no quote before its last character, which is one. -/
theorem exists_inside_of_readText {kind : TokenKind} {literal : Option Literal}
    (h : (readText cs).1 = .token kind literal) :
    ∃ inside ds, '"' ∉ inside ∧ cs = inside ++ '"' :: ds := by
  have shorter : (cs.takeWhile (· != '"')).length < cs.length := by
    by_contra longer
    simp [readText, longer] at h
  have quote := List.head?_dropWhile_not (· != '"') cs
  have parts : cs.takeWhile (· != '"') ++ cs.dropWhile (· != '"') = cs :=
    List.takeWhile_append_dropWhile
  cases left : cs.dropWhile (· != '"') with
  | nil =>
    rw [left, List.append_nil] at parts
    rw [parts] at shorter
    exact absurd shorter (Nat.lt_irrefl _)
  | cons d ds =>
    obtain rfl : d = '"' := by simpa [left] using quote
    refine ⟨cs.takeWhile (· != '"'), ds, fun mem => ?_, by rw [← left, parts]⟩
    simpa using List.mem_takeWhile_imp mem

theorem rereads_readText : Rereads '"' cs (readText cs) := by
  intro kind literal token rest _
  obtain ⟨inside, ds, free, rfl⟩ := exists_inside_of_readText cs token
  have taken : (inside ++ '"' :: ds).take (inside.length + 1) = inside ++ ['"'] := by
    simp [List.take_append, List.take_of_length_le]
  rw [readText_of_not_mem free, taken, List.append_assoc]
  exact readText_of_not_mem free rest

/-- Characters that start numbers start nothing else. -/
theorem read_of_isDigit (h : c.isDigit) : read c cs = readNumber c cs := by
  unfold read
  split
  iterate 23 exact absurd h (by decide)
  exact if_pos h

/-- Characters that start names start nothing else. -/
theorem read_of_isNameStart (letter : ¬c.isDigit) (h : isNameStart c) :
    read c cs = readName c cs := by
  unfold read
  split
  iterate 23 exact absurd h (by decide)
  rw [if_neg letter, if_pos h]

/-- An equals sign that is not doubled is not doubled by a blank character. -/
theorem rereads_equals (other : cs.head? ≠ some '=') :
    Rereads '=' cs (readMark cs '>' .fatArrow .equal) := by
  intro kind literal _ rest apart
  have single : (cs.take (readMark cs '>' .fatArrow .equal).2 ++ rest).head? ≠ some '=' := by
    by_cases follows : cs.head? = some '>'
    · obtain ⟨ds, rfl⟩ := List.head?_eq_some_iff.1 follows
      simp [readMark]
    · simpa [readMark, follows] using apart.head_ne '=' (by decide)
  rw [read, if_neg single, readMark_take cs '>' _ _ (by decide) apart]

/-- A slash starts no comment where a blank character follows. -/
theorem rereads_slash : Rereads '/' cs (.token .slash none, 0) := by
  intro kind literal _ rest apart
  rw [List.take_zero, List.nil_append, read]
  · rintro ds rfl
    exact apart.head_ne '/' (by decide) rfl
  · rintro ds rfl
    exact apart.head_ne '*' (by decide) rfl

/-- Each token is read again from its own characters: one case for each way in which something can
start. -/
theorem rereads_read : Rereads c cs (read c cs) := by
  unfold read
  split
  iterate 4 exact .of_not_token _ _ (by simp)
  iterate 12 exact .mark _ cs fun _ => rfl
  iterate 2 exact rereads_readMark _ cs (by decide) fun _ => rfl
  · split
    · rename_i follows
      obtain ⟨ds, rfl⟩ := List.head?_eq_some_iff.1 follows
      exact fun _ _ _ _ _ => rfl
    · rename_i other
      exact rereads_equals cs other
  iterate 2 exact rereads_readMark _ cs (by decide) fun _ => rfl
  · split
    iterate 2 exact .of_not_token _ _ (by simp)
    exact rereads_slash cs
  · exact rereads_readText cs
  · split
    · rename_i digit
      exact rereads_readNumber c cs fun ds => read_of_isDigit c ds digit
    · rename_i letter
      split
      · rename_i start
        exact rereads_readName c cs fun ds => read_of_isNameStart c ds letter start
      · exact .of_not_token _ _ (by simp)

end

/-! ### Tokens that are spaced anew -/

/-- A token that is read from its own characters, where a blank character follows them, or
nothing. -/
def Standalone (t : Token) : Prop :=
  ∃ c cs, t.lexeme = String.ofList (c :: cs) ∧
    ∀ rest, Apart rest → read c (cs ++ rest) = (.token t.kind t.literal, cs.length)

/-- Tokens that are the same but for their places. -/
structure Alike (t u : Token) : Prop where
  /-- They are of one kind. -/
  kind : u.kind = t.kind
  /-- They are spelled in one way. -/
  lexeme : u.lexeme = t.lexeme
  /-- They stand for the same constant, or both for none. -/
  literal : u.literal = t.literal

/-- The spellings of tokens with separators between them. -/
def spaced : List Token → List String → String
  | t :: u :: ts, sep :: seps => t.lexeme ++ (sep ++ spaced (u :: ts) seps)
  | [t], _ => t.lexeme
  | _, _ => ""

/-- Each token of a scan is read from its own characters again. -/
theorem standalone_of_mem_scanFrom (cs : List Char) (p : Position) :
    ∀ t, .ok t ∈ scanFrom 0 p cs → Standalone t := by
  induction h : cs.length using Nat.strong_induction_on generalizing cs p with
  | _ n ih =>
  intro t mem
  cases cs with
  | nil => cases mem
  | cons c cs =>
    have shorter : (cs.drop (read c cs).2).length < n := by
      rw [← h, List.length_drop, List.length_cons]
      omega
    rw [scanFrom_cons] at mem
    obtain here | later := List.mem_append.1 mem
    · have le := (reads_read c cs).1
      have again := rereads_read c cs
      cases first : read c cs with
      | mk reading n =>
        rw [first] at here le again
        cases reading with
        | layout => simp [item?] at here
        | fault f => simp [item?] at here
        | token kind literal =>
          obtain rfl : t = ⟨kind, String.ofList (c :: cs.take n), literal, p⟩ := by
            simpa [item?] using here
          refine ⟨c, cs.take n, rfl, fun rest apart => ?_⟩
          rw [again kind literal rfl rest apart, List.length_take_of_le le]
    · exact ih _ shorter _ _ rfl t later

/-- A token is scanned first where its spelling stands before a blank character, or alone. -/
theorem Standalone.scanFrom {t : Token} (h : Standalone t) (apart : Apart rest) (p : Position) :
    ∃ u, Alike t u ∧ scanFrom 0 p (t.lexeme.toList ++ rest) =
      .ok u :: Lexer.scanFrom 0 (p.after t.lexeme.toList) rest := by
  obtain ⟨c, cs, spelled, again⟩ := h
  have first := scanFrom_of_token (again rest apart) p
  rw [← spelled] at first
  refine ⟨⟨t.kind, t.lexeme, t.literal, p⟩, ⟨rfl, rfl, rfl⟩, ?_⟩
  rw [spelled, String.toList_ofList, List.cons_append, ← spelled]
  exact first

/-- Tokens that are spaced in any way are scanned one after the other: the induction is on the
tokens, and a scan passes over each separator to the token behind it. -/
theorem scanFrom_spaced (ts : List Token) (seps : List String) (p : Position)
    (standalone : ∀ t ∈ ts, Standalone t) (count : seps.length = ts.length - 1)
    (keep : ∀ sep ∈ seps, Separator sep.toList) :
    ∃ us, scanFrom 0 p (spaced ts seps).toList = us.map .ok ∧ List.Forall₂ Alike ts us := by
  fun_induction spaced ts seps generalizing p with
  | case1 t v ts sep seps ih =>
    obtain ⟨here, later⟩ := List.forall_mem_cons.1 standalone
    obtain ⟨separates, others⟩ := List.forall_mem_cons.1 keep
    obtain ⟨u, alike, first⟩ := here.scanFrom (separates.apart (spaced (v :: ts) seps).toList) p
    obtain ⟨us, items, alikes⟩ := ih ((p.after t.lexeme.toList).after sep.toList) later
      (by simpa using count) others
    refine ⟨u :: us, ?_, .cons alike alikes⟩
    rw [String.toList_append, String.toList_append, first, separates.spacing.scanFrom, items]
    rfl
  | case2 t seps =>
    have alone : Apart [] := fun _ none => absurd none (by simp)
    obtain ⟨u, alike, first⟩ := (standalone t (by simp)).scanFrom alone p
    refine ⟨[u], ?_, .cons alike .nil⟩
    simpa [Lexer.scanFrom] using first
  | case3 ts seps many one =>
    cases ts with
    | nil => exact ⟨[], rfl, .nil⟩
    | cons t ts =>
      cases ts with
      | nil => exact absurd rfl (one t)
      | cons v ts =>
        cases seps with
        | nil => simp at count
        | cons sep seps => exact absurd rfl (many t v ts sep seps rfl)

/-- Tokens do not depend on layout. If a text scans without a fault, then the spellings of its
tokens scan without a fault into the same tokens again, whatever separators stand between them. -/
theorem scan_spaced (source : String) (ts : List Token) (seps : List String)
    (scans : scan source = ts.map .ok) (count : seps.length = ts.length - 1)
    (keep : ∀ sep ∈ seps, Separator sep.toList) :
    ∃ us, scan (spaced ts seps) = us.map .ok ∧ List.Forall₂ Alike ts us := by
  refine scanFrom_spaced ts seps .start (fun t mem => ?_) count keep
  refine standalone_of_mem_scanFrom source.toList .start t ?_
  change .ok t ∈ scan source
  rw [scans]
  exact List.mem_map_of_mem mem

/-- A comparison without layout keeps its tokens between a comment at the end of a line and one
that holds another. -/
theorem scan_spaced_comparison :
    ∃ us, scan "a\n// =\n>= /* /* */*/\"=\"" = us.map .ok ∧
      List.Forall₂ Alike (tokens (scan "a>=\"=\"")) us := by
  refine scan_spaced "a>=\"=\"" (tokens (scan "a>=\"=\"")) ["\n// =\n", " /* /* */*/"]
    (by rfl) (by rfl) ?_
  have line : Separator ['\n', '/', '/', ' ', '=', '\n'] := by
    have inside : '\n' ∉ [' ', '='] := by decide
    exact .mk rfl (.line inside .nil)
  have block : Separator [' ', '/', '*', ' ', '/', '*', ' ', '*', '/', '*', '/'] := by
    have inner : Closed 1 [' ', '*', '/', '*', '/'] :=
      .char (.closeInner .close) (by decide) (by decide)
    have outer : Closed 0 [' ', '/', '*', ' ', '*', '/', '*', '/'] :=
      .char (.openInner inner) (by decide) (by decide)
    exact .mk rfl (.block outer .nil)
  simpa using ⟨line, block⟩

end FoxScript.Lexer
