import FoxScript.Proofs.CommandLine.Script
import FoxScript.Proofs.Console
import Mathlib

/-!
# What a prompt takes from its input

A prompt reads a line, runs it, and reads the next. The lines that are run can read from the same
input, though through a buffer of their own, which is filled with all that is there. The prompt goes
on behind that buffer. So what is left in it is passed over, and the lines of the prompt and the reads
of the program take the input in order only as long as the buffer is empty whenever the prompt reads.

## Main definitions

* `CommandLine.round`: one round of a prompt.
* `CommandLine.Asks`: a prompt asks for a line, after it and the program have taken some parts of the
  input.

## Main statements

* `CommandLine.exists_asks`: every prompt goes from round to round.
* `CommandLine.runPrompt_takes`: what is taken from the input, and where the next line starts.
-/
namespace FoxScript

/-- What an evaluation reads it takes from the input in some reads. -/
theorem Eval.preserved_input :
    Preserved fun s t => ∃ pieces, s.input.Takes pieces t.input where
  refl s := ⟨[], .done _⟩
  trans := fun ⟨_, h⟩ ⟨_, g⟩ => ⟨_, h.trans g⟩
  store _ _ := ⟨[], .done _⟩
  output s _ := ⟨[], .done _⟩
  readLine s := ⟨_, .line (.done _)⟩
  readByte s := ⟨_, .byte (.done _)⟩
  compile s source := by
    obtain ⟨fresh, hops, programs, same⟩ := s.compile_snd source
    rw [same]
    exact ⟨[], .done _⟩
  frame h := h
  baseDirectory h := h
  importing h := h

/-- A call of the builtin function that reads a line, where its name is global. -/
theorem Eval.evaluate_input {n : Nat} {s : Session} {id : NodeId} {name close : Token}
    {text : String} {f : FunctionId} {cs : List Char} (outside : s.hops[id]? = none)
    (owner : s.store.find Store.root name.lexeme = .ok Store.root)
    (value : s.store.valueIn name.lexeme Store.root = .function (.builtin f .input))
    (line : s.input.readLine.1 = .ok cs) :
    evaluate (n + 2) (.call (.variable id name) [.literal (.text text)] close) s =
      .ok (.text (chompLine cs))
        { s with output := s.output.print text, input := s.input.readLine.2 } := by
  have found : ownerOf id name s = .ok Store.root s := by
    rw [ownerOf, bind_of_ok (show (get : Eval Session) s = .ok s s from rfl), outside, owner]
    rfl
  have callee : evaluate (n + 1) (.variable id name) s = .ok (.function (.builtin f .input)) s := by
    rw [← value]
    exact bind_of_ok found
  refine (bind_of_ok callee).trans ?_
  change Eval.readLine close { s with output := s.output.print text } = _
  have read : (modifyGet fun s => (s.input.readLine.1, { s with input := s.input.readLine.2 }) :
      Eval _) { s with output := s.output.print text } =
        .ok (.ok cs) { s with output := s.output.print text, input := s.input.readLine.2 } :=
    congrArg (EStateM.Result.ok · _) line
  exact bind_of_ok read

namespace CommandLine

/-! ### Rounds -/

/-- What a round of a prompt comes to. -/
inductive Round
  /-- It is the last. -/
  | last (report : Report)
  /-- The prompt asks again. -/
  | again (s : Session) (errors : String)

/-- One round of a prompt. -/
def round (debug : Bool) (s : Session) (errors : String) : Round :=
  let s := { s with output := s.output.print "> " }
  let (read, input) := s.input.promptLine
  let s := { s with input := input }
  match read with
  | .error cause =>
    .last ⟨promptFailure, s.output.text, errors ++ reportText [.system (.io cause)]⟩
  | .ok [] => .last ⟨0, s.output.text, errors⟩
  | .ok cs =>
    let line := Text.trim (String.ofList cs)
    if line = "exit" then .last ⟨0, s.output.text, errors⟩
    else if line = "" then .again s errors
    else
      let e := runText debug s line
      let errors := errors ++ e.errors
      let s := e.session
      match e.outcome with
      | .value v =>
        let shown := line ++ " ===> " ++ v.render s.store ++ "\n"
        .again { s with output := s.output.print shown } errors
      | .failed _ => .again s errors
      | .crashed | .exhausted => .last ⟨crash, s.output.text, errors⟩

/-- A prompt does one round after the other. -/
theorem prompt_succ (debug : Bool) (n : Nat) (s : Session) (errors : String) :
    prompt debug (n + 1) s errors =
      match round debug s errors with
      | .last report => report
      | .again s errors => prompt debug n s errors := by
  rw [prompt, round]
  dsimp only
  cases s.input.promptLine.1 with
  | error cause => rfl
  | ok cs =>
    cases cs with
    | nil => rfl
    | cons c cs =>
      dsimp only
      split
      · rfl
      · split
        · rfl
        · generalize runText debug _ _ = e
          cases e.outcome <;> rfl

section

variable {debug : Bool} {s t : Session} {errors errors' : String}
  (h : round debug s errors = .again t errors')

include h

/-- A prompt that asks again has read a line, which it has run unless it is blank. -/
theorem line_of_round : (∃ c cs, s.input.promptLine.1 = .ok (c :: cs)) ∧
    (t.input = s.input.promptLine.2 ∨ ∃ line output,
      t.input = (Session.run { s with output := output, input := s.input.promptLine.2 }
        line).2.input) := by
  rw [round] at h
  dsimp only at h
  cases read : s.input.promptLine.1 with
  | error cause =>
    rw [read] at h
    cases h
  | ok cs =>
    rw [read] at h
    cases cs with
    | nil => cases h
    | cons c cs =>
      refine ⟨⟨c, cs, rfl⟩, ?_⟩
      dsimp only at h
      split at h
      · cases h
      · split at h
        · cases h
          exact .inl rfl
        · refine .inr ⟨Text.trim (String.ofList (c :: cs)), s.output.print "> ", ?_⟩
          rw [← runText_eq debug]
          revert h
          generalize runText debug _ _ = e
          cases e.outcome with
          | value v => intro h; cases h; rfl
          | failed ds => intro h; cases h; rfl
          | crashed | exhausted => intro h; cases h

/-- What the program reads in a round it takes from the input in some reads. -/
theorem exists_takes_of_round : ∃ pieces, s.input.promptLine.2.Takes pieces t.input := by
  obtain ⟨-, same | ⟨line, output, same⟩⟩ := line_of_round h
  · rw [same]
    exact ⟨[], .done _⟩
  · rw [same]
    exact Eval.preserved_input.run { s with output := output, input := s.input.promptLine.2 } line

/-- A prompt that asks again has taken at least one byte. -/
theorem length_lt_of_round : t.input.bytes.length < s.input.bytes.length := by
  obtain ⟨⟨c, cs, read⟩, -⟩ := line_of_round h
  obtain ⟨pieces, reads⟩ := exists_takes_of_round h
  obtain ⟨line, held, beyond⟩ := s.input.promptLine_spec
  have some : (Input.splitLine s.input.beyond).1 ≠ [] := by
    intro none
    rw [line, none] at read
    cases read
  have taken := congrArg List.length reads.drawn.bytes
  have parts := congrArg List.length (Input.splitLine_append_eq s.input.beyond)
  have positive := List.length_pos_of_ne_nil some
  simp only [Input.bytes_eq, held, beyond, List.length_append] at taken parts ⊢
  omega

end

/-- A round whose line has a value is not the last. -/
theorem round_of_value (debug : Bool) {s t : Session} (errors : String) {source : String} {c : Char}
    {cs : List Char} {v : Value} (read : s.input.promptLine.1 = .ok (c :: cs))
    (trimmed : Text.trim (String.ofList (c :: cs)) = source) (stays : source ≠ "exit")
    (some : source ≠ "")
    (run : Session.run { s with output := s.output.print "> ", input := s.input.promptLine.2 }
      source = (.value v, t)) :
    ∃ output errors', round debug s errors = .again { t with output := output } errors' := by
  rw [round]
  dsimp only
  rw [read]
  dsimp only
  rw [trimmed, if_neg stays, if_neg some]
  rw [← runText_eq debug] at run
  obtain ⟨outcome, session⟩ := Prod.mk.inj run
  rw [outcome, session]
  exact ⟨_, _, rfl⟩

/-! ### Runs -/

/-- A part of the input that is taken. -/
inductive Take
  /-- The prompt reads a line behind the program's buffer. What that buffer holds is passed over. -/
  | line (passed bytes : List UInt8)
  /-- The program reads. -/
  | read (bytes : List UInt8)

namespace Take

/-- The bytes that are taken. -/
def bytes : Take → List UInt8
  | line _ bytes | read bytes => bytes

/-- The bytes that are passed over. -/
def passed : Take → List UInt8
  | line passed _ => passed
  | read _ => []

/-- Whether the prompt takes the bytes. -/
def isLine : Take → Bool
  | line _ _ => true
  | read _ => false

end Take

/-- All bytes that are taken. -/
def taken (log : List Take) : List UInt8 := log.flatMap Take.bytes

theorem taken_reads (log : List Take) (pieces : List (List UInt8)) :
    taken (log ++ pieces.map .read) = taken log ++ pieces.flatten := by
  have bytes : (pieces.map Take.read).flatMap Take.bytes = pieces.flatten := by
    rw [List.flatMap_map, ← List.flatMap_id]
    rfl
  rw [taken, List.flatMap_append, bytes]
  rfl

/-- The prompt that starts in a session asks for a line, after some parts of the input are taken: the
line of each round, and what the program reads in it. -/
inductive Asks (debug : Bool) (s₀ : Session) : List Take → Session → Prop
  /-- The prompt asks for the first line. -/
  | first : Asks debug s₀ [] s₀
  /-- The prompt asks again after a round. -/
  | again {log : List Take} {s t : Session} {errors errors' : String} {pieces : List (List UInt8)}
    (before : Asks debug s₀ log s) (round : round debug s errors = .again t errors')
    (reads : s.input.promptLine.2.Takes pieces t.input) :
    Asks debug s₀
      (log ++ .line s.input.held (Input.splitLine s.input.beyond).1 :: pieces.map .read) t

/-- Every prompt goes from round to round up to its last. -/
theorem exists_asks {debug : Bool} {n : Nat} {s₀ s : Session} {log : List Take}
    (asks : Asks debug s₀ log s) (h : s.input.bytes.length < n) (errors : String) :
    ∃ log' t errors', Asks debug s₀ log' t ∧
      round debug t errors' = .last (prompt debug n s errors) := by
  induction n generalizing s log errors with
  | zero => exact absurd h (Nat.not_lt_zero _)
  | succ n ih =>
    rw [prompt_succ]
    cases ends : round debug s errors with
    | last report => exact ⟨log, s, errors, asks, ends⟩
    | again t errors' =>
      obtain ⟨pieces, reads⟩ := exists_takes_of_round ends
      have shorter := length_lt_of_round ends
      exact ih (.again asks ends reads) (by omega) errors'

/-! ### What is left -/

/-- What is taken from the input and what is left of it. -/
structure Accounts (input : List UInt8) (log : List Take) (i : Input) : Prop where
  /-- What is left is what the program's buffer holds and what is behind it. In between, there can be
  lines of the prompt. -/
  split : ∃ before between, input = before ++ i.held ++ between ++ i.beyond ∧
    (taken log).Perm (before ++ between)
  /-- If nothing was passed over, all was taken in order. -/
  inOrder : (∀ p ∈ log, p.passed = []) → input = taken log ++ i.bytes
  /-- If the program has read nothing, its buffer is empty. -/
  unread : (∀ p ∈ log, p.isLine) → i.held = []

namespace Accounts

variable {input : List UInt8} {log : List Take} {i j : Input}

/-- The prompt reads a line. -/
theorem line {bytes : List UInt8} (h : Accounts input log i) (held : j.held = i.held)
    (beyond : i.beyond = bytes ++ j.beyond) : Accounts input (log ++ [.line i.held bytes]) j := by
  have more : taken (log ++ [.line i.held bytes]) = taken log ++ bytes := by
    simp [taken, Take.bytes]
  obtain ⟨before, between, input_eq, perm⟩ := h.split
  refine ⟨⟨before, between ++ bytes, ?_, ?_⟩, fun straight => ?_, fun lines => ?_⟩
  · simp [input_eq, held, beyond]
  · simpa [more] using perm.append_right bytes
  · have empty : i.held = [] := straight _ (List.mem_append_right _ List.mem_cons_self)
    have before := h.inOrder fun p mem => straight p (List.mem_append_left _ mem)
    rw [more, before, Input.bytes_eq, Input.bytes_eq, held, empty, beyond]
    simp
  · exact held.trans (h.unread fun p mem => lines p (List.mem_append_left _ mem))

/-- The program reads. -/
theorem reads {pieces : List (List UInt8)} (h : Accounts input log i) (takes : i.Takes pieces j) :
    Accounts input (log ++ pieces.map .read) j := by
  obtain ⟨before, between, input_eq, perm⟩ := h.split
  rw [List.perm_iff_count] at perm
  refine ⟨?_, fun straight => ?_, fun lines => ?_⟩
  · rw [taken_reads]
    cases takes.drawn with
    | within held beyond =>
      refine ⟨before ++ pieces.flatten, between, by simp [input_eq, held, beyond], ?_⟩
      rw [List.perm_iff_count]
      intro b
      have counts := perm b
      simp only [List.count_append] at counts ⊢
      omega
    | past rest flatten beyond =>
      refine ⟨before ++ i.held ++ between ++ rest, [], by simp [input_eq, beyond], ?_⟩
      rw [flatten, List.perm_iff_count]
      intro b
      have counts := perm b
      simp only [List.count_append, List.count_nil] at counts ⊢
      omega
  · have before := h.inOrder fun p mem => straight p (List.mem_append_left _ mem)
    rw [taken_reads, before, takes.drawn.bytes, List.append_assoc]
  · cases takes with
    | done => exact h.unread fun p mem => lines p (List.mem_append_left _ mem)
    | line | byte => exact absurd (lines _ (List.mem_append_right _ List.mem_cons_self)) nofun

end Accounts

/-- Whenever a prompt asks, all that was taken and all that is left is accounted for. -/
theorem Asks.accounts {debug : Bool} {s₀ s : Session} {log : List Take}
    (fresh : s₀.input.held = []) (h : Asks debug s₀ log s) :
    Accounts s₀.input.bytes log s.input := by
  induction h with
  | first =>
    have whole : s₀.input.bytes = s₀.input.beyond := by rw [Input.bytes_eq, fresh, List.nil_append]
    exact ⟨⟨[], [], by simp [whole, fresh], .refl _⟩, fun _ => rfl, fun _ => fresh⟩
  | @again log s t _ _ pieces before round reads ih =>
    obtain ⟨-, held, beyond⟩ := s.input.promptLine_spec
    have line := (Input.splitLine_append_eq s.input.beyond).symm
    rw [← beyond] at line
    have whole := (ih.line held line).reads reads
    rwa [List.append_assoc] at whole

/-- Every prompt goes from round to round. Whenever it asks for a line, each byte of its input has
been taken once, by the prompt or by the program, or is left; what is left is what the program's
buffer holds, and what is behind that buffer. There the next line starts. So if the buffer was empty
whenever the prompt asked, the lines of the prompt and the reads of the program have taken the input
in order, and the next line starts with the first byte that is left just if the buffer is empty now
as well. The buffer is empty as long as no line has read from the input. -/
theorem runPrompt_takes (o : Options) (files : FileSystem) (input : List UInt8) (now : Float) :
    let start := Session.new files .current o.policy (.ofBytes input) now
    (∃ log s errors, Asks o.debug start log s ∧
      round o.debug s errors = .last (runPrompt o files (.ofBytes input) now)) ∧
    ∀ log s, Asks o.debug start log s →
      s.input.promptLine.1 = Input.lineText (Input.splitLine s.input.beyond).1 ∧
      (∃ before between, input = before ++ s.input.held ++ between ++ s.input.beyond ∧
        (taken log).Perm (before ++ between)) ∧
      ((∀ p ∈ log, p.passed = []) → input = taken log ++ s.input.held ++ s.input.beyond) ∧
      ((∀ p ∈ log, p.isLine) → s.input.held = []) := by
  intro start
  have bytes : start.input.bytes = input := rfl
  refine ⟨?_, fun log s asks => ?_⟩
  · have opening : Asks o.debug start [] start := .first
    exact exists_asks opening (Nat.lt_succ_self _) ""
  · obtain ⟨split, inOrder, unread⟩ := asks.accounts rfl
    refine ⟨s.input.promptLine_spec.1, split, fun straight => ?_, unread⟩
    rw [← bytes, inOrder straight, Input.bytes_eq, List.append_assoc]

/-- A line reads the line behind it. The last line is then in the program's buffer, and where the
prompt goes on nothing is left. -/
theorem runPrompt_takes_of_a_line_that_reads :
    let input := "input(\"q\")\nanswer\n1\n".toUTF8.toList
    let start := Session.new .empty .current .propagate (.ofBytes input) 0
    let log : List Take :=
      [.line [] "input(\"q\")\n".toUTF8.toList, .read "answer\n".toUTF8.toList]
    (Asks false start [] start ∧ start.input.held = []) ∧
    ∃ s, Asks false start log s ∧ input = taken log ++ s.input.held ++ s.input.beyond ∧
      s.input.held = "1\n".toUTF8.toList ∧ s.input.promptLine.1 = .ok [] := by
  intro input start log
  let name : Token := ⟨.identifier, "input", none, ⟨1, 1⟩⟩
  let program : List Expr :=
    [.call (.variable ⟨0⟩ name) [.literal (.text "q")] ⟨.rightParen, ")", none, ⟨1, 10⟩⟩]
  let s := { start with output := start.output.print "> ", input := start.input.promptLine.2 }
  obtain ⟨t, compiled, store, left, outside⟩ : ∃ t, s.compile "input(\"q\")" = (.ok program, t) ∧
      t.store = s.store ∧ t.input = s.input ∧ t.hops[(⟨0⟩ : NodeId)]? = none := by
    have sound : (Import.read s.fresh "input(\"q\")").faults = [] := by cbv
    have read : (Import.read s.fresh "input(\"q\")").exprs = program := by cbv
    have compiled := Session.compile_of_read sound
    rw [read, Session.accept_of_faults rfl] at compiled
    refine ⟨_, compiled, rfl, rfl, ?_⟩
    rw [Session.hops_adopt]
    exact congrArg₂ Option.or Std.HashMap.getElem?_empty Std.HashMap.getElem?_empty
  obtain ⟨u, run, behind⟩ : ∃ u, s.run "input(\"q\")" = (.value (.text "answer"), u) ∧
      u.input = s.input.readLine.2 := by
    have line : t.input.readLine.1 = .ok "answer\n".toList := by
      rw [left]
      decide +kernel
    have owner : t.store.find Store.root name.lexeme = .ok Store.root := by
      rw [store]
      rfl
    have value : t.store.valueIn name.lexeme Store.root = .function (.builtin ⟨3⟩ .input) := by
      rw [store]
      rfl
    have last : Eval.last (Eval.evaluate Eval.budget) .null program t = _ :=
      Eval.bind_of_ok (Eval.evaluate_input outside owner value line)
    rw [Session.run, compiled]
    dsimp only
    rw [Session.interpret, Session.interpretBy, Eval.interpret, Eval.confined, last]
    exact ⟨_, rfl, congrArg (fun i => i.readLine.2) left⟩
  have read : start.input.promptLine.1 = .ok "input(\"q\")\n".toList := by decide +kernel
  obtain ⟨output, errors, again⟩ :=
    round_of_value false "" read (by decide) (by decide) (by decide) run
  have reads : s.input.Takes ["answer\n".toUTF8.toList] u.input := by
    have line : (Input.splitLine s.input.bytes).1 = "answer\n".toUTF8.toList := by decide +kernel
    rw [behind, ← line]
    exact .line (.done _)
  have asks : Asks false start log { u with output := output } := by
    have line : (Input.splitLine start.input.beyond).1 = "input(\"q\")\n".toUTF8.toList := by
      decide +kernel
    have asks : Asks false start _ _ := .again .first again reads
    rwa [line] at asks
  obtain ⟨-, whenever⟩ := runPrompt_takes ⟨none, false, .propagate⟩ .empty input 0
  obtain ⟨-, -, -, unread⟩ := whenever [] start .first
  obtain ⟨-, -, inOrder, -⟩ := whenever log _ asks
  refine ⟨⟨.first, unread (List.forall_mem_nil _)⟩, _, asks, inOrder ?_, ?_, ?_⟩
  · simp [log, Take.passed]
  · change u.input.held = _
    rw [behind]
    decide +kernel
  · change u.input.promptLine.1 = _
    rw [behind]
    decide +kernel

end CommandLine

end FoxScript
