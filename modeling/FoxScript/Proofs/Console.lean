import FoxScript.Console
import Mathlib.Data.List.Basic

/-!
# What is taken from the input

The program reads what its own buffer holds and goes on behind it; whenever that buffer is empty it is
filled anew. The prompt reads behind the program's buffer, and leaves it alone. So there are two
places in the input at which it can go on, and they are the same as long as the program's buffer is
empty.

## Main definitions

* `Input.beyond`: what the prompt can read.
* `Input.Drawn`: what the program can take, and from where.
* `Input.Takes`: reads of the program, one after the other.

## Main statements

* `Input.promptLine_spec`: what a read of the prompt takes.
* `Input.readLine_spec`, `Input.readByte_spec`: what a read of the program takes.
* `Input.Takes.drawn`: from where the program takes what it takes.
-/
namespace FoxScript.Input

/-- The bytes that the program's buffer does not hold. -/
def beyond (i : Input) : List UInt8 := i.shared ++ i.waiting.remaining

@[simp] theorem beyond_held (i : Input) (bytes : List UInt8) :
    ({ i with held := bytes } : Input).beyond = i.beyond := rfl

theorem bytes_eq (i : Input) : i.bytes = i.held ++ i.beyond := List.append_assoc ..

/-! ### Lines -/

theorem splitLine_append_eq (bs : List UInt8) : (splitLine bs).1 ++ (splitLine bs).2 = bs := by
  fun_induction splitLine bs with
  | case1 => rfl
  | case2 => rfl
  | case3 b bs other line rest split ih => simpa [split] using ih

/-- The first line of some bytes and others is that of the former, unless it does not end there. -/
theorem splitLine_append (bs cs : List UInt8) :
    splitLine (bs ++ cs) =
      if (splitLine bs).1.getLast? = some 10 then ((splitLine bs).1, (splitLine bs).2 ++ cs)
      else (bs ++ (splitLine cs).1, (splitLine cs).2) := by
  induction bs with
  | nil => simp [splitLine]
  | cons b bs ih =>
    by_cases feed : b = 10
    · simp [splitLine, feed]
    · have last : (b :: (splitLine bs).1).getLast? = some 10 ↔
          (splitLine bs).1.getLast? = some 10 := by
        cases (splitLine bs).1 <;> simp [feed]
      simp only [List.cons_append, splitLine, feed, if_false, ih, last]
      split <;> rfl

/-- A line that does not end takes all bytes. -/
theorem splitLine_of_getLast?_ne {bs : List UInt8} (h : (splitLine bs).1.getLast? ≠ some 10) :
    splitLine bs = (bs, []) := by
  have whole := splitLine_append bs []
  rw [if_neg h, List.append_nil] at whole
  simpa [splitLine] using whole

/-! ### Reads of the prompt -/

theorem beyond_fillShared (i : Input) : i.fillShared.beyond = i.beyond := by
  rw [fillShared]
  split
  · rename_i empty
    simp [beyond, empty, Script.read]
  · rfl

theorem held_fillShared (i : Input) : i.fillShared.held = i.held := by
  rw [fillShared]
  split <;> rfl

/-- A buffer that stays empty when it is filled is at the end. -/
theorem beyond_eq_nil_of_fillShared {i : Input} (h : i.fillShared.shared = []) :
    i.beyond = [] := by
  rw [fillShared] at h
  split at h
  · rename_i empty
    have none : i.waiting.remaining = [] := by simpa [Script.read, bufferSize] using h
    rw [beyond, empty, none]
    rfl
  · rename_i full
    exact absurd h full

/-- The prompt takes the first line of what the program's buffer does not hold. -/
theorem sharedLine_spec {n : Nat} {i : Input} (h : i.beyond.length < n) :
    (sharedLine n i).1 = (splitLine i.beyond).1 ∧ (sharedLine n i).2.held = i.held ∧
      (sharedLine n i).2.beyond = (splitLine i.beyond).2 := by
  induction n generalizing i with
  | zero => exact absurd h (Nat.not_lt_zero _)
  | succ n ih =>
    have ends := beyond_eq_nil_of_fillShared (i := i)
    rw [sharedLine, ← i.beyond_fillShared, ← i.held_fillShared]
    rw [← i.beyond_fillShared] at h ends
    generalize i.fillShared = j at h ends
    rw [beyond] at h ends ⊢
    rw [splitLine_append]
    dsimp only
    -- the line ends in the buffer, or nothing is left, or it goes on behind the buffer
    by_cases last : (splitLine j.shared).1.getLast? = some 10
    · simp [last, beyond]
    · rw [if_neg last]
      have whole := splitLine_of_getLast?_ne last
      cases shared : j.shared with
      | nil =>
        have none := ends shared
        rw [shared, List.nil_append] at none
        simp [splitLine, none, beyond]
      | cons b bs =>
        have rest := ih (i := { j with shared := [] }) (by simp [beyond, shared] at h ⊢; omega)
        rw [shared] at whole last
        rw [whole] at last ⊢
        simpa [last, beyond] using rest

/-! ### What the program's buffer gives -/

/-- The program takes some bytes: from its buffer, or all that its buffer holds and more behind that,
where the buffer is then filled anew. -/
inductive Drawn (i : Input) (taken : List UInt8) (j : Input) : Prop
  /-- The bytes are from the buffer. -/
  | within (held : i.held = taken ++ j.held) (beyond : j.beyond = i.beyond)
  /-- The bytes are from the buffer and from behind it. -/
  | past (more : List UInt8) (taken_eq : taken = i.held ++ more)
    (beyond : i.beyond = more ++ j.held ++ j.beyond)

namespace Drawn

variable {i j k : Input} {taken taken' : List UInt8}

theorem refl (i : Input) : Drawn i [] i := .within rfl rfl

theorem trans (h : Drawn i taken j) (h' : Drawn j taken' k) : Drawn i (taken ++ taken') k := by
  cases h with
  | within held beyond =>
    cases h' with
    | within held' beyond' => exact .within (by simp [held, held']) (beyond'.trans beyond)
    | past more taken_eq beyond' =>
      exact .past more (by simp [held, taken_eq]) (beyond ▸ beyond')
  | past more taken_eq beyond =>
    cases h' with
    | within held' beyond' =>
      exact .past (more ++ taken') (by simp [taken_eq]) (by simp [beyond, held', beyond'])
    | past more' taken_eq' beyond' =>
      exact .past (more ++ taken') (by simp [taken_eq]) (by simp [beyond, taken_eq', beyond'])

/-- What is taken is the front of what was left. -/
theorem bytes (h : Drawn i taken j) : i.bytes = taken ++ j.bytes := by
  rw [bytes_eq, bytes_eq]
  cases h with
  | within held beyond => simp [held, beyond]
  | past more taken_eq beyond => simp [taken_eq, beyond]

theorem fillHeld (i : Input) : Drawn i [] i.fillHeld := by
  rw [Input.fillHeld]
  split
  · rename_i empty
    split
    · rename_i shared
      exact .past [] (by simp [empty]) (by simp [Input.beyond, shared, Script.read])
    · exact .past [] (by simp [empty]) (by simp [Input.beyond])
  · exact refl i

theorem front {rest : List UInt8} (h : i.held = taken ++ rest) :
    Drawn i taken { i with held := rest } := .within h rfl

end Drawn

/-- A buffer that stays empty when it is filled is at the end. -/
theorem bytes_eq_nil_of_fillHeld {i : Input} (h : i.fillHeld.held = []) : i.bytes = [] := by
  rw [fillHeld] at h
  split at h
  · rename_i empty
    split at h
    · rename_i shared
      have none : i.waiting.remaining = [] := by simpa [Script.read, bufferSize] using h
      rw [bytes, empty, shared, none]
      rfl
    · rename_i full
      exact absurd h full
  · rename_i full
    exact absurd h full

/-- The program takes the first line of what is left. -/
theorem heldLine_spec {n : Nat} {i : Input} (h : i.bytes.length < n) :
    (heldLine n i).1 = (splitLine i.bytes).1 ∧
      Drawn i (splitLine i.bytes).1 (heldLine n i).2 := by
  induction n generalizing i with
  | zero => exact absurd h (Nat.not_lt_zero _)
  | succ n ih =>
    have filled := Drawn.fillHeld i
    have same : i.bytes = i.fillHeld.bytes := filled.bytes
    have ends := bytes_eq_nil_of_fillHeld (i := i)
    rw [heldLine]
    rw [same] at h ends ⊢
    generalize i.fillHeld = j at h ends filled
    rw [bytes_eq] at h ends ⊢
    rw [splitLine_append]
    dsimp only
    -- the same cases as for the prompt, with the bytes of each filling taken one after the other
    by_cases last : (splitLine j.held).1.getLast? = some 10
    · have front := Drawn.front (splitLine_append_eq j.held).symm
      simpa [last] using filled.trans front
    · rw [if_neg last]
      have whole := splitLine_of_getLast?_ne last
      cases held : j.held with
      | nil =>
        have none : j.beyond = [] := by simpa [held] using ends held
        have empty : ({ j with held := [] } : Input) = j := by rw [← held]
        simpa [splitLine, none, empty] using filled
      | cons b bs =>
        have rest := ih (i := { j with held := [] }) (by simp [bytes_eq, held] at h ⊢; omega)
        have front : Drawn j j.held { j with held := [] } := .front (List.append_nil _).symm
        have behind : ({ j with held := [] } : Input).bytes = j.beyond := bytes_eq _
        rw [behind] at rest
        have drawn := filled.trans (front.trans rest.2)
        rw [held] at last whole drawn
        rw [whole] at last ⊢
        simpa [last, rest.1] using drawn

/-- The blank bytes at the front with the byte behind them, and the rest. -/
def splitByte : List UInt8 → List UInt8 × List UInt8
  | [] => ([], [])
  | b :: bs =>
    if isBlankByte b then
      let (bytes, rest) := splitByte bs
      (b :: bytes, rest)
    else ([b], bs)

/-- The program takes the blank bytes at the front of what is left and the byte behind them, which is
the byte that it gets. -/
theorem nextByte_spec {n : Nat} {i : Input} (h : i.bytes.length < n) :
    (nextByte n i).1 = i.bytes.find? (!isBlankByte ·) ∧
      Drawn i (splitByte i.bytes).1 (nextByte n i).2 := by
  induction n generalizing i with
  | zero => exact absurd h (Nat.not_lt_zero _)
  | succ n ih =>
    have filled := Drawn.fillHeld i
    have same : i.bytes = i.fillHeld.bytes := filled.bytes
    have ends := bytes_eq_nil_of_fillHeld (i := i)
    rw [nextByte]
    rw [same] at h ends ⊢
    generalize i.fillHeld = j at h ends filled
    dsimp only
    cases held : j.held with
    | nil => simpa [ends held, splitByte] using filled
    | cons b bs =>
      have front : Drawn j [b] { j with held := bs } := .front held
      have bytes : j.bytes = b :: ({ j with held := bs } : Input).bytes := front.bytes
      rw [bytes] at h ⊢
      have first := filled.trans front
      dsimp only
      by_cases blank : isBlankByte b
      · have rest := ih (Nat.lt_of_succ_lt_succ h)
        simpa [blank, splitByte, rest.1] using first.trans rest.2
      · simpa [blank, splitByte] using first

/-! ### Reads -/

/-- What the prompt gets is the first line behind the program's buffer, which it leaves alone. -/
theorem promptLine_spec (i : Input) :
    i.promptLine.1 = lineText (splitLine i.beyond).1 ∧ i.promptLine.2.held = i.held ∧
      i.promptLine.2.beyond = (splitLine i.beyond).2 := by
  have shorter : i.beyond.length < i.bytes.length + 1 := by
    rw [bytes_eq, List.length_append]
    omega
  obtain ⟨line, held, rest⟩ := sharedLine_spec shorter
  exact ⟨congrArg lineText line, held, rest⟩

/-- What the program gets as a line is the first line of what is left. -/
theorem readLine_spec (i : Input) :
    i.readLine.1 = lineText (splitLine i.bytes).1 ∧ Drawn i (splitLine i.bytes).1 i.readLine.2 := by
  obtain ⟨line, drawn⟩ := heldLine_spec (Nat.lt_succ_self i.bytes.length)
  exact ⟨congrArg lineText line, drawn⟩

/-- What the program gets as a byte is the first byte left that is not blank. -/
theorem readByte_spec (i : Input) :
    i.readByte.1 = i.bytes.find? (!isBlankByte ·) ∧ Drawn i (splitByte i.bytes).1 i.readByte.2 :=
  nextByte_spec (Nat.lt_succ_self i.bytes.length)

-- The program reads a line that the prompt has not read. The line behind it is then in the program's
-- buffer, and the prompt finds that there are no more lines.
example :
    let i := (ofBytes [10, 50, 10, 49, 10]).promptLine.2.readLine.2
    i.held = [49, 10] ∧ i.promptLine.1 = .ok [] := by decide +kernel

/-- What the program takes in some reads, one after the other. -/
inductive Takes : Input → List (List UInt8) → Input → Prop
  /-- There is no read. -/
  | done (i : Input) : Takes i [] i
  /-- A line is read. -/
  | line {i j : Input} {pieces : List (List UInt8)} (more : Takes i.readLine.2 pieces j) :
    Takes i ((splitLine i.bytes).1 :: pieces) j
  /-- A byte is read. -/
  | byte {i j : Input} {pieces : List (List UInt8)} (more : Takes i.readByte.2 pieces j) :
    Takes i ((splitByte i.bytes).1 :: pieces) j

theorem Takes.trans {i j k : Input} {pieces pieces' : List (List UInt8)} (h : Takes i pieces j)
    (h' : Takes j pieces' k) : Takes i (pieces ++ pieces') k := by
  induction h with
  | done i => exact h'
  | line _ ih => exact .line (ih h')
  | byte _ ih => exact .byte (ih h')

/-- What the program takes in some reads is taken like what it takes in one. -/
theorem Takes.drawn {i j : Input} {pieces : List (List UInt8)} (h : Takes i pieces j) :
    Drawn i pieces.flatten j := by
  induction h with
  | done i => exact .refl i
  | @line i _ _ _ ih => exact i.readLine_spec.2.trans ih
  | @byte i _ _ _ ih => exact i.readByte_spec.2.trans ih

end FoxScript.Input
