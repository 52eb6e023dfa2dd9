import FoxScript.Proofs.Expr.Soundness
import FoxScript.Proofs.Session.Discipline.Evaluation

/-!
# Faults of the system

Evaluation has no answer to a condition of a case that stands elsewhere, nor to an operator on two
numbers that it does not know. Neither is ever met in a program that was read without faults: the
parts that an expression evaluates obey the grammar like the expression itself.

## Main definitions

* `Session.Grown`: the sessions that programs which were read without faults lead to.
* `Discipline.grammatical`: all that is evaluated is an expression of the grammar.

## Main statements

* `Expr.Fits.part`: the parts that an expression evaluates are expressions of the grammar.
* `Session.Grown.without_system_faults`: no program that was read without faults fails with a fault
  of the system.
-/
namespace FoxScript

open Grammar

/-! ### Parts of trees of the grammar -/

/-- What is tried of the condition of a case is an expression. -/
theorem Expr.Fits.alternative {c d : Expr} (h : c.Fits .pattern) (hd : d ∈ c.alternatives) :
    d.Fits .expression := by
  fun_induction Expr.alternatives c with
  | case1 left pipe right ihl ihr =>
    obtain ⟨-, hl, -, hr⟩ := h
    obtain hd | hd := List.mem_append.1 hd
    · exact ihl (Fits.mono hl (by decide)) hd
    · exact ihr hr hd
  | case2 => cases hd
  | case3 e noOr noAny =>
    obtain rfl := List.mem_singleton.1 hd
    refine ⟨?_, h.2⟩
    obtain level | above := h.1
    · -- the only trees of the level of patterns are those that are taken apart
      obtain ⟨wildcard, rfl⟩ | ⟨left, pipe, right, rfl⟩ : d.HasForm .pattern :=
        level ▸ h.2.hasForm
      · exact absurd rfl (noAny wildcard)
      · exact absurd rfl (noOr left pipe right)
    · exact .inr above

/-- Both operands of an operator are expressions. -/
theorem Expr.Fits.operands {k : Level} {left right : Expr} (among : k ∈ Level.joins)
    (hl : left.Fits k) (lt : k < right.level) (hr : right.Graded) :
    left.Fits .expression ∧ right.Fits .expression := by
  have le : .expression ≤ k := by
    revert among
    cases k <;> decide
  exact ⟨hl.mono le, le.trans lt.le, hr⟩

/-- The parts that an expression evaluates in its own frame are expressions. -/
theorem Expr.Fits.part {e : Expr} (h : e.Fits .expression) {p : List Expr × Expr}
    (hp : p ∈ e.schedule) : p.2.Fits .expression := by
  obtain ⟨-, h⟩ := h
  cases e with
  | array es close => exact Expr.allGraded_iff.1 h.1 _ (Expr.mem_of_inOrder hp)
  | call callee args close =>
    obtain rfl | hp := List.mem_cons.1 hp
    · exact Fits.mono h.1 (by decide)
    · exact Expr.allGraded_iff.1 h.2.1 _ (Expr.mem_of_inOrder hp)
  | «match» keyword scrutinee cases =>
    obtain rfl | hp := List.mem_cons.1 hp
    · exact Fits.mono h.2.1 (by decide)
    · obtain ⟨c, hc, hp⟩ := Case.mem_of_inOrder hp
      obtain ⟨-, condition, body⟩ := Case.allGraded_iff.1 h.2.2 c hc
      obtain hp | hp := hp
      · exact condition.alternative hp
      · exact hp ▸ body
  | literal | «variable» | «break» | «import» | declare | block | function | orPattern
  | anyPattern => cases hp
  | group =>
    obtain rfl := List.mem_singleton.1 hp
    exact h
  | assign | declareAs | loop =>
    obtain rfl := List.mem_singleton.1 hp
    exact h.2
  | unary =>
    obtain rfl := List.mem_singleton.1 hp
    exact Fits.mono h.2 (by decide)
  | binary =>
    obtain ⟨-, hl, lt, hr⟩ := id h
    obtain ⟨left, right⟩ := Fits.operands h.binary_level hl lt hr
    obtain rfl | rfl := List.mem_pair.1 hp
    · exact left
    · exact right
  | logical =>
    obtain ⟨-, hl, lt, hr⟩ := id h
    obtain ⟨left, right⟩ := Fits.operands h.logical_level hl lt hr
    obtain rfl | rfl := List.mem_pair.1 hp
    · exact left
    · exact right
  | index =>
    obtain ⟨hd, he, -⟩ := h
    obtain rfl | rfl := List.mem_pair.1 hp
    · exact Fits.mono hd (by decide)
    · exact he
  | assignElement | loopWhile =>
    obtain ⟨-, hd, he⟩ := h
    obtain rfl | rfl := List.mem_pair.1 hp
    · exact hd
    · exact he
  | slice =>
    obtain ⟨hc, hd, he, -⟩ := h
    simp only [Expr.schedule, List.mem_cons, List.not_mem_nil, or_false] at hp
    obtain rfl | rfl | rfl := hp
    · exact Fits.mono hc (by decide)
    · exact hd
    · exact he
  | ternary =>
    obtain ⟨hc, -, hd, he⟩ := h
    simp only [Expr.schedule, List.mem_cons, List.not_mem_nil, or_false] at hp
    obtain rfl | rfl | rfl := hp
    · exact Fits.mono hc (by decide)
    · exact hd
    · exact he

/-- An operator that joins two values is known to evaluation. -/
theorem Expr.Fits.known {l : Level} {left right : Expr} {op : Token}
    (h : (Expr.binary left op right).Fits l) : op.kind ∈ Eval.operators := by
  have among : op.kind.level ∈ [Level.equality, .comparison, .sum, .product] := h.2.1
  revert among
  cases op.kind <;> decide

/-- An expression by itself leads to no fault of the system. -/
theorem Expr.Fits.slip?_eq_none {e : Expr} (h : e.Fits .expression) : e.slip? = none := by
  cases e with
  | binary => exact if_pos h.known
  | orPattern | anyPattern =>
    have below : ¬Level.expression ≤ .pattern := by decide
    exact absurd h.1 below
  | _ => rfl

/-! ### Sessions -/

namespace Session

/-- The sessions that lead from a new one by compiling texts, and by taking in and evaluating
programs that were read without faults. Between these, the world around the programs can change, and
so can what is known of the uses of names. -/
inductive Grown : Session → Prop
  /-- A new session. -/
  | new (files : FileSystem) (base : Path) (policy : NestedErrors) (input : Input) (now : Float) :
    Grown (.new files base policy input now)
  /-- A text is compiled. -/
  | compile {s : Session} (h : Grown s) (source : String) : Grown (s.compile source).2
  /-- A program that was read without faults is resolved and taken in. -/
  | accept {s : Session} (h : Grown s) {fresh : Nat} {tokens : List Token}
    (faultless : (Parse.ofTokens fresh tokens).faults = []) :
    Grown (s.accept (Parse.ofTokens fresh tokens).exprs).2
  /-- A program that was read without faults is evaluated. -/
  | interpret {s : Session} (h : Grown s) {fresh : Nat} {tokens : List Token}
    (faultless : (Parse.ofTokens fresh tokens).faults = []) (n : Nat) :
    Grown (s.interpretBy (Eval.evaluate n) (Parse.ofTokens fresh tokens).exprs).2
  /-- The world around the programs changes. -/
  | adjust {s : Session} (h : Grown s) (hops : HopTable) (fresh : Nat) (base : Path)
    (policy : NestedErrors) (output : Capture) (input : Input) (files : FileSystem) (now : Float)
    (memory : Nat) :
    Grown { s with
      hops := hops
      fresh := fresh
      baseDirectory := base
      policy := policy
      output := output
      input := input
      files := files
      now := now
      memory := memory }

end Session

namespace Discipline

variable {s t : Session}

/-- All that is evaluated is an expression of the grammar. -/
def grammatical : Discipline where
  sound s := ∀ q ∈ s.programs, ∀ e ∈ q.2, e.Fits .expression
  closure _ c := c.body.Fits .expression
  ready _ e := e.Fits .expression
  watch _ _ := True
  raises _ d := ∀ f, d ≠ .system f

theorem grammatical_congr (h : grammatical.sound s) (programs : t.programs = s.programs) :
    grammatical.sound t := by
  intro q hq
  rw [programs] at hq
  exact h q hq

/-- A program that is read without faults consists of expressions of the grammar. -/
theorem fits_of_faultless {fresh : Nat} {tokens : List Token}
    (faultless : (Parse.ofTokens fresh tokens).faults = []) :
    ∀ e ∈ (Parse.ofTokens fresh tokens).exprs, e.Fits .expression :=
  (Parse.ofRest_sound (s := ⟨tokens, fresh⟩) le_rfl (Nat.lt_succ_self _) faultless).2

/-- A program is taken in if its scopes have no faults. -/
theorem grammatical_accept (h : grammatical.sound s) {program : List Expr}
    (fits : ∀ e ∈ program, e.Fits .expression) : grammatical.sound (s.accept program).2 := by
  rw [Session.accept]
  split
  · exact List.forall_mem_cons.2 ⟨fits, h⟩
  · exact h

theorem grammatical_compile (h : grammatical.sound s) (source : String) :
    grammatical.sound (s.compile source).2 := by
  rw [Session.compile]
  split
  · rename_i faultless
    obtain ⟨-, faultless⟩ := List.append_eq_nil_iff.1 (List.isEmpty_iff.1 faultless)
    have sound : grammatical.sound { s with fresh := (Import.read s.fresh source).fresh } := h
    exact grammatical_accept sound (fits_of_faultless faultless)
  · exact h

theorem grammatical_lawful : grammatical.Lawful where
  closure_mono h _ := h
  ready_mono h _ _ := h
  raises_mono h _ := h
  sound_back _ _ h same _ := grammatical_congr h same.programs
  define _ _ _ _ _ _ h := h
  params _ _ _ _ _ _ h := h
  assign _ _ _ h := h
  enter h _ := h
  nests _ _ _ h _ same _ := grammatical_congr h same.programs
  compile {s t source program} h compiled := by
    have sound := grammatical_compile h source
    rwa [compiled] at sound
  programs h _ hq he := h _ hq _ he
  parts h hp _ := h.part hp
  members h _ _ hp _ := Expr.allGraded_iff.1 h.2 _ (Expr.mem_of_inOrder hp)
  makes h _ _ _ := h.2.2.2
  calls h _ _ _ := h
  raises_runtime _ _ _ _ := nofun
  raises_static _ _ static f same := by
    subst same
    cases static
  raises_stray _ _ _ _ _ := nofun
  raises_slip h slip := by
    rw [h.slip?_eq_none] at slip
    cases slip

/-- Any program of expressions of the grammar can be evaluated in any session. -/
theorem runs_grammatical {program : List Expr} (fits : ∀ e ∈ program, e.Fits .expression) :
    grammatical.Runs s program where
  inTurn _ _ _ hp _ := fits _ (Expr.mem_of_inOrder hp)
  stray _ _ _ := nofun

/-- What is known of names is no matter of the grammar. -/
theorem tidy_grammatical_congr (h : grammatical.Tidy s) (store : t.store = s.store)
    (frame : t.frame = s.frame) (sound : grammatical.sound t) : grammatical.Tidy t where
  sound := sound
  active := by
    rw [store, frame]
    exact h.active
  values f x v hv := h.values f x v (store ▸ hv)
  elements a v hv := h.elements a v (store ▸ hv)

theorem tidy_grammatical (h : s.Grown) : grammatical.Tidy s := by
  have law := grammatical_lawful
  induction h with
  | new files base policy input now => exact Lawful.tidy_new nofun
  | @compile s _ source ih => exact (law.after_compile ih source).tidy
  | @accept s _ fresh tokens faultless ih =>
    have sound := grammatical_accept ih.sound (fits_of_faultless faultless)
    refine tidy_grammatical_congr ih ?_ ?_ sound
    · rw [Session.accept]
      split <;> rfl
    · rw [Session.accept]
      split <;> rfl
  | @interpret s h fresh tokens faultless n ih =>
    have runs := runs_grammatical (s := s) (fits_of_faultless faultless)
    exact (Lawful.concludes_interpretBy (law.keeps_evaluate (fun _ _ => trivial) n) ih runs).1.tidy
  | adjust _ hops fresh base policy output input files now memory ih =>
    exact tidy_grammatical_congr ih rfl rfl ih.sound

end Discipline

namespace Session

variable {s t : Session} {fresh : Nat} {tokens : List Token}

/-- A program that was read without faults does not fail with a fault of the system, and neither
does any program inside it: wherever its run comes to, no condition of a case is evaluated as an
expression, no operator between two values is unknown, and no evaluation fails so, whether this is
noticed or not. -/
theorem Grown.without_system_faults (h : s.Grown)
    (faultless : (Parse.ofTokens fresh tokens).faults = []) (n : Nat) :
    (∀ ds t, s.interpretBy (Eval.evaluate n) (Parse.ofTokens fresh tokens).exprs = (.failed ds, t) →
        ∀ d ∈ ds, ∀ f, ¬d.Contains (.system f)) ∧
      ∀ t e, s.Visits n (Parse.ofTokens fresh tokens).exprs t e →
        (∀ left pipe right, e ≠ .orPattern left pipe right) ∧
          (∀ wildcard, e ≠ .anyPattern wildcard) ∧
          (∀ left op right, e = .binary left op right → op.kind ∈ Eval.operators) ∧
          ∀ m d u, Eval.evaluate m e t = .error (.failed d) u → ∀ f, ¬d.Contains (.system f) := by
  have law := Discipline.grammatical_lawful
  have all (s : Session) (e : Expr) : Discipline.grammatical.watch s e := trivial
  have tidy := Discipline.tidy_grammatical h
  have runs := Discipline.runs_grammatical (s := s) (Discipline.fits_of_faultless faultless)
  refine ⟨fun ds t failed d mem f contains => ?_, fun t e visits => ?_⟩
  · have keeps := law.keeps_evaluate all n
    have concludes := (Discipline.Lawful.concludes_interpretBy keeps tidy runs).2
    rw [failed] at concludes
    exact concludes d mem _ contains f rfl
  · obtain ⟨tidy, fits⟩ := law.ready_of_visits all tidy runs visits
    have slip := Expr.Fits.slip?_eq_none fits
    refine ⟨?_, ?_, ?_, fun m d u failed f contains => ?_⟩
    · rintro left pipe right rfl
      cases slip
    · rintro wildcard rfl
      cases slip
    · rintro left op right rfl
      exact Expr.Fits.known fits
    · have ends := (law.keeps_evaluate all m t e tidy fits).ends
      rw [failed] at ends
      exact ends.admits _ contains f rfl

/-- An equation is read from its tokens and evaluated. -/
theorem without_system_faults_of_an_equation :
    let op : Token := ⟨.equalEqual, "==", none, ⟨1, 6⟩⟩
    let tokens : List Token := [⟨.true, "true", none, ⟨1, 1⟩⟩, op, ⟨.null, "null", none, ⟨1, 9⟩⟩]
    let e : Expr := .binary (.literal (.bool true)) op (.literal .null)
    let s := new .empty .current .propagate (.ofBytes []) 0
    s.Grown ∧ (Parse.ofTokens 0 tokens).faults = [] ∧ (Parse.ofTokens 0 tokens).exprs = [e] ∧
      (∀ ds t, s.interpretBy (Eval.evaluate 2) [e] = (.failed ds, t) →
        ∀ d ∈ ds, ∀ f, ¬d.Contains (.system f)) ∧
      s.Visits 2 [e] s e ∧ op.kind ∈ Eval.operators := by
  intro op tokens e s
  have grown : s.Grown := .new _ _ _ _ _
  have faultless : (Parse.ofTokens 0 tokens).faults = [] := rfl
  obtain ⟨fails, visited⟩ := grown.without_system_faults faultless 2
  have visits : s.Visits 2 [e] s e := s.visits_first 1 e []
  exact ⟨grown, faultless, rfl, fails, visits, (visited s e visits).2.2.1 _ op _ rfl⟩

end Session

end FoxScript
