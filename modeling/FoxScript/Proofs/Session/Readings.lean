import FoxScript.Proofs.Scope.Anonymous
import FoxScript.Proofs.Session.Course

/-!
# Texts that a session reads

A session reads many texts: those that are run, those that programs evaluate or import, and files
that are only checked because a program imports them. Each text gives numbers to its uses. Only a
text that is accepted gets hop counts, all at once and for its own uses, and from then on nothing
changes them.

## Main definitions

* `Reading`: a text that was read, from which number on, and what became of it.
* `Session.Reads`: the texts that are read on the way from one session to another.
* `Eval.checking`: an evaluation during which files are checked at any time.

## Main statements

* `Session.Tells.of_reads`: what the texts that were read tell about a session.
* `Session.exists_reads_interpretBy`: all that an evaluation does to hop counts is to read texts.
* `Session.resolution_undisturbed`: the hop counts of a text are its own and stay as they are.
-/
namespace FoxScript

/-! ### Readings -/

/-- What becomes of a text that is read. -/
inductive Verdict
  /-- It is a program, which is taken in. -/
  | accepted
  /-- It is to be a program, but has faults. -/
  | rejected
  /-- It is only checked, as the text of a file that a program imports. -/
  | checked
  deriving DecidableEq

/-- What became of a text that was compiled. -/
def Verdict.ofCompiled {α : Type} : Except (List Diagnostic) α → Verdict
  | .ok _ => .accepted
  | .error _ => .rejected

/-- A text that is read. -/
structure Reading where
  /-- The text. -/
  source : String
  /-- The number from which on its uses are numbered. -/
  first : Nat
  /-- What becomes of it. -/
  verdict : Verdict

namespace Reading

/-- The program that is read. -/
def program (r : Reading) : List Expr := (Import.read r.first r.source).exprs

/-- The numbers of the uses in the program. -/
def uses (r : Reading) : List NodeId := Expr.idsOf r.program

/-- The texts that are taken in. -/
def accepted (l : List Reading) : List Reading := l.filter (·.verdict = .accepted)

end Reading

namespace Session

/-- What becomes of a text that is compiled. -/
def reading (s : Session) (source : String) : Reading where
  source := source
  first := s.fresh
  verdict := .ofCompiled (s.compile source).1

/-- The session after a text is checked, the uses of which get numbers like all others. -/
def check (s : Session) (source : String) : Session :=
  { s with fresh := (Import.read s.fresh source).fresh }

/-- On the way from one session to another the texts of a list are read. -/
inductive Reads : Session → List Reading → Session → Prop
  /-- Nothing is read, whatever else is done. -/
  | other {s t : Session} (hops : t.hops = s.hops) (programs : t.programs = s.programs)
    (fresh : t.fresh = s.fresh) : Reads s [] t
  /-- A text is compiled. -/
  | compile (s : Session) (source : String) : Reads s [s.reading source] (s.compile source).2
  /-- A text is checked. -/
  | check (s : Session) (source : String) :
    Reads s [⟨source, s.fresh, .checked⟩] (s.check source)
  /-- Some texts are read after others. -/
  | trans {s t u : Session} {l l' : List Reading} (h : Reads s l t) (h' : Reads t l' u) :
    Reads s (l ++ l') u

variable {s t : Session} {l l' : List Reading}

/-- What is done before and after, and reads nothing, is no matter. -/
theorem Reads.around {s' t' : Session} (h : s.Reads l t) (before : s'.Reads [] s)
    (after : t.Reads [] t') : s'.Reads l t' := by
  simpa using (before.trans h).trans after

/-- A text that is compiled is rejected, which is as if it were checked only, or the session takes in
the program, with what resolution finds out about it. -/
theorem compile_cases (s : Session) (source : String) :
    let program := (s.reading source).program
    let r := resolve s.files s.policy s.baseDirectory program
    (s.reading source).verdict = .rejected ∧ (s.compile source).2 = s.check source ∨
      (s.reading source).verdict = .accepted ∧ r.faults = [] ∧
        (s.compile source).2 = (s.check source).adopt program r.hops := by
  intro program r
  have compiled : s.compile source =
      if (Import.read s.fresh source).faults.isEmpty then
        if r.faults.isEmpty then (.ok program, (s.check source).adopt program r.hops)
        else (.error r.faults, s.check source)
      else (.error (Import.read s.fresh source).faults, s.check source) := rfl
  have verdict : (s.reading source).verdict = .ofCompiled (s.compile source).1 := rfl
  rw [verdict]
  by_cases readable : (Import.read s.fresh source).faults.isEmpty
  · rw [if_pos readable] at compiled
    by_cases sound : r.faults.isEmpty
    · rw [if_pos sound] at compiled
      rw [compiled]
      exact .inr ⟨rfl, List.isEmpty_iff.1 sound, rfl⟩
    · rw [if_neg sound] at compiled
      rw [compiled]
      exact .inl ⟨rfl, rfl⟩
  · rw [if_neg readable] at compiled
    rw [compiled]
    exact .inl ⟨rfl, rfl⟩

/-- Numbers of uses are given out once, and what was kept about a use before is kept. -/
theorem Reads.hops_eq (h : s.Reads l t) :
    s.fresh ≤ t.fresh ∧ ∀ id : NodeId, id.index < s.fresh → t.hops[id]? = s.hops[id]? := by
  induction h with
  | other hops _ fresh => exact ⟨Nat.le_of_eq fresh.symm, fun id _ => by rw [hops]⟩
  | compile s source => exact ⟨(s.grows_compile source).fresh, (s.grows_compile source).hops⟩
  | check s source => exact ⟨(Import.numbered_read s.fresh source).1, fun _ _ => rfl⟩
  | trans _ _ ih ih' =>
    exact ⟨Nat.le_trans ih.1 ih'.1, fun id below =>
      (ih'.2 id (Nat.lt_of_lt_of_le below ih.1)).trans (ih.2 id below)⟩

/-! ### What the texts that were read tell -/

/-- What is known of a session from the texts that were read. -/
structure Tells (l : List Reading) (s : Session) : Prop where
  /-- All uses of all texts are numbered apart. -/
  apart : (l.flatMap Reading.uses).Nodup
  /-- Their numbers are given out. -/
  below : ∀ r ∈ l, ∀ id ∈ r.uses, id.index < s.fresh
  /-- The programs of the session are those of the texts that were accepted, the latest first. -/
  programs : s.programs.map Prod.snd = ((Reading.accepted l).map Reading.program).reverse
  /-- What is known about the uses of a text that was accepted is what resolution found out. -/
  found : ∀ r ∈ l, r.verdict = .accepted → ∃ files policy base,
    (resolve files policy base r.program).faults = [] ∧
      ∀ id ∈ r.uses, s.hops[id]? = (resolve files policy base r.program).hops[id]?
  /-- Nothing is known about any others. -/
  known : ∀ id : NodeId, (s.hops[id]?).isSome → ∃ r ∈ l, r.verdict = .accepted ∧ id ∈ r.uses

namespace Tells

theorem nil (hops : s.hops = ∅) (programs : s.programs = []) : Tells [] s := by
  constructor <;> simp [hops, programs, Reading.accepted]

theorem congr (h : Tells l s) (hops : t.hops = s.hops) (programs : t.programs = s.programs)
    (fresh : t.fresh = s.fresh) : Tells l t where
  apart := h.apart
  below := fresh ▸ h.below
  programs := programs ▸ h.programs
  found := hops ▸ h.found
  known := hops ▸ h.known

/-- The uses of the next text have numbers that no text before has. -/
theorem new_uses (h : Tells l s) {r : Reading} (first : r.first = s.fresh) :
    ∀ r' ∈ l, ∀ id ∈ r'.uses, id ∉ r.uses := by
  intro r' mem id old new
  have bounds := (Import.numbered_read r.first r.source).2.2 id new
  exact Nat.not_le_of_lt (h.below r' mem id old) (first ▸ bounds.1)

theorem apart_append (h : Tells l s) {r : Reading} (first : r.first = s.fresh) :
    ((l ++ [r]).flatMap Reading.uses).Nodup := by
  rw [List.flatMap_append, List.flatMap_singleton]
  refine List.nodup_append.2 ⟨h.apart, (Import.numbered_read r.first r.source).2.1, ?_⟩
  rintro id old id' new rfl
  obtain ⟨r', mem, old⟩ := List.mem_flatMap.1 old
  exact h.new_uses first r' mem id old new

theorem below_append (h : Tells l s) {r : Reading} (first : r.first = s.fresh) :
    ∀ r' ∈ l ++ [r], ∀ id ∈ r'.uses, id.index < (s.check r.source).fresh := by
  intro r' mem id use
  obtain ⟨le, numbered⟩ := Import.numbered_read r.first r.source
  rw [Session.check, ← first]
  obtain mem | mem := List.mem_append.1 mem
  · exact Nat.lt_of_lt_of_le (h.below r' mem id use) (first ▸ le)
  · obtain rfl := List.mem_singleton.1 mem
    exact (numbered.2 id use).2

/-- A text that is not taken in leaves what is known as it is. -/
theorem check (h : Tells l s) {r : Reading} (first : r.first = s.fresh)
    (refused : r.verdict ≠ .accepted) : Tells (l ++ [r]) (s.check r.source) where
  apart := h.apart_append first
  below := h.below_append first
  programs := by
    have none : Reading.accepted [r] = [] := by simp [Reading.accepted, refused]
    rw [Reading.accepted, List.filter_append]
    change _ = ((Reading.accepted l ++ Reading.accepted [r]).map _).reverse
    rw [none, List.append_nil]
    exact h.programs
  found r' mem accepted := by
    obtain mem | mem := List.mem_append.1 mem
    · exact h.found r' mem accepted
    · obtain rfl := List.mem_singleton.1 mem
      exact absurd accepted refused
  known id some := by
    obtain ⟨r', mem, found⟩ := h.known id some
    exact ⟨r', List.mem_append_left _ mem, found⟩

/-- A text that is taken in has its own hop counts, and all others stay. -/
theorem adopt (h : Tells l s) {r : Reading} (first : r.first = s.fresh)
    (accepted : r.verdict = .accepted) {files : FileSystem} {policy : NestedErrors} {base : Path}
    (sound : (resolve files policy base r.program).faults = []) :
    Tells (l ++ [r])
      ((s.check r.source).adopt r.program (resolve files policy base r.program).hops) where
  apart := h.apart_append first
  below := h.below_append first
  programs := by
    have one : Reading.accepted [r] = [r] := by simp [Reading.accepted, accepted]
    rw [Reading.accepted, List.filter_append]
    change _ = ((Reading.accepted l ++ Reading.accepted [r]).map _).reverse
    rw [one, List.map_append, List.reverse_append, ← h.programs]
    rfl
  found r' mem accepted' := by
    obtain mem | mem := List.mem_append.1 mem
    · obtain ⟨files', policy', base', sound', same⟩ := h.found r' mem accepted'
      refine ⟨files', policy', base', sound', fun id use => ?_⟩
      rw [hops_adopt, resolve,
        Resolution.hops_ofProgram_of_not_mem (h.new_uses first r' mem id use)]
      exact same id use
    · obtain rfl := List.mem_singleton.1 mem
      refine ⟨files, policy, base, sound, fun id own => ?_⟩
      have unknown : s.hops[id]? = none := by
        by_contra known
        obtain ⟨r', mem, -, use⟩ := h.known id (Option.isSome_iff_ne_none.2 known)
        exact h.new_uses first r' mem id use own
      rw [hops_adopt]
      change (_ : Option Nat).or s.hops[id]? = _
      rw [unknown, Option.or_none]
  known id some := by
    by_cases own : id ∈ r.uses
    · exact ⟨r, by simp, accepted, own⟩
    · rw [hops_adopt, resolve, Resolution.hops_ofProgram_of_not_mem own] at some
      obtain ⟨r', mem, found⟩ := h.known id some
      exact ⟨r', List.mem_append_left _ mem, found⟩

/-- What the texts tell that were read before, and those that are read then, holds afterwards. -/
theorem of_reads (h : Tells l s) (reads : s.Reads l' t) : Tells (l ++ l') t := by
  induction reads generalizing l with
  | other hops programs fresh =>
    rw [List.append_nil]
    exact h.congr hops programs fresh
  | compile s source =>
    obtain ⟨rejected, same⟩ | ⟨accepted, sound, same⟩ := s.compile_cases source
    · rw [same]
      refine h.check (r := s.reading source) rfl ?_
      rw [rejected]
      exact Verdict.noConfusion
    · rw [same]
      exact h.adopt (r := s.reading source) rfl accepted sound
  | check s source => exact h.check (r := ⟨source, s.fresh, .checked⟩) rfl Verdict.noConfusion
  | trans _ _ ih ih' =>
    rw [← List.append_assoc]
    exact ih' (ih h)

/-- Nothing is known about the uses of a text that was not taken in. -/
theorem unknown (h : Tells l s) {r : Reading} (mem : r ∈ l) (refused : r.verdict ≠ .accepted)
    {id : NodeId} (use : id ∈ r.uses) : s.hops[id]? = none := by
  by_contra known
  obtain ⟨r', mem', accepted, use'⟩ := h.known id (Option.isSome_iff_ne_none.2 known)
  have differ : r ≠ r' := by
    rintro rfl
    exact refused accepted
  have symm : Std.Symm (Function.onFun List.Disjoint Reading.uses) :=
    ⟨fun _ _ disjoint _ use use' => disjoint use' use⟩
  exact (List.nodup_flatMap.1 h.apart).2.forall mem mem' differ use use'

end Tells

end Session

/-! ### Evaluations during which files are checked -/

namespace Eval

/-- All that a step does to hop counts is to read texts. -/
theorem stable_reads : Stable fun s t => ∃ l, s.Reads l t where
  refl _ := ⟨[], .other rfl rfl rfl⟩
  trans := by
    rintro s t u ⟨l, h⟩ ⟨l', h'⟩
    exact ⟨_, h.trans h'⟩
  store _ _ := ⟨[], .other rfl rfl rfl⟩
  output _ _ := ⟨[], .other rfl rfl rfl⟩
  readLine _ := ⟨[], .other rfl rfl rfl⟩
  readByte _ := ⟨[], .other rfl rfl rfl⟩
  compile s source := ⟨_, .compile s source⟩
  frame := by
    rintro s f t ⟨l, h⟩
    exact ⟨l, h.around (.other rfl rfl rfl) (.other rfl rfl rfl)⟩
  baseDirectory := by
    rintro s base t ⟨l, h⟩
    exact ⟨l, h.around (.other rfl rfl rfl) (.other rfl rfl rfl)⟩
  importing := by
    rintro s places t ⟨l, h⟩
    exact ⟨l, h.around (.other rfl rfl rfl) (.other rfl rfl rfl)⟩
  enters _ _ := ⟨[], .other rfl rfl rfl⟩
  moves _ _ := ⟨[], .other rfl rfl rfl⟩

/-- The evaluation of an expression. Before and after each expression files are checked, the texts
of which depend on the session. -/
def checking (files : Session → List String) : Nat → Expr → Eval Value
  | 0, _ => throw .exhausted
  | n + 1, e => fun s =>
    restored (fun t => (files t).foldl Session.check t)
      (step (checking files n) n e ((files s).foldl Session.check s))

/-- If no files are checked, this is evaluation. -/
theorem checking_nil (n : Nat) (e : Expr) : checking (fun _ => []) n e = evaluate n e := by
  induction n generalizing e with
  | zero => rfl
  | succ n ih =>
    have inside : checking (fun _ => []) n = evaluate n := funext ih
    funext s
    change restored (fun t => t) (step (checking (fun _ => []) n) n e s) = step (evaluate n) n e s
    rw [inside]
    cases step (evaluate n) n e s <;> rfl

namespace Preserved

variable {R : Session → Session → Prop} (preserved : Preserved R) {eval : Expr → Eval Value}
  (keeps : ∀ e s, R s (sessionAfter (eval e s)))

include preserved keeps

theorem interpret (program : List Expr) (s : Session) :
    R s (sessionAfter (interpret eval program s)) := by
  have last (v : Value) (s : Session) : R s (sessionAfter (Eval.last eval v program s)) := by
    induction program generalizing v s with
    | nil => exact preserved.refl s
    | cons e es ih => exact preserved.bind (keeps e) ih s
  rw [Eval.interpret, sessionAfter_confined]
  exact last .null s

/-- What each kind of step keeps is kept by steps that are put around an evaluation which keeps
it. -/
theorem of_uniform {eval' : Expr → Eval Value} {α : Type} {act act' : Eval α}
    (same : Uniform eval eval' act act') (s : Session) : R s (sessionAfter (act s)) := by
  induction same generalizing s with
  | eval e => exact keeps e s
  | pure | throw => exact preserved.refl s
  | bind _ _ ih ihn => exact preserved.bind ih ihn s
  | look _ _ ih => exact ih s s
  | change h => exact preserved.store h s
  | print => exact preserved.output s _
  | readLine => exact preserved.readLine s
  | readByte => exact preserved.readByte s
  | inFrame f _ ih => exact preserved.inFrame ih f s
  | untilBreak _ ih =>
    rw [sessionAfter_untilBreak]
    exact ih s
  | confined _ ih =>
    rw [sessionAfter_confined]
    exact ih s
  | text t describe source base =>
    exact preserved.bind (preserved.runNested (preserved.interpret keeps) source base)
      (preserved.settle t describe) s

theorem step (rounds : Nat) (e : Expr) (s : Session) :
    R s (sessionAfter (step eval rounds e s)) := by
  by_cases isImport : ∃ path, e = .import path
  · obtain ⟨x, rfl⟩ := isImport
    have run := preserved.runNested (preserved.interpret keeps)
    rw [Eval.step, importFile_eq_named]
    cases s.named x with
    | nothing f => exact preserved.refl s
    | library path source => exact preserved.bind (run source _) (preserved.settle x _) s
    | file path place source base =>
      dsimp only
      split
      · exact preserved.refl s
      · exact preserved.bind (preserved.whileImporting (run source base) place)
          (preserved.settle x _) s
  · have same : Uniform eval eval (Eval.step eval rounds e) (Eval.step eval rounds e) :=
      .step rounds (not_exists.1 isImport)
    exact preserved.of_uniform keeps same s

omit keeps

/-- What each kind of step keeps is kept also if files are checked meanwhile, provided that checks
keep it. -/
theorem checking (checks : ∀ s source, R s (s.check source)) (files : Session → List String)
    (n : Nat) (e : Expr) (s : Session) : R s (sessionAfter (checking files n e s)) := by
  have checkAll (texts : List String) (s : Session) : R s (texts.foldl Session.check s) := by
    induction texts generalizing s with
    | nil => exact preserved.refl s
    | cons text texts ih => exact preserved.trans (checks s text) (ih _)
  induction n generalizing e s with
  | zero => exact preserved.refl s
  | succ n ih =>
    rw [Eval.checking, sessionAfter_restored]
    exact preserved.trans (preserved.trans (checkAll _ s) (preserved.step ih n e _)) (checkAll _ _)

end Preserved

end Eval

namespace Session

variable {s t : Session} {l : List Reading}

/-- All that a run does to hop counts is to read texts, also if files are checked meanwhile. -/
theorem exists_reads_interpretBy (s : Session) (files : Session → List String) (n : Nat)
    (program : List Expr) :
    ∃ l, s.Reads l (s.interpretBy (Eval.checking files n) program).2 := by
  have preserved := Eval.stable_reads.toPreserved
  rw [Eval.interpretBy_snd]
  exact preserved.interpret (preserved.checking (fun s source => ⟨_, .check s source⟩) files n)
    program s

/-- So it is up to whatever a run comes by, and from there to its end. -/
theorem Visits.exists_reads {n : Nat} {program : List Expr} {e : Expr}
    (h : s.Visits n program t e) :
    (∃ l, s.Reads l t) ∧ ∃ l, t.Reads l (s.interpretBy (Eval.evaluate n) program).2 :=
  h.between Eval.stable_reads fun _ _ => ⟨[], .other rfl rfl rfl⟩

/-- In a session that began with nothing, after any texts were read in any order: all uses of all
texts are numbered apart, also if a text is read twice; the use of a text that was accepted has the
hop count that resolution found out, or none if it found none; no other use has one; and whatever is
read from then on, it stays so. All programs, texts and imports, with all that is run inside of
them, only read texts as far as hop counts are concerned, up to any moment of the run, also if files
are checked at any time. That checks have no other effect does not depend on the numbers that the
uses of files have. -/
theorem resolution_undisturbed {files : FileSystem} {base : Path} {policy : NestedErrors}
    {input : Input} {now : Float} (h : (new files base policy input now).Reads l s) :
    (l.flatMap Reading.uses).Nodup ∧
    (∀ r ∈ l, r.verdict = .accepted → ∃ files policy base,
      (resolve files policy base r.program).faults = [] ∧
        ∀ id ∈ r.uses, s.hops[id]? = (resolve files policy base r.program).hops[id]?) ∧
    (∀ r ∈ l, r.verdict ≠ .accepted → ∀ id ∈ r.uses, s.hops[id]? = none) ∧
    (∀ id : NodeId, (s.hops[id]?).isSome → ∃ r ∈ l, r.verdict = .accepted ∧ id ∈ r.uses) ∧
    s.programs.map Prod.snd = ((Reading.accepted l).map Reading.program).reverse ∧
    (∀ l' t, s.Reads l' t → (new files base policy input now).Reads (l ++ l') t ∧
      ∀ r ∈ l, ∀ id ∈ r.uses, t.hops[id]? = s.hops[id]?) ∧
    (∀ source, ∃ l', s.Reads l' (s.run source).2) ∧
    (∀ texts n program, ∃ l', s.Reads l' (s.interpretBy (Eval.checking texts n) program).2) ∧
    (∀ n program t e, s.Visits n program t e → (∃ l', s.Reads l' t) ∧
      ∃ l', t.Reads l' (s.interpretBy (Eval.evaluate n) program).2) ∧
    ∀ source k n, (Import.read k source).faults = (Import.read n source).faults ∧
      ∀ imports, (Resolution.ofProgram imports (Import.read k source).exprs).faults =
        (Resolution.ofProgram imports (Import.read n source).exprs).faults := by
  have tells : Tells l s := (Tells.nil rfl rfl).of_reads h
  exact ⟨tells.apart, tells.found, fun r mem refused id use => tells.unknown mem refused use,
    tells.known, tells.programs,
    fun l' t later => ⟨h.trans later, fun r mem id use =>
      later.hops_eq.2 id (tells.below r mem id use)⟩,
    fun source => Eval.stable_reads.run s source, fun texts n program =>
      s.exists_reads_interpretBy texts n program,
    fun n program t e visits => visits.exists_reads, fun source k n => Import.check_read k n source⟩

/-- A text is compiled twice and a file is checked in between. -/
theorem resolution_undisturbed_of_three_texts :
    let s := new .empty .current .propagate (.ofBytes []) 0
    let t := (s.compile "x").2
    let u := t.check "y"
    s.Reads [s.reading "x", ⟨"y", t.fresh, .checked⟩, u.reading "x"] (u.compile "x").2 ∧
      ([s.reading "x", ⟨"y", t.fresh, .checked⟩, u.reading "x"].flatMap Reading.uses).Nodup := by
  intro s t u
  have reads : s.Reads [s.reading "x", ⟨"y", t.fresh, .checked⟩, u.reading "x"]
      (u.compile "x").2 :=
    .trans (.compile s "x") (.trans (.check t "y") (.compile u "x"))
  exact ⟨reads, (resolution_undisturbed reads).1⟩

end Session

end FoxScript
