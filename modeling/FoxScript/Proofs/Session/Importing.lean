import FoxScript.Proofs.File.System
import FoxScript.Proofs.Session.Course
import FoxScript.Proofs.Session.Restoration
import Mathlib.Data.List.Perm.Subperm

/-!
# Files that are being imported

Resolution lets files import each other in a circle where failures are contained or functions are
in between. While a program runs, the session lists the files that are being imported, and a file
that is listed is not imported again. The list is compared with the evaluations that are open at
some moment of a run, each of which was begun by the one around it.

## Main definitions

* `Eval.Comes`: a step comes to an expression in a certain session.
* `Session.Open`: the evaluations that are open at some moment of a run.
* `Session.imported?`: the place of the file that an import names.

## Main statements

* `Session.importing_of_comes`: what one evaluation adds to the list.
* `Session.Open.lists`: the list is that of the imports that are open, without repetition.
* `Session.Reachable.imports_apart`: no file is imported while it is being imported.
-/
namespace FoxScript

/-! ### Evaluations that are open -/

namespace Eval

open scoped Classical in
/-- The evaluation `eval`, but for an alarm when one expression is to be evaluated in one session. -/
noncomputable def stopAt (t : Session) (e : Expr) (alarm : Exit) (eval : Expr → Eval Value) :
    Expr → Eval Value := fun e' => do
  if (← get) = t ∧ e' = e then throw alarm else eval e'

theorem stopAt_self (t : Session) (e : Expr) (alarm : Exit) (eval : Expr → Eval Value) :
    stopAt t e alarm eval e t = .error alarm t := by
  classical
  have stops : (if t = t ∧ e = e then throw alarm else eval e : Eval Value) t =
      .error alarm t := by
    rw [if_pos ⟨rfl, rfl⟩]
    rfl
  exact stops

theorem stopAt_other {t u : Session} {e e' : Expr} (h : ¬(u = t ∧ e' = e)) (alarm : Exit)
    (eval : Expr → Eval Value) : stopAt t e alarm eval e' u = eval e' u := by
  classical
  have goesOn : (if u = t ∧ e' = e then throw alarm else eval e' : Eval Value) u = eval e' u := by
    rw [if_neg h]
  exact goesOn

/-- A step that is put around an evaluation comes, from the session `s`, to the expression `e` in
the session `t`: if there is an alarm then, this can be noticed. -/
def Comes {α : Type} (act : (Expr → Eval Value) → Eval α) (eval : Expr → Eval Value)
    (s t : Session) (e : Expr) : Prop :=
  ∃ alarm, act (stopAt t e alarm eval) s ≠ act eval s

theorem Comes.congr {α : Type} {act act' : (Expr → Eval Value) → Eval α}
    {eval : Expr → Eval Value} {s t : Session} {e : Expr} (h : Comes act eval s t e)
    (same : ∀ eval, act eval s = act' eval s) : Comes act' eval s t e := by
  obtain ⟨alarm, differs⟩ := h
  exact ⟨alarm, by rwa [← same, ← same]⟩

/-- A step that ends with the alarm, whatever the alarm is, has come to where it is raised. -/
theorem comes_of_stops {α : Type} {act : (Expr → Eval Value) → Eval α} {eval : Expr → Eval Value}
    {s t u : Session} {e : Expr}
    (stops : ∀ alarm, alarm = .crashed ∨ alarm = .exhausted →
      act (stopAt t e alarm eval) s = .error alarm u) : Comes act eval s t e := by
  by_contra unnoticed
  simp only [Comes, not_exists, not_not] at unnoticed
  have same := (unnoticed .crashed).trans (unnoticed .exhausted).symm
  rw [stops .crashed (.inl rfl), stops .exhausted (.inr rfl)] at same
  cases same

/-- A program stops at its first expression. -/
theorem interpret_stopAt (t : Session) (e : Expr) (es : List Expr) {alarm : Exit}
    (h : alarm = .crashed ∨ alarm = .exhausted) (eval : Expr → Eval Value) :
    interpret (stopAt t e alarm eval) (e :: es) t = .error alarm t := by
  have stops : last (stopAt t e alarm eval) .null (e :: es) t = .error alarm t :=
    bind_of_error (stopAt_self t e alarm eval)
  obtain rfl | rfl := h <;> rw [interpret, confined, stops]

/-- A run comes to the first expression of its program. -/
theorem comes_first (t : Session) (e : Expr) (es : List Expr) (eval : Expr → Eval Value) :
    Comes (fun eval => interpret eval (e :: es)) eval t t e :=
  comes_of_stops fun _ h => interpret_stopAt t e es h eval

/-- An import of a file that is not being imported comes to the first expression of the file. -/
theorem comes_first_of_file {s u : Session} {x : Token} {path : String} {place : Place}
    {source : String} {base : Path} {e : Expr} {es : List Expr}
    (named : s.named x = .file path place source base) (free : ¬s.importing.contains place)
    (compiled : Session.compile { s with
      importing := place :: s.importing
      baseDirectory := base
      frame := Store.root } source = (.ok (e :: es), u)) (eval : Expr → Eval Value) :
    Comes (fun eval => importFile eval x) eval s u e := by
  refine comes_of_stops (u := { u with
    importing := s.importing, baseDirectory := s.baseDirectory, frame := s.frame }) fun alarm h => ?_
  have stops := interpret_stopAt u e es h eval
  have inside : contained (interpret (stopAt u e alarm eval) (e :: es)) u = .error alarm u := by
    obtain rfl | rfl := h <;> rw [contained, stops]
  rw [importFile_eq_named, named]
  dsimp only
  rw [if_neg free]
  refine bind_of_error ?_
  have read (s : Session) : (modifyGet fun s => s.compile source : Eval _) s =
      .ok (s.compile source).1 (s.compile source).2 := rfl
  rw [whileImporting_eq, runNested, inDirectory_eq, inFrame_eq, bind_of_ok (read _), compiled]
  dsimp only
  rw [inside]
  rfl

end Eval

namespace Session

/-- The evaluations that are open at some moment of the run of a program within the budget `n`, the
innermost first, each with the session in which it began. The innermost is just about to begin,
within the budget that is given. -/
inductive Open (s : Session) (program : List Expr) (n : Nat) : Nat → List (Session × Expr) → Prop
  /-- The program evaluates an expression. -/
  | begin {t : Session} {e : Expr}
    (h : Eval.Comes (fun eval => Eval.interpret eval program) (Eval.evaluate n) s t e) :
    Open s program n n [(t, e)]
  /-- An evaluation that is open evaluates another expression. -/
  | inside {k : Nat} {t u : Session} {e e' : Expr} {outer : List (Session × Expr)}
    (h : Open s program n (k + 1) ((t, e) :: outer))
    (comes : Eval.Comes (fun eval => Eval.step eval k e) (Eval.evaluate k) t u e') :
    Open s program n k ((u, e') :: (t, e) :: outer)

/-- The place of the file that an expression imports when it is evaluated in the session, if it
imports one: its path from the root, without links or dots. -/
def imported? (s : Session) : Expr → Option Place
  | .import x =>
    match s.named x with
    | .file _ place _ _ => some place
    | _ => none
  | _ => none

/-- The same files are there and are being imported. -/
def SameImports (s t : Session) : Prop := t.importing = s.importing ∧ t.files = s.files

theorem SameImports.symm {s t : Session} (h : s.SameImports t) : t.SameImports s :=
  ⟨h.1.symm, h.2.symm⟩

end Session

namespace Eval

open Session (SameImports)

/-- But for imports of files, the files that are being imported are the same between any two moments
of an evaluation. -/
theorem stable_sameImports : Stable SameImports where
  refl _ := ⟨rfl, rfl⟩
  trans h g := ⟨g.1.trans h.1, g.2.trans h.2⟩
  store _ _ := ⟨rfl, rfl⟩
  output _ _ := ⟨rfl, rfl⟩
  readLine _ := ⟨rfl, rfl⟩
  readByte _ := ⟨rfl, rfl⟩
  compile s source := by
    obtain ⟨fresh, hops, programs, same⟩ := s.compile_snd source
    rw [same]
    exact ⟨rfl, rfl⟩
  frame h := h
  baseDirectory h := h
  importing h := ⟨rfl, h.2⟩
  enters _ _ := ⟨rfl, rfl⟩
  moves _ _ := ⟨rfl, rfl⟩

section

variable {α : Type} {act : (Expr → Eval Value) → Eval α} {n : Nat} {s s' t : Session} {e : Expr}

/-- If what a step does depends only on evaluations where the files being imported are those of a
session, then they are so where the step comes. -/
theorem Comes.sameImports (h : Comes act (evaluate n) s t e)
    (depends : ∀ eval', (∀ e, SameBetween SameImports s' s' (evaluate n e) (eval' e)) →
      act eval' s = act (evaluate n) s) : s'.SameImports t := by
  obtain ⟨alarm, differs⟩ := h
  by_contra elsewhere
  refine differs (depends _ fun e' u begun _ => stopAt_other ?_ alarm _)
  rintro ⟨rfl, rfl⟩
  exact elsewhere begun

theorem Comes.sameImports_of_uniform (h : Comes act (evaluate n) s t e)
    (uniform : ∀ eval eval', Uniform eval eval' (act eval) (act eval')) : s.SameImports t := by
  refine h.sameImports fun eval' same => ?_
  have back := stable_sameImports.of_built (.of_uniform (built_evaluate n) (uniform _ (evaluate n))) s
  exact stable_sameImports.of_uniform (built_evaluate n) same (uniform _ _) s
    (stable_sameImports.refl s) back.symm

/-- An import of a file that is not being imported puts the file on the list. -/
theorem Comes.sameImports_of_file {x : Token} {path : String} {place : Place} {source : String}
    {base : Path} (h : Comes (fun eval => importFile eval x) (evaluate n) s t e)
    (named : s.named x = .file path place source base) (free : ¬s.importing.contains place) :
    SameImports { s with importing := place :: s.importing } t := by
  refine h.sameImports fun eval' same => ?_
  have inside := stable_sameImports.runNested (built_evaluate n) same source base _
    (stable_sameImports.refl _)
    (stable_sameImports.keeps_runNested (built_evaluate n) source base _).symm
  have outside : whileImporting place (runNested eval' source base) s =
      whileImporting place (runNested (evaluate n) source base) s := by
    rw [whileImporting_eq, whileImporting_eq, inside]
  rw [importFile_eq_named, importFile_eq_named, named]
  simp only [if_neg free, Bind.bind, EStateM.bind, outside]

end

end Eval

namespace Session

variable {s t u : Session} {e e' : Expr} {program : List Expr} {n k : Nat}
  {outer : List (Session × Expr)}

theorem imported?_of_ne_import (h : ∀ x, e ≠ .import x) : s.imported? e = none := by
  cases e with
  | «import» x => exact absurd rfl (h x)
  | _ => rfl

/-- Where an evaluation comes, the files that are being imported are those that were, and the one
that the expression imports. This was not among them. -/
theorem importing_of_comes
    (h : Eval.Comes (fun eval => Eval.step eval k e) (Eval.evaluate k) s t e') :
    t.importing = (s.imported? e).toList ++ s.importing ∧ t.files = s.files ∧
      ∀ place ∈ s.imported? e, place ∉ s.importing := by
  by_cases isImport : ∃ x, e = .import x
  · obtain ⟨x, rfl⟩ := isImport
    have imports (eval : Expr → Eval Value) := Eval.importFile_eq_named eval x s
    cases named : s.named x with
    | nothing f =>
      have none : s.imported? (.import x) = none := by simp only [imported?, named]
      have fails : Eval.Comes (fun _ => Eval.fail x f) (Eval.evaluate k) s t e' :=
        h.congr fun eval => by rw [Eval.step, imports, named]
      obtain ⟨importing, files⟩ := fails.sameImports_of_uniform fun _ _ => .fail x f
      simp [none, importing, files]
    | library path source =>
      have none : s.imported? (.import x) = none := by simp only [imported?, named]
      have runs : Eval.Comes (fun eval => Eval.runNested eval source s.baseDirectory >>=
          Eval.settle x (Import.failure path)) (Eval.evaluate k) s t e' :=
        h.congr fun eval => by rw [Eval.step, imports, named]
      obtain ⟨importing, files⟩ := runs.sameImports_of_uniform fun _ _ => .text x _ source _
      simp [none, importing, files]
    | file path place source base =>
      have some : s.imported? (.import x) = some place := by simp only [imported?, named]
      have free : ¬s.importing.contains place := by
        intro listed
        -- an import that is refused comes nowhere
        obtain ⟨alarm, differs⟩ := h
        refine differs ?_
        change Eval.importFile _ x s = Eval.importFile _ x s
        rw [imports, imports, named]
        simp only [if_pos listed]
      obtain ⟨importing, files⟩ := Eval.Comes.sameImports_of_file h named free
      simpa [some, importing, files] using free
  · have none := s.imported?_of_ne_import (not_exists.1 isImport)
    obtain ⟨importing, files⟩ := h.sameImports_of_uniform fun _ _ => .step k (not_exists.1 isImport)
    simp [none, importing, files]

/-! ### The list -/

/-- What an import of a file names is found along its path, and can be read. -/
theorem readable_of_named {x : Token} {path : String} {place : Place} {source : String} {base : Path}
    (h : s.named x = .file path place source base) : s.files.Readable place := by
  simp only [named] at h
  split at h
  · cases h
  · rename_i path' _
    split at h
    · cases h
    · generalize s.baseDirectory.join (.ofString path') = target at h
      cases located : s.files.locate target with
      | error cause => rw [located] at h; cases h
      | ok place' =>
        cases read : s.files.readText target with
        | error cause => rw [located, read] at h; cases h
        | ok text =>
          rw [located, read] at h
          cases h
          exact FileSystem.readable_of_readText located read

theorem readable_of_imported? {place : Place} (h : s.imported? e = some place) :
    s.files.Readable place := by
  cases e with
  | «import» x =>
    simp only [imported?] at h
    split at h
    · cases h
      exact readable_of_named ‹_›
    · cases h
  | _ => cases h

/-- An import of a file that can be read names the file. -/
theorem named_of_locate {x : Token} {path : String} (names : Import.path? x = some path)
    (noLibrary : Library.source? path = none) {place : Place}
    (located : s.files.locate (s.baseDirectory.join (.ofString path)) = .ok place)
    (readable : s.files.Readable place) :
    ∃ source base, s.named x = .file path place source base := by
  obtain ⟨source, read⟩ := readable.exists_readText located
  refine ⟨source, (s.baseDirectory.join (.ofString path)).parent, ?_⟩
  simp only [named, names, noLibrary, located, read]
  rfl

/-- What is known of the files that are being imported at some moment of a run. -/
structure Lists (s t : Session) (outer : List (Session × Expr)) : Prop where
  /-- The files are still those of the begin. -/
  files : t.files = s.files
  /-- The list is that of the imports that are open, the innermost first. -/
  imports : t.importing = outer.filterMap fun p => p.1.imported? p.2
  /-- No file is listed twice. -/
  nodup : t.importing.Nodup
  /-- All of them can be read. -/
  readable : ∀ place ∈ t.importing, t.files.Readable place

/-- One evaluation in another keeps what is known. -/
theorem Lists.step (h : s.Lists t outer)
    (comes : Eval.Comes (fun eval => Eval.step eval k e) (Eval.evaluate k) t u e') :
    s.Lists u ((t, e) :: outer) := by
  obtain ⟨importing, files, free⟩ := importing_of_comes comes
  cases names : t.imported? e with
  | none =>
    have same : u.importing = t.importing := by simpa [names] using importing
    refine ⟨files.trans h.files, ?_, same ▸ h.nodup, same ▸ files ▸ h.readable⟩
    rw [List.filterMap_cons, names, same, h.imports]
  | some place =>
    have more : u.importing = place :: t.importing := by simpa [names] using importing
    refine ⟨files.trans h.files, ?_, ?_, ?_⟩
    · rw [List.filterMap_cons, names, more, h.imports]
    · rw [more]
      exact h.nodup.cons (free place names)
    · rw [more, files]
      exact List.forall_mem_cons.2 ⟨readable_of_imported? names, h.readable⟩

theorem Open.lists (h : s.Open program n k ((t, e) :: outer)) (none : s.importing = []) :
    s.Lists t outer := by
  generalize stacked : (t, e) :: outer = stack at h
  induction h generalizing t e outer with
  | begin h =>
    cases stacked
    obtain ⟨importing, files⟩ := h.sameImports_of_uniform fun _ _ => .interpret program
    rw [none] at importing
    exact ⟨files, importing, by simp [importing], by simp [importing]⟩
  | inside h comes ih =>
    cases stacked
    exact (ih rfl).step comes

/-- At every moment of every run the list of the files that are being imported, the outermost first,
is that of the imports that are open, and no file is listed twice; so there are at most as many open
imports as files. However an evaluation ends, it leaves the list as it is. An import of a file that
is listed fails where it stands, whatever the policy is and whatever the evaluation of its text would
be, and changes nothing. -/
theorem Reachable.imports_apart (h : s.Reachable)
    (opened : s.Open program n k ((t, e) :: outer)) :
    t.importing.reverse = outer.reverse.filterMap (fun p => p.1.imported? p.2) ∧
    t.importing.Nodup ∧ t.importing.length ≤ t.files.files.length ∧
    (∀ m d, (Eval.sessionAfter (Eval.evaluate m d t)).importing = t.importing) ∧
    ∀ x path place, e = .import x → Import.path? x = some path → Library.source? path = none →
      t.files.locate (t.baseDirectory.join (.ofString path)) = .ok place → place ∈ t.importing →
      ∀ policy eval, Eval.importFile eval x { t with policy := policy } =
        .error (.failed (.runtime x.location (.failedImport path .reentrant)))
          { t with policy := policy } := by
  have lists := opened.lists h.between.2
  refine ⟨?_, lists.nodup, ?_, fun m d => ?_, ?_⟩
  · rw [lists.imports, List.filterMap_reverse]
  · have subset : t.importing ⊆ t.files.files.map Prod.fst := fun place mem =>
      (lists.readable place mem).mem_files
    simpa using (lists.nodup.subperm subset).length_le
  · exact congrArg Surroundings.importing (Eval.restores_evaluate m d t)
  · intro x path place _ names noLibrary located listed policy eval
    let t' := { t with policy := policy }
    obtain ⟨source, base, named⟩ : ∃ source base, t'.named x = .file path place source base :=
      named_of_locate names noLibrary located (lists.readable place listed)
    rw [Eval.importFile_eq_named, named]
    exact if_pos (List.contains_iff_mem.2 listed)

/-- A file that imports itself. -/
theorem imports_apart_of_a_circle :
    let source := "import(\"b.fox\")"
    let bytes := [105, 109, 112, 111, 114, 116, 40, 34, 98, 46, 102, 111, 120, 34, 41]
    let x : Token := ⟨.string, "\"b.fox\"", some (.text "b.fox"), ⟨1, 8⟩⟩
    let place : Place := ["work".toList, "b.fox".toList]
    let s := new (FileSystem.empty.add (.ofString "b.fox") bytes) .current .contain (.ofBytes []) 0
    s.Reachable ∧ s.named x = .file "b.fox" place source .current ∧
    ∃ u, s.Open [.import x] 2 1 [(u, .import x), (s, .import x)] ∧ u.importing.reverse = [place] ∧
      Eval.importFile (Eval.evaluate 1) x u =
        .error (.failed (.runtime x.location (.failedImport "b.fox" .reentrant))) u := by
  intro source bytes x place s
  have reachable : s.Reachable := .new _ _ _ _ _
  have named : s.named x = .file "b.fox" place source .current := rfl
  have free : ¬s.importing.contains place := Bool.false_ne_true
  obtain ⟨u, compiled⟩ : ∃ u, compile { s with
      importing := place :: s.importing
      baseDirectory := .current
      frame := Store.root } source = (.ok [.import x], u) := by
    dsimp only [s, x, source]
    exact ⟨_, rfl⟩
  have opened : s.Open [.import x] 2 1 [(u, .import x), (s, .import x)] :=
    .inside (.begin (Eval.comes_first s _ [] _)) (Eval.comes_first_of_file named free compiled _)
  obtain ⟨lists, -, -, -, refused⟩ := reachable.imports_apart opened
  have listed : u.importing.reverse = [place] := lists.trans (by simp [imported?, named])
  obtain ⟨fresh, hops, programs, same⟩ := compile_snd { s with
    importing := place :: s.importing
    baseDirectory := .current
    frame := Store.root } source
  rw [compiled] at same
  have located : u.files.locate (u.baseDirectory.join (.ofString "b.fox")) = .ok place := by
    rw [show u = _ from same]
    rfl
  have mem : place ∈ u.importing := by
    rw [← List.mem_reverse, listed]
    exact List.mem_singleton_self place
  refine ⟨reachable, named, u, opened, listed, ?_⟩
  exact refused x "b.fox" place rfl rfl rfl located mem u.policy _

end Session

end FoxScript
