import FoxScript.Proofs.Session.Addressing

/-!
# Which files are imported

Resolution checks the target of an import as it is seen from the directory of the program in which
the import is written. The import reads the target as it is seen from the directory of the session.
The two are the same outside of functions. A function that contains an import can be called while a
program of another directory runs; then they are the same only if the path or the directories allow
it.

## Main statements

* `Path.join_eq_join_iff`: when a path means the same from two directories.
* `Import.isFile_of_faults`: what resolution checks of an import.
* `Session.Reachable.import_reads`: which file an import reads, and which was checked.
-/
namespace FoxScript

namespace Path

theorem join_of_isAbsolute {q : Path} (h : q.isAbsolute) (p : Path) : p.join q = q := by
  rw [join, if_pos h]

/-- A path that is not absolute is put behind the directory, with a slash between if need be. -/
theorem join_of_not_isAbsolute {q : Path} (h : ¬q.isAbsolute) (p : Path) :
    p.join q = ⟨(p.join ⟨[]⟩).chars ++ q.chars⟩ := by
  have empty : ¬(⟨[]⟩ : Path).isAbsolute := by decide
  rw [join, if_neg h, join, if_neg empty]
  split <;> simp

/-- A path means the same from two directories just if it is absolute or the directories are the
same up to a slash at the end. -/
theorem join_eq_join_iff {p p' q : Path} :
    p.join q = p'.join q ↔ q.isAbsolute ∨ p.join ⟨[]⟩ = p'.join ⟨[]⟩ := by
  by_cases h : q.isAbsolute
  · simp [join_of_isAbsolute h, h]
  · rw [join_of_not_isAbsolute h, join_of_not_isAbsolute h]
    constructor
    · intro same
      have chars := List.append_cancel_right (congrArg Path.chars same)
      exact .inr (congrArg Path.mk chars)
    · rintro (absolute | same)
      · exact absurd absolute h
      · rw [same]

end Path

theorem Import.isFile_of_faultsBy {files : FileSystem} {policy : NestedErrors}
    {inside : Path → Place → List Expr → List Diagnostic} {base : Path} {active : List Place}
    {x : Token} {path : String} (named : Import.path? x = some path)
    (noLibrary : Library.source? path = none)
    (h : Import.faultsBy files policy inside base active x = []) :
    files.isFile (base.join (.ofString path)) := by
  simp only [Import.faultsBy, named, noLibrary, Option.isSome_none, Bool.false_eq_true,
    if_false] at h
  rw [FileSystem.isFile]
  cases located : files.locate (base.join (.ofString path)) with
  | error cause => simp [located] at h
  | ok place =>
    cases found : files.file? place with
    | none => simp [located, found] at h
    | some bytes => simp [found]

/-- An import without faults names a file, seen from the directory of the program. -/
theorem Import.isFile_of_faults {files : FileSystem} {policy : NestedErrors} {depth : Nat}
    {base : Path} {active : List Place} {x : Token} {path : String}
    (named : Import.path? x = some path) (noLibrary : Library.source? path = none)
    (h : Import.faults files policy depth base active x = []) :
    files.isFile (base.join (.ofString path)) := by
  cases depth with
  | zero =>
    rw [faults] at h
    exact isFile_of_faultsBy named noLibrary h
  | succ depth =>
    rw [faults] at h
    exact isFile_of_faultsBy named noLibrary h

/-- Evaluates a file at a target, for an import of a path. -/
def Eval.importAt (eval : Expr → Eval Value) (x : Token) (path : String) (target : Path) :
    Eval Value := do
  let describe (ds : List Diagnostic) : Fault := .failedImport path (.nested ds)
  let s ← get
  let file := do return (← s.files.locate target, ← s.files.readText target)
  match file with
  | .error cause => fail x (.failedImport path (.unreadable cause))
  | .ok (place, source) =>
    if s.importing.contains place then fail x (.failedImport path .reentrant)
    else settle x describe (← whileImporting place (runNested eval source target.parent))

theorem Eval.importFile_eq {x : Token} {path : String} (named : Import.path? x = some path)
    (noLibrary : Library.source? path = none) (eval : Expr → Eval Value) (s : Session) :
    importFile eval x s = importAt eval x path (s.baseDirectory.join (.ofString path)) s := by
  have chosen : importFile eval x = (do
      let s ← get
      importAt eval x path (s.baseDirectory.join (.ofString path))) := by
    rw [importFile, named]
    simp only [noLibrary]
    rfl
  rw [chosen]
  rfl

namespace Session

/-- An import that is evaluated, wherever and whenever that is, stands in a program that was
accepted, and names a file as it is seen from the directory of that program. It reads the target as
it is seen from the directory of the session. The two are the same just if the path is absolute or
the directories are the same, which they are outside of functions. -/
theorem Reachable.import_reads {s t : Session} (h : s.Reachable) {program : List Expr}
    (accepted : (s.baseDirectory, program) ∈ s.programs) {n : Nat} {x : Token} {path : String}
    (visits : s.Visits n program t (.import x)) (named : Import.path? x = some path)
    (noLibrary : Library.source? path = none) :
    (∀ eval, Eval.importFile eval x t =
      Eval.importAt eval x path (t.baseDirectory.join (.ofString path)) t) ∧
    ∃ d program' Γ, (d, program') ∈ t.programs ∧ Site program' Γ (.import x) ∧
      t.store.Chain t.frame Γ.origins ∧
      (∃ files policy, (resolve files policy d program').faults = [] ∧
        files.isFile (d.join (.ofString path))) ∧
      (t.baseDirectory.join (.ofString path) = d.join (.ofString path) ↔
        (Path.ofString path).isAbsolute ∨ t.baseDirectory.join ⟨[]⟩ = d.join ⟨[]⟩) ∧
      (¬Γ.InCall → t.baseDirectory = d) := by
  obtain ⟨sound, d, program', Γ, placed⟩ := h.placed_of_visits accepted visits
  obtain ⟨files, policy, faultless⟩ := sound.checked _ placed.accepted
  have checked := Resolution.faults_ofProgram.1 faultless Γ _ placed.site
  refine ⟨fun eval => Eval.importFile_eq named noLibrary eval t, d, program', Γ, placed.accepted,
    placed.site, placed.chain, ⟨files, policy, faultless, ?_⟩, Path.join_eq_join_iff, ?_⟩
  · exact Import.isFile_of_faults named noLibrary checked
  · exact placed.directory.resolve_left

/-- A program that imports a file next to it. -/
theorem import_reads_of_a_file :
    let files := FileSystem.empty.add (.ofString "b.fox") [110, 117, 108, 108]
    let x : Token := ⟨.string, "\"b.fox\"", some (.text "b.fox"), ⟨1, 8⟩⟩
    let s := ((new files .current .propagate (.ofBytes []) 0).compile "import(\"b.fox\")").2
    s.Visits 1 [.import x] s (.import x) ∧ Library.source? "b.fox" = none ∧
      ∀ eval, Eval.importFile eval x s =
        Eval.importAt eval x "b.fox" (s.baseDirectory.join (.ofString "b.fox")) s := by
  intro files x s
  have reachable : s.Reachable := .compile (.new _ _ _ _ _) "import(\"b.fox\")"
  have accepted : (s.baseDirectory, [.import x]) ∈ s.programs := List.mem_singleton.2 rfl
  have visits : s.Visits 1 [.import x] s (.import x) := s.visits_first 0 _ []
  exact ⟨visits, rfl, (reachable.import_reads accepted visits rfl rfl).1⟩

end Session

end FoxScript
