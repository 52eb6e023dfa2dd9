import FoxScript.Proofs.File.System
import FoxScript.Proofs.Scope.Resolution
import Mathlib

/-!
# The graph of imports

Resolution follows the imports of a program from file to file, depth first, and leaves out only the
files that it is about to check on the way. It ends on every graph, cycles included, and it finds no
fault just if the program and all files that can be reached from it are sound.

Files are known by their places, while the paths that are opened are written one behind the other.
Such a path can become longer than the system allows, although each import leads to its file. So
the length of the paths that are opened is a condition of its own.

## Main definitions

* `Import.IsSound`: what a program has to meet by itself and in its direct imports.
* `Import.Reaches`: the files that can be reached from a program.
* `Import.Trail`: a chain of imports that meets no file twice.
* `Import.Calls`: which check makes which other.

## Main statements

* `Import.calls_wf`, `Import.faults_eq`: the checks end, and the bound on their depth is never met.
* `Import.faults_resolve`: what it means that resolution finds no fault.
-/
namespace FoxScript.Import

/-- From where the imports of a program are seen. -/
inductive Importer
  /-- From a directory that is given by its path. -/
  | directory (base : Path)
  /-- From the directory of the file at a place. -/
  | file (place : Place)

/-- The place to which a path leads from an importer. -/
def Importer.leads (fs : FileSystem) : Importer → Path → Except IoFault Place
  | .directory base, path => fs.leads fs.workingDirectory (base.join path)
  | .file place, path => fs.leads place.dropLast path

/-- The program in the file at a place, if there is one: the file is read as UTF-8, and its text
without faults. -/
def programAt? (fs : FileSystem) (place : Place) : Option (List Expr) :=
  match (fs.file? place).bind Text.Utf8.decode? with
  | none => none
  | some text =>
    let parse := read 0 (String.ofList text)
    if parse.faults.isEmpty then some parse.exprs else none

/-- The import of a path stands somewhere in a program. The paths of the library are left out. -/
def Names (program : List Expr) (t : Token) (path : Path) : Prop :=
  (∃ Γ, Site program Γ (.import t)) ∧ ∃ text, path? t = some text ∧ Library.source? text = none ∧
    path = .ofString text

/-- The places of a program are sound, whatever its imports are, and so are the imports: each is
given as a text, and leads to a file that can be read as a program, unless it is of the library. -/
def IsSound (fs : FileSystem) (importer : Importer) (program : List Expr) : Prop :=
  (∀ Γ e, Site program Γ e → e.IsSound (fun _ => []) Γ) ∧
    (∀ Γ t, Site program Γ (.import t) → (path? t).isSome) ∧
    ∀ t path, Names program t path →
      ∃ P, importer.leads fs path = .ok P ∧ (programAt? fs P).isSome

/-- The files that can be reached from a program through imports. -/
inductive Reaches (fs : FileSystem) (base : Path) (program : List Expr) : Place → Prop
  | main {t : Token} {path : Path} {P : Place} (names : Names program t path)
    (leads : (Importer.directory base).leads fs path = .ok P) (file : (fs.file? P).isSome) :
    Reaches fs base program P
  | file {Q P : Place} {program' : List Expr} {t : Token} {path : Path}
    (reached : Reaches fs base program Q) (read : programAt? fs Q = some program')
    (names : Names program' t path) (leads : (Importer.file Q).leads fs path = .ok P)
    (file : (fs.file? P).isSome) : Reaches fs base program P

/-- The ways to come from a program to another through imports, each to a file that is not met
before: the path of the directory from which the last program is seen, as it is written, and the
files, the last one first. -/
inductive Trail (fs : FileSystem) (base : Path) (program : List Expr) :
    Path → List Place → List Expr → Prop
  | main : Trail fs base program base [] program
  | file {directory : Path} {files : List Place} {program' : List Expr} {t : Token} {path : Path}
    {P : Place} {program'' : List Expr} (trail : Trail fs base program directory files program')
    (names : Names program' t path)
    (leads : fs.leads fs.workingDirectory (directory.join path) = .ok P) (new : P ∉ files)
    (read : programAt? fs P = some program'') :
    Trail fs base program (directory.join path).parent (P :: files) program''

/-- On the way no path is written that is longer than the system allows. -/
def Short (fs : FileSystem) (base : Path) (program : List Expr) : Prop :=
  ∀ directory files program', Trail fs base program directory files program' →
    ∀ t path, Names program' t path → FileSystem.byteLength (directory.join path).chars ≤ 4095

/-- The check of an import, with the directory from which it is seen and the files that are being
checked. -/
structure Check where
  /-- The directory, as it is written. -/
  base : Path
  /-- The files that are being checked, the innermost first. -/
  active : List Place
  /-- The path of the import. -/
  token : Token

/-- The check of an import makes those of the imports in its file, unless the file is being checked
already. -/
def Calls (fs : FileSystem) (inner outer : Check) : Prop :=
  ∃ text P program, path? outer.token = some text ∧ Library.source? text = none ∧
    fs.locate (outer.base.join (.ofString text)) = .ok P ∧ P ∉ outer.active ∧
    programAt? fs P = some program ∧ inner.base = (outer.base.join (.ofString text)).parent ∧
    inner.active = P :: outer.active ∧ ∃ Γ, Site program Γ (.import inner.token)

/-! ### The checks end -/

section

variable {fs : FileSystem} {policy : NestedErrors} {active : List Place} {P : Place}

theorem isSome_file?_of_programAt? {program : List Expr} (h : programAt? fs P = some program) :
    (fs.file? P).isSome := by
  cases file : fs.file? P with
  | none => simp [programAt?, file] at h
  | some bytes => rfl

/-- The files that are not being checked. -/
def remaining (fs : FileSystem) (active : List Place) : Nat :=
  (fs.files.filter fun f => f.1 ∉ active).length

theorem remaining_le (fs : FileSystem) (active : List Place) :
    remaining fs active ≤ fs.files.length :=
  List.length_filter_le _ _

theorem remaining_cons_lt (file : (fs.file? P).isSome) (new : P ∉ active) :
    remaining fs (P :: active) < remaining fs active := by
  obtain ⟨bytes, mem⟩ := FileSystem.exists_mem_of_file? file
  have split : (fs.files.filter fun f => f.1 ∉ P :: active) =
      (fs.files.filter fun f => f.1 ∉ active).filter fun f => f.1 ≠ P := by
    simp [List.filter_filter]
  rw [remaining, remaining, split, List.length_filter_lt_length_iff_exists]
  exact ⟨(P, bytes), by simp [mem, new], by simp⟩

theorem Calls.remaining_lt {inner outer : Check} (h : Calls fs inner outer) :
    remaining fs inner.active < remaining fs outer.active := by
  obtain ⟨text, P, program, -, -, -, new, read, -, active, -⟩ := h
  rw [active]
  exact remaining_cons_lt (isSome_file?_of_programAt? read) new

/-- Each check makes finitely many others in turn, however the files import each other. -/
theorem calls_wf (fs : FileSystem) : WellFounded (Calls fs) :=
  Subrelation.wf Calls.remaining_lt (measure fun c : Check => remaining fs c.active).wf

/-- The programs inside that matter are those of files that are not being checked. -/
theorem faultsBy_congr {inside inside' : Path → Place → List Expr → List Diagnostic}
    (same : ∀ base P program, (fs.file? P).isSome → P ∉ active →
      inside base P program = inside' base P program) (base : Path) (t : Token) :
    faultsBy fs policy inside base active t = faultsBy fs policy inside' base active t := by
  unfold faultsBy
  split
  · rfl
  split
  · rfl
  dsimp only
  split
  · rfl
  rename_i P _
  split
  · rfl
  rename_i file
  split
  · rfl
  rename_i new
  split
  · rfl
  rw [same _ P _ (by simpa [Option.isSome_iff_ne_none] using file) (by simpa using new)]

theorem faults_zero (base : Path) (t : Token) :
    faults fs policy 0 base active t = faultsBy fs policy (fun _ _ _ => []) base active t := by
  rw [faults]

theorem faults_succ (d : Nat) (base : Path) (t : Token) :
    faults fs policy (d + 1) base active t =
      faultsBy fs policy (fun base P program =>
        (Resolution.ofProgram (faults fs policy d base (P :: active)) program).faults)
        base active t := by
  rw [faults]

/-- A depth from the number of files that are not being checked on is as good as any other. -/
theorem faults_stable {d d' : Nat} (h : remaining fs active ≤ d) (h' : remaining fs active ≤ d')
    (base : Path) : faults fs policy d base active = faults fs policy d' base active := by
  induction d generalizing active d' base with
  | zero =>
    have none {P : Place} (file : (fs.file? P).isSome) (new : P ∉ active) : False := by
      have := remaining_cons_lt file new
      omega
    funext t
    cases d' with
    | zero => rfl
    | succ d' =>
      rw [faults_zero, faults_succ]
      exact faultsBy_congr (fun _ P _ file new => (none file new).elim) base t
  | succ d ih =>
    funext t
    cases d' with
    | zero =>
      rw [faults_zero, faults_succ]
      refine faultsBy_congr (fun _ P _ file new => ?_) base t
      have := remaining_cons_lt file new
      omega
    | succ d' =>
      rw [faults_succ, faults_succ]
      refine faultsBy_congr (fun base P program file new => ?_) base t
      have fewer := remaining_cons_lt file new
      have le : remaining fs (P :: active) ≤ d' := by omega
      rw [ih (by omega) le base]

/-- The bound on the depth is never met: the faults of an import are those of its file, for which
the imports inside are checked in the same way. -/
theorem faults_eq (fs : FileSystem) (policy : NestedErrors) (base : Path) (active : List Place)
    (t : Token) :
    faults fs policy (fs.files.length + 1) base active t =
      faultsBy fs policy (fun base P program =>
        (Resolution.ofProgram (faults fs policy (fs.files.length + 1) base (P :: active))
          program).faults) base active t := by
  rw [faults_succ]
  refine faultsBy_congr (fun base P program file new => ?_) base t
  have le := remaining_le fs (P :: active)
  rw [faults_stable le (le.trans (Nat.le_succ _)) base]

end

/-! ### Programs without faults -/

section

variable {fs : FileSystem} {directory : Path} {files : List Place} {program : List Expr}

/-- A program has no faults just if its places are sound by themselves and its imports have none. -/
theorem faults_ofProgram_eq_nil_iff {imports : Token → List Diagnostic} :
    (Resolution.ofProgram imports program).faults = [] ↔
      (∀ Γ e, Site program Γ e → e.IsSound (fun _ => []) Γ) ∧
        ∀ Γ t, Site program Γ (.import t) → imports t = [] := by
  rw [Resolution.faults_ofProgram]
  constructor
  · refine fun h => ⟨fun Γ e site => ?_, fun Γ t site => h Γ _ site⟩
    have := h Γ e site
    cases e with
    | «import» => rfl
    | _ => exact this
  · rintro ⟨h, sound⟩ Γ e site
    have := h Γ e site
    cases e with
    | «import» t => exact sound Γ t site
    | _ => exact this

/-- No fault is found in a program that is seen from a directory while files are being checked. -/
def Clear (fs : FileSystem) (directory : Path) (files : List Place) (program : List Expr) : Prop :=
  (Resolution.ofProgram (faults fs .propagate (fs.files.length + 1) directory files)
    program).faults = []

/-- An import that is not of the library has no faults just if it leads to a file that is being
checked or whose program is clear. -/
theorem faults_eq_nil_iff {t : Token} :
    faults fs .propagate (fs.files.length + 1) directory files t = [] ↔
      ∃ text, path? t = some text ∧ (Library.source? text = none →
        ∃ P, fs.locate (directory.join (.ofString text)) = .ok P ∧ (fs.file? P).isSome ∧
          (P ∈ files ∨ ∃ program, programAt? fs P = some program ∧
            Clear fs (directory.join (.ofString text)).parent (P :: files) program)) := by
  rw [faults_eq, faultsBy]
  cases path : path? t with
  | none => simp
  | some text =>
    cases source : Library.source? text with
    | some source => simp [source]
    | none =>
      cases located : fs.locate (directory.join (.ofString text)) with
      | error cause => simp [source, located]
      | ok P =>
        cases file : fs.file? P with
        | none => simp [source, located, file]
        | some bytes =>
          by_cases active : P ∈ files
          · simp [source, located, file, active]
          have text? := FileSystem.readText_of_locate located file
          cases decoded : Text.Utf8.decode? bytes with
          | none => simp [source, located, file, active, text?, decoded, programAt?]
          | some cs =>
            by_cases faultless : (read 0 (String.ofList cs)).faults = [] <;>
              simp [source, located, file, active, text?, decoded, programAt?, Clear, faultless]

/-- No fault is found in a program just if its places are sound and each of its imports leads to a
file that is being checked or whose program is clear. -/
theorem clear_iff : Clear fs directory files program ↔
    (∀ Γ e, Site program Γ e → e.IsSound (fun _ => []) Γ) ∧
      (∀ Γ t, Site program Γ (.import t) → (path? t).isSome) ∧
      ∀ t path, Names program t path →
        ∃ P, fs.locate (directory.join path) = .ok P ∧ (fs.file? P).isSome ∧
          (P ∈ files ∨ ∃ program, programAt? fs P = some program ∧
            Clear fs (directory.join path).parent (P :: files) program) := by
  rw [Clear, faults_ofProgram_eq_nil_iff]
  simp only [faults_eq_nil_iff]
  refine and_congr_right fun _ => ?_
  constructor
  · refine fun h => ⟨fun Γ t site => ?_, ?_⟩
    · obtain ⟨text, path, -⟩ := h Γ t site
      simp [path]
    · rintro t _ ⟨⟨Γ, site⟩, text, path, foreign, rfl⟩
      obtain ⟨text', path', h⟩ := h Γ t site
      obtain rfl : text = text' := by simpa [path] using path'
      exact h foreign
  · rintro ⟨given, h⟩ Γ t site
    obtain ⟨text, path⟩ := Option.isSome_iff_exists.1 (given Γ t site)
    exact ⟨text, path, fun foreign => h t _ ⟨⟨Γ, site⟩, text, path, foreign, rfl⟩⟩

end

/-! ### Trails -/

section

variable {fs : FileSystem} {base directory : Path} {program program' : List Expr}
  {files : List Place} {P : Place}

/-- From where a program at the end of a trail is seen. -/
def Importer.last (base : Path) : List Place → Importer
  | [] => .directory base
  | P :: _ => .file P

/-- A trail to some file is a trail to each file on the way, when it ends there. -/
theorem Trail.exists_of_mem (trail : Trail fs base program directory files program')
    (h : P ∈ files) :
    ∃ directory files program', Trail fs base program directory (P :: files) program' := by
  induction trail with
  | main => cases h
  | @file directory files program' t path Q program'' trail names leads new read ih =>
    rcases List.mem_cons.1 h with rfl | h
    · exact ⟨_, _, _, trail.file names leads new read⟩
    · exact ih h

theorem Trail.read (trail : Trail fs base program directory (P :: files) program') :
    programAt? fs P = some program' := by
  cases trail with
  | file _ _ _ _ read => exact read

/-- The directory at the end of a trail, as it is written, stands for that of the last file. -/
theorem Trail.leads_join (proper : fs.IsProper)
    (trail : Trail fs base program directory files program') (path : Path) :
    fs.leads fs.workingDirectory (directory.join path) =
      (Importer.last base files).leads fs path := by
  cases trail with
  | main => rfl
  | file trail names leads new read =>
    exact FileSystem.leads_parent_join proper leads (isSome_file?_of_programAt? read) path

/-- The last file of a trail can be reached. -/
theorem Trail.reaches (proper : fs.IsProper)
    (trail : Trail fs base program directory (P :: files) program') :
    Reaches fs base program P := by
  generalize whole : P :: files = way at trail
  induction trail generalizing P files with
  | main => cases whole
  | @file directory files' program' t path Q program'' trail names leads new read ih =>
    cases whole
    have file := isSome_file?_of_programAt? read
    rw [trail.leads_join proper] at leads
    cases files' with
    | nil =>
      cases trail
      exact .main names leads file
    | cons R files' => exact .file (ih rfl) trail.read names leads file

/-- Where no fault is found, none is found on the way. -/
theorem Trail.clear (proper : fs.IsProper) (clear : Clear fs base [] program)
    (trail : Trail fs base program directory files program') :
    Clear fs directory files program' := by
  induction trail with
  | main => exact clear
  | @file directory files program' t path P program'' trail names leads new read ih =>
    obtain ⟨-, -, h⟩ := clear_iff.1 ih
    obtain ⟨P', located, file, h⟩ := h t path names
    obtain rfl : P = P' := by
      have := ((FileSystem.locate_eq_ok_iff proper file).1 located).1
      rw [leads] at this
      cases this
      rfl
    obtain ⟨program', read', clear'⟩ := h.resolve_left new
    rw [read] at read'
    cases read'
    exact clear'

/-- An import at the end of a trail on which no fault is found leads on, or back to a file of the
trail. In both cases there is a trail to its file. -/
theorem Trail.exists_next (proper : fs.IsProper) (clear : Clear fs base [] program)
    (trail : Trail fs base program directory files program') {t : Token} {path : Path}
    (names : Names program' t path) :
    ∃ P, (Importer.last base files).leads fs path = .ok P ∧
      FileSystem.byteLength (directory.join path).chars ≤ 4095 ∧
      ∃ directory files program', Trail fs base program directory (P :: files) program' := by
  obtain ⟨-, -, h⟩ := clear_iff.1 (trail.clear proper clear)
  obtain ⟨P, located, file, h⟩ := h t path names
  obtain ⟨leads, short⟩ := (FileSystem.locate_eq_ok_iff proper file).1 located
  refine ⟨P, trail.leads_join proper path ▸ leads, short, ?_⟩
  by_cases known : P ∈ files
  · exact trail.exists_of_mem known
  · obtain ⟨program'', read, -⟩ := h.resolve_left known
    exact ⟨_, _, _, trail.file names leads known read⟩

theorem Trail.isSound (proper : fs.IsProper) (clear : Clear fs base [] program)
    (trail : Trail fs base program directory files program') :
    IsSound fs (.last base files) program' := by
  obtain ⟨alone, given, -⟩ := clear_iff.1 (trail.clear proper clear)
  refine ⟨alone, given, fun t path names => ?_⟩
  obtain ⟨P, leads, -, _, _, _, next⟩ := trail.exists_next proper clear names
  exact ⟨P, leads, by simp [next.read]⟩

/-- Where no fault is found, there is a trail to each file that can be reached. -/
theorem Reaches.exists_trail (proper : fs.IsProper) (clear : Clear fs base [] program)
    (reached : Reaches fs base program P) :
    ∃ directory files program', Trail fs base program directory (P :: files) program' := by
  induction reached with
  | main names leads file =>
    obtain ⟨P', leads', -, next⟩ := Trail.main.exists_next proper clear names
    cases leads.symm.trans leads'
    exact next
  | file reached read names leads file ih =>
    obtain ⟨directory, files, program', trail⟩ := ih
    cases trail.read.symm.trans read
    obtain ⟨P', leads', -, next⟩ := trail.exists_next proper clear names
    cases leads.symm.trans leads'
    exact next

/-- Where no fault is found, all that can be reached is sound, and no path is too long. -/
theorem Clear.isSound (proper : fs.IsProper) (clear : Clear fs base [] program) :
    IsSound fs (.directory base) program ∧
      (∀ P, Reaches fs base program P →
        ∃ program', programAt? fs P = some program' ∧ IsSound fs (.file P) program') ∧
      Short fs base program := by
  refine ⟨Trail.main.isSound proper clear, fun P reached => ?_, ?_⟩
  · obtain ⟨_, _, program', trail⟩ := reached.exists_trail proper clear
    exact ⟨program', trail.read, trail.isSound proper clear⟩
  · intro directory files program' trail t path names
    obtain ⟨P, -, short, -⟩ := trail.exists_next proper clear names
    exact short

/-- The other way round, no fault is found where all trails are sound and short. The induction is on
the number of files that are not met yet. -/
theorem Trail.clear_of_isSound (proper : fs.IsProper) (short : Short fs base program)
    (sound : ∀ directory files program', Trail fs base program directory files program' →
      IsSound fs (.last base files) program')
    (trail : Trail fs base program directory files program') :
    Clear fs directory files program' := by
  induction left : remaining fs files using Nat.strong_induction_on
    generalizing directory files program' with
  | _ left ih =>
    obtain ⟨alone, given, leadOn⟩ := sound _ _ _ trail
    refine clear_iff.2 ⟨alone, given, fun t path names => ?_⟩
    obtain ⟨P, leads, read⟩ := leadOn t path names
    obtain ⟨program'', read⟩ := Option.isSome_iff_exists.1 read
    have file := isSome_file?_of_programAt? read
    rw [← trail.leads_join proper] at leads
    refine ⟨P, ?_, file, ?_⟩
    · exact (FileSystem.locate_eq_ok_iff proper file).2 ⟨leads, short _ _ _ trail t path names⟩
    · by_cases known : P ∈ files
      · exact .inl known
      · refine .inr ⟨program'', read, ?_⟩
        exact ih _ (left ▸ remaining_cons_lt file known) (trail.file names leads known read) rfl

/-- Resolution ends on each graph of imports, and it finds no fault just if the program and all
files that can be reached from it are sound and no path gets too long on the way. -/
theorem faults_resolve (proper : fs.IsProper) (policy : NestedErrors) :
    WellFounded (Calls fs) ∧
      (∀ base active t, faults fs policy (fs.files.length + 1) base active t =
        faultsBy fs policy (fun base P program =>
          (Resolution.ofProgram (faults fs policy (fs.files.length + 1) base (P :: active))
            program).faults) base active t) ∧
      ∀ base program, (resolve fs .propagate base program).faults = [] ↔
        IsSound fs (.directory base) program ∧
          (∀ P, Reaches fs base program P →
            ∃ program', programAt? fs P = some program' ∧ IsSound fs (.file P) program') ∧
          Short fs base program := by
  refine ⟨calls_wf fs, faults_eq fs policy, fun base program => ⟨Clear.isSound proper, ?_⟩⟩
  rintro ⟨main, reached, short⟩
  refine Trail.main.clear_of_isSound proper short fun directory files program' trail => ?_
  cases files with
  | nil =>
    cases trail
    exact main
  | cons P files =>
    obtain ⟨program'', read, sound⟩ := reached P (trail.reaches proper)
    cases trail.read.symm.trans read
    exact sound

end

/-- The text of a program that imports a path. -/
def importText (path : String) : String := "import(\"" ++ path ++ "\")"

/-- The program that the text gives. -/
def importing (path : String) : List Expr :=
  [.import ⟨.string, "\"" ++ path ++ "\"", some (.text path), ⟨1, 8⟩⟩]

theorem names_importing {path : String} (foreign : Library.source? path = none) :
    ∃ t, Names (importing path) t (.ofString path) :=
  ⟨_, ⟨[], ([], _), List.mem_singleton.2 rfl, .here⟩, path, rfl, foreign, rfl⟩

/-- Two files that import each other. -/
def circle : FileSystem :=
  (FileSystem.empty.add (.ofString "a.fox") (importText "b.fox").toUTF8.toList).add
    (.ofString "b.fox") (importText "a.fox").toUTF8.toList

/-- All that can be reached from a program that imports a file of a circle is sound. -/
theorem faults_resolve_of_a_circle :
    circle.IsProper ∧ (resolve circle .propagate .current (importing "a.fox")).faults = [] ∧
      IsSound circle (.directory .current) (importing "a.fox") ∧
      ∀ P, Reaches circle .current (importing "a.fox") P →
        ∃ program, programAt? circle P = some program ∧ IsSound circle (.file P) program := by
  have proper : circle.IsProper := by decide
  have faultless : (resolve circle .propagate .current (importing "a.fox")).faults = [] := by cbv
  obtain ⟨-, -, iff⟩ := faults_resolve proper .propagate
  obtain ⟨main, reached, -⟩ := (iff _ _).1 faultless
  exact ⟨proper, faultless, main, reached⟩

/-! ### A long way -/

theorem IsSound.congr {fs : FileSystem} {importer importer' : Importer} {program : List Expr}
    (same : ∀ path, importer.leads fs path = importer'.leads fs path)
    (h : IsSound fs importer' program) : IsSound fs importer program := by
  obtain ⟨alone, given, leadOn⟩ := h
  exact ⟨alone, given, fun t path names => same path ▸ leadOn t path names⟩

/-- From directories from which all paths lead to the same places, the same files are reached. -/
theorem Reaches.congr {fs : FileSystem} {base base' : Path} {program : List Expr} {P : Place}
    (same : ∀ path, (Importer.directory base).leads fs path =
      (Importer.directory base').leads fs path)
    (h : Reaches fs base program P) : Reaches fs base' program P := by
  induction h with
  | main names leads file => exact .main names (same _ ▸ leads) file
  | file reached read names leads file ih => exact .file ih read names leads file

/-- A path that leads into a directory and out of it again, and again. -/
def detour : Nat → List Char
  | 0 => ['d', '/', '.', '.']
  | n + 1 => 'd' :: '/' :: '.' :: '.' :: '/' :: detour n

theorem splitSlashes_detour (n : Nat) :
    ∃ init, Path.splitSlashes (detour n) = init ++ [['.', '.']] := by
  induction n with
  | zero => exact ⟨[['d']], rfl⟩
  | succ n ih =>
    obtain ⟨init, split⟩ := ih
    exact ⟨['d'] :: ['.', '.'] :: init, by simp [detour, Path.splitSlashes, split]⟩

theorem byteLength_detour (n : Nat) : FileSystem.byteLength (detour n) = 5 * n + 4 := by
  induction n with
  | zero => rfl
  | succ n ih =>
    have step : detour (n + 1) = ['d', '/', '.', '.', '/'] ++ detour n := rfl
    have : FileSystem.byteLength ['d', '/', '.', '.', '/'] = 5 := rfl
    rw [step, FileSystem.byteLength_append, this, ih]
    omega

theorem walk_detour {fs : FileSystem} {D : Place} (h : fs.walk D [['d'], ['.', '.']] = .ok D)
    (n : Nat) : fs.walk D (Path.splitSlashes (detour n)) = .ok D := by
  induction n with
  | zero => exact h
  | succ n ih =>
    have step : Path.splitSlashes (detour (n + 1)) =
        [['d'], ['.', '.']] ++ Path.splitSlashes (detour n) := rfl
    rw [step, FileSystem.walk_append_of_ok h]
    exact ih

theorem leads_detour {fs : FileSystem} {D : Place} (h : fs.walk D [['d'], ['.', '.']] = .ok D)
    (n : Nat) : fs.leads D ⟨detour n⟩ = .ok D := by
  have null : '\x00' ∉ detour n := by
    induction n <;> simp_all [detour]
  have relative : (⟨detour n⟩ : Path).isAbsolute = false := by cases n <;> rfl
  rw [FileSystem.leads, if_neg (by simpa using null), relative]
  exact walk_detour h n

theorem join_detour (n : Nat) {q : Path} (relative : ¬q.isAbsolute) :
    (⟨detour n⟩ : Path).join q = ⟨detour n ++ '/' :: q.chars⟩ := by
  obtain ⟨cs, eq⟩ : ∃ cs, detour n = cs ++ ['.'] := by
    induction n with
    | zero => exact ⟨['d', '/', '.'], rfl⟩
    | succ n ih =>
      obtain ⟨cs, eq⟩ := ih
      exact ⟨'d' :: '/' :: '.' :: '.' :: '/' :: cs, by rw [detour, eq]; rfl⟩
  rw [Path.join, if_neg relative, if_neg (by simp [eq])]

theorem parent_detour (n : Nat) {name : List Char} (named : ¬Path.isIdle name)
    (single : '/' ∉ name) : (⟨detour n ++ '/' :: name⟩ : Path).parent = ⟨detour n⟩ := by
  obtain ⟨init, split⟩ := splitSlashes_detour n
  have lead : Path.leadLength (detour n ++ '/' :: name) = 0 := by cases n <;> rfl
  have parts : Path.splitSlashes (detour n ++ '/' :: name) =
      Path.splitSlashes (detour n) ++ [name] := by
    rw [Path.splitSlashes_append, Path.splitSlashes_of_notMem single]
  have kept : (Path.splitSlashes (detour n)).rdropWhile Path.isIdle =
      Path.splitSlashes (detour n) := by
    rw [split, List.rdropWhile_concat_neg]
    decide
  rw [Path.parent_eq named (by rw [lead]; exact parts), lead, kept, Path.intercalate_splitSlashes]
  rfl

/-- Three files. The first leads to the second through the directory of the third. -/
def winding : FileSystem :=
  ((FileSystem.empty.add (.ofString "a.fox") (importText "d/../d/../b.fox").toUTF8.toList).add
    (.ofString "b.fox") "null".toUTF8.toList).add (.ofString "d/c.fox") "null".toUTF8.toList

/-- The length of the path by which the second file is opened. -/
theorem byteLength_of_detour (n : Nat) :
    FileSystem.byteLength (((⟨detour n⟩ : Path).join (.ofString "a.fox")).parent.join
      (.ofString "d/../d/../b.fox")).chars = 5 * n + 20 := by
  have parent : ((⟨detour n⟩ : Path).join (.ofString "a.fox")).parent = ⟨detour n⟩ := by
    rw [join_detour n (by decide)]
    exact parent_detour n (by decide) (by decide)
  have rest : FileSystem.byteLength ('/' :: (Path.ofString "d/../d/../b.fox").chars) = 16 := rfl
  rw [parent, join_detour n (by decide), FileSystem.byteLength_append, byteLength_detour, rest]

/-- All that can be reached from a program is sound, but the path of a file gets too long. -/
theorem faults_resolve_of_a_long_way :
    winding.IsProper ∧ ¬((resolve winding .propagate ⟨detour 816⟩ (importing "a.fox")).faults = [] ↔
      IsSound winding (.directory ⟨detour 816⟩) (importing "a.fox") ∧
        ∀ P, Reaches winding ⟨detour 816⟩ (importing "a.fox") P →
          ∃ program, programAt? winding P = some program ∧ IsSound winding (.file P) program) := by
  have proper : winding.IsProper := by decide
  have nearby : Clear winding .current [] (importing "a.fox") := by cbv
  obtain ⟨main, reached, -⟩ := nearby.isSound proper
  have directory : winding.isDirectory winding.workingDirectory := rfl
  have here : winding.leads winding.workingDirectory .current = .ok winding.workingDirectory := rfl
  have there : winding.leads winding.workingDirectory ⟨detour 816⟩ =
      .ok winding.workingDirectory := leads_detour rfl 816
  have same (q : Path) : (Importer.directory ⟨detour 816⟩).leads winding q =
      (Importer.directory .current).leads winding q :=
    (FileSystem.leads_join there directory q).trans (FileSystem.leads_join here directory q).symm
  refine ⟨proper, fun iff => ?_⟩
  have faultless : Clear winding ⟨detour 816⟩ [] (importing "a.fox") :=
    iff.2 ⟨main.congr same, fun P h => reached P (h.congr same)⟩
  obtain ⟨-, -, short⟩ := faultless.isSound proper
  have first : ∃ t, Names (importing "a.fox") t (.ofString "a.fox") := names_importing rfl
  have second : ∃ t, Names (importing "d/../d/../b.fox") t (.ofString "d/../d/../b.fox") :=
    names_importing rfl
  obtain ⟨t, names⟩ := first
  obtain ⟨t', names'⟩ := second
  have leads : winding.leads winding.workingDirectory
      ((⟨detour 816⟩ : Path).join (.ofString "a.fox")) =
        .ok (winding.workingDirectory ++ ["a.fox".toList]) :=
    (FileSystem.leads_join there directory _).trans rfl
  have read : programAt? winding (winding.workingDirectory ++ ["a.fox".toList]) =
      some (importing "d/../d/../b.fox") := by cbv
  have trail := Trail.main.file names leads List.not_mem_nil read
  have le := short _ _ _ trail t' _ names'
  rw [byteLength_of_detour] at le
  omega

end FoxScript.Import
