import FoxScript.Proofs.Scope.Twin

/-!
# What the faults of imports change

Resolution reports faults as it goes, those of imports among them, and no step looks at what was
reported before. So two resolutions of a program that get different faults from its imports find out
the same about its names, and their faults are related if those of each import are.

The policy decides what the faults of an imported file are to the import. A program without faults
under the strict policy is resolved alike under the other.

## Main definitions

* `Resolution.Reports`: what the faults of the same imports have to be to each other.

## Main statements

* `Resolution.Reports.matches_ofProgram`: two resolutions with different faults of imports.
* `isStatic_of_mem_faults`: all faults of resolution are faults of texts.
* `resolve_contain`: a program without faults is resolved alike under either policy.
-/
namespace FoxScript

namespace Resolution

/-! ### Faults that differ -/

/-- What the faults on two sides are to each other, if each import reports to one side what it
reports there and to the other what it reports there. -/
structure Reports (imports imports' : Token → List Diagnostic)
    (R : List Diagnostic → List Diagnostic → Prop) : Prop where
  /-- There are no faults yet. -/
  nil : R [] []
  /-- A fault of scopes is reported to both sides. -/
  scoping : ∀ {ds ds'} l f, R ds ds' → R (ds ++ [.scoping l f]) (ds' ++ [.scoping l f])
  /-- The faults of an import are reported. -/
  imported : ∀ {ds ds'} t, R ds ds' → R (ds ++ imports t) (ds' ++ imports' t)

/-- States that differ in their faults, which are related. -/
def Matches (R : List Diagnostic → List Diagnostic → Prop) (r r' : Resolution) : Prop :=
  r'.scopes = r.scopes ∧ r'.hops = r.hops ∧ R r.faults r'.faults

theorem Matches.eq {R : List Diagnostic → List Diagnostic → Prop} {r r' : Resolution}
    (h : Matches R r r') (faults : r'.faults = r.faults) : r' = r := by
  cases r
  cases r'
  obtain ⟨rfl, rfl, -⟩ := h
  cases faults
  rfl

/-- Two resolutions of a program find out the same about its names, and their faults are related. -/
theorem Reports.matches_ofProgram {imports imports' : Token → List Diagnostic}
    {R : List Diagnostic → List Diagnostic → Prop} (h : Reports imports imports' R)
    (program : List Expr) : Matches R (ofProgram imports program) (ofProgram imports' program) := by
  have tracks : Tracks imports imports' (fun _ => True) (Matches R) := by
    refine ⟨fun h => h.1, ?_, ?_, ?_, ?_⟩
    · rintro r r' scopes ⟨-, hops, related⟩
      exact ⟨rfl, hops, related⟩
    · rintro r r' id n - ⟨scopes, hops, related⟩
      exact ⟨scopes, congrArg (·.insert id n) hops, related⟩
    · rintro r r' l f ⟨scopes, hops, related⟩
      exact ⟨scopes, hops, h.scoping l f related⟩
    · rintro r r' t ⟨scopes, hops, related⟩
      exact ⟨scopes, hops, h.imported t related⟩
  exact tracks.ofProgram program (fun _ _ => trivial) ⟨rfl, rfl, h.nil⟩

end Resolution

/-! ### Faults of texts -/

/-- What resolution reports are faults of texts, if what the imports report are. -/
theorem Resolution.isStatic_of_mem_faults {imports : Token → List Diagnostic}
    (static : ∀ t, ∀ d ∈ imports t, d.isStatic) {program : List Expr} {d : Diagnostic}
    (mem : d ∈ (ofProgram imports program).faults) : d.isStatic := by
  have reports : Reports imports imports fun ds _ => ∀ d ∈ ds, d.isStatic := by
    refine ⟨by simp, fun l f h d mem => ?_, fun t h d mem => ?_⟩
    · obtain mem | mem := List.mem_append.1 mem
      · exact h d mem
      · rw [List.mem_singleton.1 mem]
        rfl
    · exact (List.mem_append.1 mem).elim (h d) (static t d)
  exact (reports.matches_ofProgram program).2.2 d mem

theorem Import.exists_of_mem_faultsBy {fs : FileSystem} {policy : NestedErrors}
    {inside : Path → Place → List Expr → List Diagnostic} {base : Path} {active : List Place}
    {t : Token} {d : Diagnostic} (mem : d ∈ faultsBy fs policy inside base active t) :
    ∃ f, d = .scoping t.location f := by
  simp only [faultsBy] at mem
  repeat' split at mem
  all_goals grind

/-- Whatever is wrong with a file is reported as a fault of the import. -/
theorem Import.exists_of_mem_faults {fs : FileSystem} {policy : NestedErrors} {depth : Nat}
    {base : Path} {active : List Place} {t : Token} {d : Diagnostic}
    (mem : d ∈ faults fs policy depth base active t) : ∃ f, d = .scoping t.location f := by
  cases depth with
  | zero =>
    rw [faults] at mem
    exact exists_of_mem_faultsBy mem
  | succ depth =>
    rw [faults] at mem
    exact exists_of_mem_faultsBy mem

/-- All faults of resolution are faults of texts. -/
theorem isStatic_of_mem_faults {fs : FileSystem} {policy : NestedErrors} {base : Path}
    {program : List Expr} {d : Diagnostic} (mem : d ∈ (resolve fs policy base program).faults) :
    d.isStatic := by
  refine Resolution.isStatic_of_mem_faults (fun t d mem => ?_) mem
  obtain ⟨f, rfl⟩ := Import.exists_of_mem_faults mem
  rfl

/-! ### Either policy -/

theorem Import.faultsBy_contain {fs : FileSystem}
    {inside inside' : Path → Place → List Expr → List Diagnostic} {base : Path}
    {active : List Place} {t : Token} (h : faultsBy fs .propagate inside base active t = []) :
    faultsBy fs .contain inside' base active t = [] := by
  simp only [faultsBy] at h ⊢
  repeat' split at h
  all_goals simp_all

/-- An import without faults under the strict policy has none under the other. -/
theorem Import.faults_contain {fs : FileSystem} {depth : Nat} {base : Path} {active : List Place}
    {t : Token} (h : faults fs .propagate depth base active t = []) :
    faults fs .contain depth base active t = [] := by
  cases depth with
  | zero =>
    rw [faults] at h ⊢
    exact faultsBy_contain h
  | succ depth =>
    rw [faults] at h ⊢
    exact faultsBy_contain h

/-- A program without faults under the strict policy is resolved alike under the other. -/
theorem resolve_contain {fs : FileSystem} {base : Path} {program : List Expr}
    (sound : (resolve fs .propagate base program).faults = []) :
    resolve fs .contain base program = resolve fs .propagate base program := by
  have reports : Resolution.Reports (Import.faults fs .propagate (fs.files.length + 1) base [])
      (Import.faults fs .contain (fs.files.length + 1) base [])
      fun ds ds' => ds = [] → ds' = [] := by
    refine ⟨id, fun l f h none => ?_, fun t h none => ?_⟩
    · simp at none
    · obtain ⟨before, here⟩ := List.append_eq_nil_iff.1 none
      rw [h before, Import.faults_contain here]
      rfl
  have same := reports.matches_ofProgram program
  exact same.eq ((same.2.2 sound).trans sound.symm)

end FoxScript
