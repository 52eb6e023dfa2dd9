import FoxScript.Proofs.Expr.Numbering
import FoxScript.Proofs.Scope.Twin
import FoxScript.Proofs.Value.Store
import FoxScript.Session.Evaluation

/-!
# Sessions that grow

A session never forgets a frame, an accepted program or what is known about a use. Here this is said
of compilation; what evaluation keeps is said together with what it does.

## Main definitions

* `Session.Extends`, `Session.Grows`: what later sessions keep of earlier ones.
* `Session.Reachable`: the sessions that programs run one after the other lead to.

## Main statements

* `Session.compile_ok`, `Session.compile_error`: what compilation does to a session.
-/
namespace FoxScript

/-! ### Hop counts that are added -/

/-- Of hop counts that are added to others, those that are added count. -/
theorem HopTable.getElem?_fold_insert (known added : HopTable) (id : NodeId) :
    (added.fold (fun t id n => t.insert id n) known)[id]? = (added[id]?).or known[id]? := by
  have insertMany (l : List (NodeId × Nat)) (t : HopTable) :
      l.foldl (fun t p => t.insert p.1 p.2) t = t.insertMany l := by
    induction l generalizing t with
    | nil => simp
    | cons p l ih =>
      rw [List.foldl_cons, ih, ← Std.HashMap.insertMany_cons]
  rw [Std.HashMap.fold_eq_foldl_toList, insertMany]
  cases found : added[id]? with
  | some n =>
    rw [Std.HashMap.getElem?_insertMany_list_of_mem (beq_self_eq_true id)
      Std.HashMap.distinct_keys_toList (Std.HashMap.mem_toList_iff_getElem?_eq_some.2 found)]
    rfl
  | none =>
    rw [Std.HashMap.getElem?_insertMany_list_of_contains_eq_false]
    · rfl
    · rw [Std.HashMap.map_fst_toList_eq_keys, Std.HashMap.contains_keys]
      simpa using found

namespace Session

theorem hops_adopt (s : Session) (program : List Expr) (hops : HopTable) (id : NodeId) :
    (s.adopt program hops).hops[id]? = (hops[id]?).or s.hops[id]? :=
  HopTable.getElem?_fold_insert s.hops hops id

theorem hops_adopt_congr {hops hops' : HopTable} (h : ∀ id : NodeId, hops'[id]? = hops[id]?)
    (s : Session) (program program' : List Expr) (id : NodeId) :
    (s.adopt program' hops').hops[id]? = (s.adopt program hops).hops[id]? := by
  rw [hops_adopt, hops_adopt, h]

/-! ### What later sessions keep -/

/-- What the later of two sessions keeps of the earlier: the frames, the programs, and all that is
known about the uses that were numbered. -/
structure Extends (s t : Session) : Prop where
  /-- Frames stay. -/
  store : s.store.Extends t.store
  /-- Numbers are given out once. -/
  fresh : s.fresh ≤ t.fresh
  /-- What is known about the uses with the numbers given out stays. -/
  hops : ∀ id : NodeId, id.index < s.fresh → t.hops[id]? = s.hops[id]?
  /-- Programs stay accepted. -/
  programs : s.programs ⊆ t.programs

/-- What an evaluation keeps of a session: besides what all later sessions keep, the frame and the
directory in which it takes place. -/
structure Grows (s t : Session) : Prop extends s.Extends t where
  /-- The evaluation ends in the frame in which it starts. -/
  frame : t.frame = s.frame
  /-- The evaluation ends in the directory in which it starts. -/
  baseDirectory : t.baseDirectory = s.baseDirectory

theorem Extends.refl (s : Session) : s.Extends s :=
  ⟨.refl _, Nat.le_refl _, fun _ _ => rfl, List.Subset.refl _⟩

theorem Extends.trans {s t u : Session} (h : s.Extends t) (g : t.Extends u) : s.Extends u where
  store := h.store.trans g.store
  fresh := Nat.le_trans h.fresh g.fresh
  hops id hid := (g.hops id (Nat.lt_of_lt_of_le hid h.fresh)).trans (h.hops id hid)
  programs := List.Subset.trans h.programs g.programs

theorem Grows.refl (s : Session) : s.Grows s := ⟨.refl s, rfl, rfl⟩

theorem Grows.trans {s t u : Session} (h : s.Grows t) (g : t.Grows u) : s.Grows u :=
  ⟨h.toExtends.trans g.toExtends, g.frame.trans h.frame,
    g.baseDirectory.trans h.baseDirectory⟩

/-- The frames of a session, the programs and what is known about their uses are those of another,
and no number is given out twice. -/
structure SameScopes (s t : Session) : Prop where
  /-- The frames are the same. -/
  frames : t.store.frames = s.store.frames
  /-- What is known about uses is the same. -/
  hops : t.hops = s.hops
  /-- The programs are the same. -/
  programs : t.programs = s.programs
  /-- Numbers are given out once. -/
  fresh : s.fresh ≤ t.fresh

theorem SameScopes.extends {s t : Session} (h : s.SameScopes t) : s.Extends t where
  store := Store.extends_of_frames_eq h.frames
  fresh := h.fresh
  hops id _ := by rw [h.hops]
  programs := by rw [h.programs]; exact List.Subset.refl _

/-! ### Steps that keep more -/

/-- The session after a name is bound in its frame. -/
def define (s : Session) (name : String) (v : Value) : Session :=
  { s with store := s.store.define s.frame name v }

/-- The session after a name of a frame gets a new value. -/
def replace (s : Session) (f : FrameId) (name : String) (v : Value) : Session :=
  { s with store := s.store.replace f name v }

/-- The session in a new frame inside `parent`. -/
def enter (s : Session) (origin : Origin) (parent : FrameId) : Session :=
  { s with
    store := (s.store.branch origin parent).2
    frame := (s.store.branch origin parent).1 }

theorem grows_define (s : Session) (name : String) (v : Value) : s.Grows (s.define name v) :=
  ⟨⟨s.store.extends_define _ _ _, Nat.le_refl _, fun _ _ => rfl, List.Subset.refl _⟩, rfl, rfl⟩

theorem grows_replace (s : Session) (f : FrameId) (name : String) (v : Value) :
    s.Grows (s.replace f name v) :=
  ⟨⟨s.store.extends_replace _ _ _, Nat.le_refl _, fun _ _ => rfl, List.Subset.refl _⟩, rfl, rfl⟩

theorem extends_enter (s : Session) (origin : Origin) (parent : FrameId) :
    s.Extends (s.enter origin parent) :=
  ⟨s.store.extends_branch _ _, Nat.le_refl _, fun _ _ => rfl, List.Subset.refl _⟩

/-! ### Compilation -/

section

variable {s t : Session} {source : String}

/-- A text that cannot be compiled leaves the session as it is, but for the numbers of its uses. -/
theorem compile_error {ds : List Diagnostic} (h : s.compile source = (.error ds, t)) :
    ∃ n, s.fresh ≤ n ∧ t = { s with fresh := n } := by
  have numbered := (Import.numbered_read s.fresh source).1
  simp only [compile, accept] at h
  split at h
  · split at h
    · cases h
    · exact ⟨_, numbered, (congrArg Prod.snd h).symm⟩
  · exact ⟨_, numbered, (congrArg Prod.snd h).symm⟩

/-- A program that is taken in has no faults. -/
theorem accept_ok {program program' : List Expr} (h : s.accept program = (.ok program', t)) :
    program' = program ∧ (resolve s.files s.policy s.baseDirectory program).faults = [] ∧
      t = s.adopt program (resolve s.files s.policy s.baseDirectory program).hops := by
  simp only [accept] at h
  split at h
  · rename_i sound
    obtain ⟨hp, rfl⟩ := Prod.mk.inj h
    exact ⟨(Except.ok.inj hp).symm, List.isEmpty_iff.1 sound, rfl⟩
  · cases h

/-- A text that can be compiled gives a program whose uses have new numbers and whose scopes have no
faults, and the session takes it in. -/
theorem compile_ok {program : List Expr} (h : s.compile source = (.ok program, t)) :
    ∃ n, s.fresh ≤ n ∧ Grammar.Numbered s.fresh (Expr.idsOf program) n ∧
      (resolve s.files s.policy s.baseDirectory program).faults = [] ∧
      t = { s with fresh := n }.adopt program
        (resolve s.files s.policy s.baseDirectory program).hops := by
  obtain ⟨le, numbered⟩ := Import.numbered_read s.fresh source
  simp only [compile] at h
  split at h
  · obtain ⟨rfl, sound, rfl⟩ := accept_ok h
    exact ⟨_, le, numbered, sound, rfl⟩
  · cases h

/-- A program whose scopes have no faults is taken in. -/
theorem accept_of_faults {program : List Expr}
    (sound : (resolve s.files s.policy s.baseDirectory program).faults = []) :
    s.accept program =
      (.ok program, s.adopt program (resolve s.files s.policy s.baseDirectory program).hops) := by
  rw [accept, sound]
  rfl

/-- A text without faults is compiled if the program that is read is taken in. -/
theorem compile_of_read (sound : (Import.read s.fresh source).faults = []) :
    s.compile source = { s with fresh := (Import.read s.fresh source).fresh }.accept
      (Import.read s.fresh source).exprs := by
  rw [compile, sound]
  rfl

/-- A program whose uses have new numbers leaves all that was known as it is. -/
theorem extends_adopt {n : Nat} (le : s.fresh ≤ n) {program : List Expr}
    (numbered : Grammar.Numbered s.fresh (Expr.idsOf program) n) :
    s.Extends ({ s with fresh := n }.adopt program
      (resolve s.files s.policy s.baseDirectory program).hops) := by
  refine ⟨.refl _, le, fun id hid => ?_, List.subset_cons_self _ _⟩
  have other : id ∉ Expr.idsOf program := fun mem =>
    Nat.not_le_of_lt hid (numbered.2 id mem).1
  rw [hops_adopt, resolve, Resolution.hops_ofProgram_of_not_mem other]
  rfl

/-- Compilation looks at the files, the policy, the directory and the numbers given out only. -/
theorem compile_congr {s' : Session} (fresh : s'.fresh = s.fresh) (files : s'.files = s.files)
    (policy : s'.policy = s.policy) (base : s'.baseDirectory = s.baseDirectory)
    (source : String) : (s'.compile source).1 = (s.compile source).1 ∧
      (s'.compile source).2.fresh = (s.compile source).2.fresh := by
  simp only [compile, accept, fresh, files, policy, base]
  split
  · split <;> exact ⟨rfl, rfl⟩
  · exact ⟨rfl, rfl⟩

/-- Compilation changes what is known about programs only. -/
theorem compile_snd (s : Session) (source : String) : ∃ fresh hops programs,
    (s.compile source).2 = { s with fresh := fresh, hops := hops, programs := programs } := by
  simp only [compile, accept, adopt]
  split
  · split <;> exact ⟨_, _, _, rfl⟩
  · exact ⟨_, _, _, rfl⟩

theorem grows_compile (s : Session) (source : String) : s.Grows (s.compile source).2 := by
  obtain ⟨ds, t, h⟩ | ⟨program, t, h⟩ : (∃ ds t, s.compile source = (.error ds, t)) ∨
      ∃ program t, s.compile source = (.ok program, t) := by
    obtain ⟨ds | program, t⟩ := s.compile source
    · exact .inl ⟨_, _, rfl⟩
    · exact .inr ⟨_, _, rfl⟩
  · obtain ⟨n, le, rfl⟩ := compile_error h
    rw [h]
    exact ⟨SameScopes.extends ⟨rfl, rfl, rfl, le⟩, rfl, rfl⟩
  · obtain ⟨n, le, numbered, -, rfl⟩ := compile_ok h
    rw [h]
    exact ⟨extends_adopt le numbered, rfl, rfl⟩

end

end Session

end FoxScript
