import FoxScript.Proofs.Session.Importing
import FoxScript.Proofs.Session.Restoration

/-!
# Programs in pieces

A program can be divided into two that are run one after the other, as the lines of a prompt are.
The second is resolved when the first has been evaluated, and that makes no difference: nothing that
resolution looks at has changed, and what is known about the uses of the second program is not
looked at before. Only a second program without expressions ends with a value of its own.

## Main definitions

* `Session.perform`, `Session.performBoth`: one program, or two one after the other.
* `Session.SameEnd`: what a run leaves behind.
* `Session.Hides`: one of two sessions knows uses that the other does not know yet.

## Main statements

* `Session.Reachable.in_pieces`: programs that are run in pieces.
-/
namespace FoxScript

/-! ### Evaluations after one another -/

section

variable (eval : Expr → Eval Value)

theorem Eval.last_append (v : Value) (F G : List Expr) :
    last eval v (F ++ G) = last eval v F >>= fun w => last eval w G := by
  induction F generalizing v with
  | nil => rfl
  | cons e F ih =>
    rw [List.cons_append, last, last, bind_assoc]
    exact bind_congr ih

/-- A program that is divided ends like its first part if that has no value, and else like its
second part, which counts unless it is empty. -/
theorem Session.interpretBy_append (s : Session) (F G : List Expr) :
    s.interpretBy eval (F ++ G) =
      match s.interpretBy eval F with
      | (.value v, t) => if G = [] then (.value v, t) else t.interpretBy eval G
      | ended => ended := by
  simp only [interpretBy, Eval.interpret, Eval.confined, Eval.last_append]
  cases first : Eval.last eval .null F s with
  | error e t =>
    rw [Eval.bind_of_error first]
    cases e <;> rfl
  | ok v t =>
    rw [Eval.bind_of_ok first]
    cases G with
    | nil => rfl
    | cons e G => rfl

end

namespace Session

/-! ### One program after another -/

/-- Takes in a program and evaluates it within a budget. -/
def perform (s : Session) (n : Nat) (program : List Expr) : Outcome × Session :=
  match s.accept program with
  | (.error ds, s) => (.failed ds, s)
  | (.ok program, s) => s.interpretBy (Eval.evaluate n) program

/-- Performs two programs one after the other, the second if the first has a value. -/
def performBoth (s : Session) (n : Nat) (F G : List Expr) : Outcome × Session :=
  match s.perform n F with
  | (.value _, s) => s.perform n G
  | ended => ended

variable {s t u : Session} {n : Nat} {F G program : List Expr}

/-- To run a text is to perform the program that is read. -/
theorem run_eq_perform {source : String} (read : (Import.read s.fresh source).faults = []) :
    s.run source = { s with fresh := (Import.read s.fresh source).fresh }.perform Eval.budget
      (Import.read s.fresh source).exprs := by
  rw [run, compile_of_read read]
  rfl

theorem perform_of_faults
    (sound : (resolve s.files s.policy s.baseDirectory program).faults = []) :
    s.perform n program =
      (s.adopt program (resolve s.files s.policy s.baseDirectory program).hops).interpretBy
        (Eval.evaluate n) program := by
  rw [perform, accept_of_faults sound]

/-- What a run leaves behind. -/
structure SameEnd (s t : Session) : Prop where
  /-- The frames, the arrays, and how many functions were made. -/
  store : t.store = s.store
  /-- The frame in which names are declared. -/
  frame : t.frame = s.frame
  /-- The numbers that were given out. -/
  fresh : t.fresh = s.fresh
  /-- The directory from which imports are seen. -/
  baseDirectory : t.baseDirectory = s.baseDirectory
  /-- The files that are being imported. -/
  importing : t.importing = s.importing
  /-- The policy. -/
  policy : t.policy = s.policy
  /-- What was printed. -/
  output : t.output = s.output
  /-- What can be read. -/
  input : t.input = s.input
  /-- The files. -/
  files : t.files = s.files
  /-- The time. -/
  now : t.now = s.now
  /-- The memory that is found. -/
  memory : t.memory = s.memory

/-- What resolution looks at besides the program is the same after an evaluation. -/
theorem resolve_interpretBy (s : Session) (n : Nat) (program : List Expr) :
    let t := (s.interpretBy (Eval.evaluate n) program).2
    resolve t.files t.policy t.baseDirectory = resolve s.files s.policy s.baseDirectory := by
  have files := (Eval.stable_sameImports.interpretBy s n program).2
  have kept := s.surroundings_interpretBy n program
  simp only [surroundings, Surroundings.mk.injEq] at kept
  intro t
  rw [files, kept.2.1, kept.2.2.2]

/-! ### Uses that are not known yet -/

/-- Of two sessions the second knows the uses `hidden` besides those that the first knows. -/
structure Hides (hidden : List NodeId) (s s' : Session) : Prop where
  /-- Of the other uses the same is known. -/
  hops : ∀ id ∉ hidden, s'.hops[id]? = s.hops[id]?
  /-- They are not uses of the programs of the first session. -/
  programs : ∀ q ∈ s.programs, ∀ id ∈ Expr.idsOf q.2, id ∉ hidden
  /-- Their numbers are given out. -/
  numbers : ∀ id ∈ hidden, id.index < s.fresh

theorem persists_hides (hidden : List NodeId) : Persists (Hides hidden) where
  congr {s s' t t'} known left right := by
    refine ⟨fun id other => ?_, ?_, fun id mem => ?_⟩
    · rw [left.hops, right.hops]
      exact known.hops id other
    · rw [left.programs]
      exact known.programs
    · exact Nat.lt_of_lt_of_le (known.numbers id mem) left.fresh
  hops known q hq id mem := known.hops id (known.programs q hq id mem)
  adopt table known _ le numbered := by
    refine ⟨fun id other => ?_, fun q hq id mem hid => ?_, fun id mem => ?_⟩
    · rw [hops_adopt, hops_adopt]
      exact congrArg _ (known.hops id other)
    · obtain rfl | hq := List.mem_cons.1 hq
      · exact Nat.not_le_of_lt (known.numbers id hid) (numbered.2 id mem).1
      · exact known.programs q hq id mem hid
    · exact Nat.lt_of_lt_of_le (known.numbers id mem) le

end Session

/-! ### The second program -/

theorem hops_resolve_append (files : FileSystem) (policy : NestedErrors) (base : Path)
    (F G : List Expr) (id : NodeId) :
    (resolve files policy base (F ++ G)).hops[id]? =
      ((resolve files policy base G).hops[id]?).or (resolve files policy base F).hops[id]? :=
  (Resolution.follows_append F G).hops id

theorem faults_resolve_append (files : FileSystem) (policy : NestedErrors) (base : Path)
    (F G : List Expr) :
    (resolve files policy base (F ++ G)).faults =
      (resolve files policy base F).faults ++ (resolve files policy base G).faults :=
  (Resolution.follows_append F G).faults

namespace Session

variable {s t : Session} {n : Nat} {F G : List Expr}

theorem SameEnd.of_tied {known : Session → Session → Prop}
    (tied : (Tie.following known).Tied s t) (frame : t.frame = s.frame) : s.SameEnd t :=
  ⟨Tie.store_eq_of_following tied, frame, tied.fresh, tied.baseDirectory, tied.importing,
    tied.policy, tied.output, tied.input, tied.files, tied.now,
    tied.memory⟩

/-- A program is taken in, or one that goes on after it: then the uses of the rest are known too. -/
theorem tied_adopt_append (tied : Tie.placed.Tied s s) (le : s.fresh ≤ n)
    (numbered : Grammar.Numbered s.fresh (Expr.idsOf (F ++ G)) n)
    (sound : (resolve s.files s.policy s.baseDirectory F).faults = []) :
    (Tie.following (Hides (Expr.idsOf G))).Tied
      ({ s with fresh := n }.adopt F (resolve s.files s.policy s.baseDirectory F).hops)
      ({ s with fresh := n }.adopt (F ++ G)
        (resolve s.files s.policy s.baseDirectory (F ++ G)).hops) := by
  obtain ⟨nodup, bounds⟩ := numbered
  rw [Expr.idsOf_append] at nodup bounds
  obtain ⟨nodupF, -, disjoint⟩ := List.nodup_append.1 nodup
  have first : Grammar.Numbered s.fresh (Expr.idsOf F) n :=
    ⟨nodupF, fun id mem => bounds id (List.mem_append_left _ mem)⟩
  have hidden : Hides (Expr.idsOf G)
      ({ s with fresh := n }.adopt F (resolve s.files s.policy s.baseDirectory F).hops)
      ({ s with fresh := n }.adopt (F ++ G)
        (resolve s.files s.policy s.baseDirectory (F ++ G)).hops) := by
    refine ⟨fun id other => ?_, fun q hq id mem hid => ?_, fun id mem => ?_⟩
    · rw [hops_adopt, hops_adopt, hops_resolve_append]
      rw [resolve, Resolution.hops_ofProgram_of_not_mem other, Option.none_or]
    · obtain rfl | hq := List.mem_cons.1 hq
      · exact disjoint id mem id hid rfl
      · exact Nat.not_le_of_lt ((tied.scoping.2.1.numbered q hq).2 id mem)
          (bounds id (List.mem_append_right _ hid)).1
    · exact (bounds id (List.mem_append_right _ mem)).2
  refine ⟨rfl, fun a => ?_, rfl, rfl, rfl, rfl, rfl, rfl, rfl, rfl, rfl, rfl, rfl,
    tied.scoping.2.1.adopt_numbered le first sound, hidden⟩
  exact (tied.elements a).imp fun _ _ alike =>
    alike.imp fun _ _ stands => stands.of_programs (.refl _) (List.subset_cons_self _ _)

/-- When the rest is taken in too, the same is known on both sides. -/
theorem tied_adopt_rest (tied : (Tie.following (Hides (Expr.idsOf G))).Tied s t)
    (nodup : (Expr.idsOf G).Nodup) (unknown : ∀ id ∈ Expr.idsOf G, s.hops[id]? = none)
    (sound : (resolve s.files s.policy s.baseDirectory G).faults = [])
    (known : ∀ id ∈ Expr.idsOf G,
      t.hops[id]? = (resolve s.files s.policy s.baseDirectory G).hops[id]?) :
    (Tie.following (Hides [])).Tied
      (s.adopt G (resolve s.files s.policy s.baseDirectory G).hops) t := by
  obtain ⟨frames, soundSession, hides⟩ := tied.scoping
  have hidden : Hides [] (s.adopt G (resolve s.files s.policy s.baseDirectory G).hops) t := by
    refine ⟨fun id _ => ?_, by simp, by simp⟩
    rw [hops_adopt]
    by_cases mem : id ∈ Expr.idsOf G
    · rw [known id mem, unknown id mem, Option.or_none]
    · rw [hides.hops id mem, resolve, Resolution.hops_ofProgram_of_not_mem mem, Option.none_or]
  have apart (q : Path × List Expr) (hq : q ∈ s.programs) (id : NodeId)
      (mem : id ∈ Expr.idsOf q.2) : id ∉ Expr.idsOf G := hides.programs q hq id mem
  refine { tied with elements := fun a => ?_, scoping := ⟨frames, ?_, hidden⟩ }
  · exact (tied.elements a).imp fun _ _ alike =>
      alike.imp fun _ _ stands => stands.of_programs (.refl _) (List.subset_cons_self _ _)
  · exact soundSession.adopt (Nat.le_refl _) nodup hides.numbers apart unknown sound

/-- Performing the rest of a program of which all uses are known on the right. -/
theorem perform_rest (tied : (Tie.following (Hides (Expr.idsOf G))).Tied s t)
    (root : s.frame = Store.root) (root' : t.frame = Store.root) (nodup : (Expr.idsOf G).Nodup)
    (unknown : ∀ id ∈ Expr.idsOf G, s.hops[id]? = none)
    (sound : (resolve s.files s.policy s.baseDirectory G).faults = [])
    (known : ∀ id ∈ Expr.idsOf G,
      t.hops[id]? = (resolve s.files s.policy s.baseDirectory G).hops[id]?) (k : Nat) :
    (s.perform k G).2.SameEnd (t.interpretBy (Eval.evaluate k) G).2 ∧
      (∀ id : NodeId,
        (t.interpretBy (Eval.evaluate k) G).2.hops[id]? = (s.perform k G).2.hops[id]?) ∧
      (t.interpretBy (Eval.evaluate k) G).1 = (s.perform k G).1 := by
  obtain ⟨tied', grows, grows', same⟩ := Tie.following_interpretBy (persists_hides _)
    (tied_adopt_rest tied nodup unknown sound known) root root' List.mem_cons_self k
  rw [perform_of_faults sound]
  exact ⟨.of_tied tied' (grows'.frame.trans (root'.trans (grows.frame.trans root).symm)),
    fun id => tied'.scoping.2.2.hops id (List.not_mem_nil), same⟩

/-- What is known of uses with new numbers, once a program was taken in and evaluated, is what was
found out about them when it was taken in. -/
theorem Sound.hops_of_grows (h : s.Sound) {table : HopTable}
    (numbered : Grammar.Numbered s.fresh (Expr.idsOf program) n)
    (grows : ({ s with fresh := n }.adopt F table).Grows t) {id : NodeId}
    (mem : id ∈ Expr.idsOf program) : t.hops[id]? = table[id]? := by
  obtain ⟨low, high⟩ := numbered.2 id mem
  rw [grows.hops id high, hops_adopt, h.unknown id low, Option.or_none]

/-- A program in two pieces leaves behind what the whole program does. Its end is that of the whole
program too, unless the second piece is empty. -/
theorem Reachable.performBoth_spec (h : s.Reachable) (le : s.fresh ≤ n)
    (numbered : Grammar.Numbered s.fresh (Expr.idsOf (F ++ G)) n)
    (soundF : (resolve s.files s.policy s.baseDirectory F).faults = [])
    (soundG : (resolve s.files s.policy s.baseDirectory G).faults = []) (k : Nat) :
    let u := { s with fresh := n }
    let pieces := u.performBoth k F G
    let whole := u.perform k (F ++ G)
    pieces.2.SameEnd whole.2 ∧
      ((∃ v, (u.perform k F).1 = .value v) →
        ∀ id : NodeId, whole.2.hops[id]? = pieces.2.hops[id]?) ∧
      (pieces.1 = whole.1 ∨ G = [] ∧ pieces.1 = .value .null ∧ ∃ v, whole.1 = .value v) := by
  obtain ⟨root, tied⟩ := h.tied
  have start := tied_adopt_append tied le numbered soundF
  obtain ⟨-, nodupG, disjoint⟩ := List.nodup_append.1 (Expr.idsOf_append F G ▸ numbered.1)
  have inG {id : NodeId} (mem : id ∈ Expr.idsOf G) : id ∈ Expr.idsOf (F ++ G) :=
    Expr.idsOf_append F G ▸ List.mem_append_right _ mem
  have soundFG : (resolve s.files s.policy s.baseDirectory (F ++ G)).faults = [] := by
    rw [faults_resolve_append, soundF, soundG]
    rfl
  obtain ⟨tied', grows, grows', same⟩ := Tie.following_interpretBy (persists_hides _) start
    root root List.mem_cons_self k
  have world := resolve_interpretBy ({ s with fresh := n }.adopt F
    (resolve s.files s.policy s.baseDirectory F).hops) k F
  -- resolving the first piece finds out nothing about the uses of the second
  have other (id : NodeId) (mem : id ∈ Expr.idsOf G) :
      (resolve s.files s.policy s.baseDirectory F).hops[id]? = none :=
    Resolution.hops_ofProgram_of_not_mem fun mem' => disjoint id mem' id mem rfl
  simp only [performBoth, perform_of_faults (s := { s with fresh := n }) soundF,
    perform_of_faults (s := { s with fresh := n }) soundFG, interpretBy_append]
  cases left : ({ s with fresh := n }.adopt F
    (resolve s.files s.policy s.baseDirectory F).hops).interpretBy (Eval.evaluate k) F with
  | mk o t =>
  cases right : ({ s with fresh := n }.adopt (F ++ G)
    (resolve s.files s.policy s.baseDirectory (F ++ G)).hops).interpretBy (Eval.evaluate k) F with
  | mk o' t' =>
  rw [left, right] at tied' same
  rw [left] at grows world
  rw [right] at grows'
  obtain rfl : o' = o := same
  cases o' with
  | value v =>
    have world : resolve t.files t.policy t.baseDirectory =
        resolve s.files s.policy s.baseDirectory := world
    have unknown (id : NodeId) (mem : id ∈ Expr.idsOf G) : t.hops[id]? = none := by
      rw [h.sound.hops_of_grows numbered grows (inG mem), other id mem]
    have known (id : NodeId) (mem : id ∈ Expr.idsOf G) :
        t'.hops[id]? = (resolve t.files t.policy t.baseDirectory G).hops[id]? := by
      rw [h.sound.hops_of_grows numbered grows' (inG mem), hops_resolve_append, other id mem,
        Option.or_none, world]
    obtain ⟨after, hops, same⟩ := perform_rest tied' (grows.frame.trans root)
      (grows'.frame.trans root) nodupG unknown (world ▸ soundG) known k
    by_cases empty : G = []
    · subst empty
      exact ⟨after, fun _ => hops, .inr ⟨rfl, same.symm, v, rfl⟩⟩
    · simp only [if_neg empty]
      exact ⟨after, fun _ => hops, .inl same.symm⟩
  | _ =>
    refine ⟨.of_tied tied' (grows'.frame.trans grows.frame.symm), ?_, .inl rfl⟩
    rintro ⟨v, other⟩
    cases other

/-- A program that is run in two pieces. Resolving it reports the faults of the first piece and then
those of the second, and finds out about each use what resolving its own piece finds out, whatever
faults there are. If there are none, performing one piece after the other leaves behind the store
and all else that performing the whole program does, and ends like that: with the failure of the
first piece if it has one, and else with the value or the failure of the second, which has no value
if it is empty. -/
theorem in_pieces (F G : List Expr) :
    (∀ files policy base,
      let resolved := resolve files policy base
      (resolved (F ++ G)).faults = (resolved F).faults ++ (resolved G).faults ∧
      ((∀ id ∈ Expr.idsOf F, id ∉ Expr.idsOf G) →
        (∀ id ∈ Expr.idsOf F, (resolved (F ++ G)).hops[id]? = (resolved F).hops[id]?) ∧
        ∀ id ∈ Expr.idsOf G, (resolved (F ++ G)).hops[id]? = (resolved G).hops[id]?)) ∧
    ∀ s : Session, s.Reachable → ∀ n k, s.fresh ≤ n →
      Grammar.Numbered s.fresh (Expr.idsOf (F ++ G)) n →
      (resolve s.files s.policy s.baseDirectory F).faults = [] →
      (resolve s.files s.policy s.baseDirectory G).faults = [] →
      let u := { s with fresh := n }
      let pieces := u.performBoth k F G
      let whole := u.perform k (F ++ G)
      pieces.2.SameEnd whole.2 ∧
        ((∃ v, (u.perform k F).1 = .value v) →
          ∀ id : NodeId, whole.2.hops[id]? = pieces.2.hops[id]?) ∧
        (pieces.1 = whole.1 ∨ G = [] ∧ pieces.1 = .value .null ∧ ∃ v, whole.1 = .value v) := by
  refine ⟨fun files policy base => ⟨faults_resolve_append .., fun apart => ⟨fun id mem => ?_,
    fun id mem => ?_⟩⟩, fun s reachable n k le numbered soundF soundG =>
      reachable.performBoth_spec le numbered soundF soundG k⟩
  · have other : (resolve files policy base G).hops[id]? = none :=
      Resolution.hops_ofProgram_of_not_mem (apart id mem)
    rw [hops_resolve_append, other, Option.none_or]
  · have other : (resolve files policy base F).hops[id]? = none :=
      Resolution.hops_ofProgram_of_not_mem fun mem' => apart id mem' mem
    rw [hops_resolve_append, other, Option.or_none]

/-- After an empty second piece there is no value, while the whole program has that of the first. -/
theorem in_pieces_of_nothing :
    let s := new .empty .current .propagate (.ofBytes []) 0
    let F := [Expr.literal (.number 1)]
    s.Reachable ∧ (resolve s.files s.policy s.baseDirectory F).faults = [] ∧
      (resolve s.files s.policy s.baseDirectory []).faults = [] ∧
      (s.performBoth 1 F []).1 = .value .null ∧
      (s.perform 1 (F ++ [])).1 = .value (.number 1) ∧
      (s.performBoth 1 F []).1 ≠ (s.perform 1 (F ++ [])).1 := by
  refine ⟨.new _ _ _ _ _, rfl, rfl, rfl, rfl, ?_⟩
  rintro ⟨⟩

/-- A function is made in one piece and called in the next. -/
theorem in_pieces_of_a_function :
    let x : Token := ⟨.identifier, "x", none, ⟨1, 1⟩⟩
    let f : Token := ⟨.identifier, "f", none, ⟨1, 1⟩⟩
    let s := new .empty .current .propagate (.ofBytes []) 0
    let F := [Expr.function (some f) [x] (.variable ⟨0⟩ x)]
    let G := [Expr.call (.variable ⟨1⟩ f) [.literal (.bool true)] x]
    let u := { s with fresh := 2 }
    let pieces := u.performBoth 3 F G
    let whole := u.perform 3 (F ++ G)
    s.Reachable ∧ Grammar.Numbered s.fresh (Expr.idsOf (F ++ G)) 2 ∧
      (resolve s.files s.policy s.baseDirectory F).faults = [] ∧
      (resolve s.files s.policy s.baseDirectory G).faults = [] ∧
      pieces.2.SameEnd whole.2 ∧ pieces.1 = whole.1 := by
  intro x f s F G u pieces whole
  have reachable : s.Reachable := .new _ _ _ _ _
  have numbered : Grammar.Numbered s.fresh (Expr.idsOf (F ++ G)) 2 := by
    constructor <;> decide
  obtain ⟨same, -, ends⟩ :=
    (in_pieces F G).2 s reachable 2 3 (Nat.zero_le 2) numbered rfl rfl
  refine ⟨reachable, numbered, rfl, rfl, same, ends.resolve_right ?_⟩
  rintro ⟨empty, -⟩
  exact List.cons_ne_nil _ _ empty

end Session

end FoxScript
