import FoxScript.Proofs.Expr.Assurance
import FoxScript.Proofs.Session.Discipline.Evaluation

/-!
# Local names that are bound

Resolution takes a declaration for one as soon as it has walked past it, but an evaluation may have
left it out. What it cannot have left out is told by the assurances of a program, and where the name
of a use is bound for sure, the frame that the use means has it.

## Main definitions

* `Store.Backs`: the frames from a frame on have the names that are bound for sure.
* `Discipline.assured`: wherever an expression is evaluated, this is so.

## Main statements

* `Session.Reachable.bound_of_assured`: a use of a local name that is bound for sure finds it.
* `Session.not_bound_of_a_branch`: a use of a local name may not find it otherwise.
-/
namespace FoxScript

/-! ### Frames that have names -/

/-- The frames from a frame on have the names that are bound for sure in the scopes from the
innermost on. -/
def Store.Backs (s : Store) : FrameId → Assurance → Prop
  | _, [] => True
  | f, scope :: A =>
    s.HasFrame f ∧ (∀ x ∈ scope, (s.lookup? f x).isSome) ∧ ∃ g, s.parent? f = some g ∧ s.Backs g A

/-- Where a name is bound for sure, the frame that lies so far out has it. -/
theorem Store.Backs.lookup {s : Store} {f : FrameId} {A : Assurance} (h : s.Backs f A) {k : Nat}
    {x : String} (sure : A.Assures k x) :
    ∃ g, s.ancestor? f k = some g ∧ (s.lookup? g x).isSome := by
  induction A generalizing f k with
  | nil => cases sure
  | cons scope A ih =>
    obtain ⟨-, names, g, parent, rest⟩ := h
    cases k with
    | zero => exact ⟨f, rfl, names x sure⟩
    | succ k =>
      obtain ⟨a, found, bound⟩ := ih rest sure
      exact ⟨a, by simp [Store.ancestor?, parent, found], bound⟩

namespace Session

variable {s t : Session} {A : Assurance}

theorem Advances.backs (advances : s.Advances t) {f : FrameId} (h : s.store.Backs f A) :
    t.store.Backs f A := by
  induction A generalizing f with
  | nil => trivial
  | cons scope A ih =>
    obtain ⟨hf, names, g, parent, rest⟩ := h
    exact ⟨advances.store.hasFrame hf, fun x hx => advances.names f x (names x hx), g,
      (advances.store.parent f hf).trans parent, ih rest⟩

/-- More names that the frame of the session has. -/
theorem backs_add {names : List String} (h : s.store.Backs s.frame A)
    (bound : ∀ x ∈ names, s.Binds x) : s.store.Backs s.frame (A.add names) := by
  cases A with
  | nil => trivial
  | cons scope A => exact ⟨h.1, List.forall_mem_append.2 ⟨bound, h.2.1⟩, h.2.2⟩

/-- The frame that is entered has the names that were bound in it since. -/
theorem backs_enter {origin : Origin} {f : FrameId} {names : List String}
    (h : s.store.Backs f A) (advances : (s.enter origin f).Advances t)
    (frame : t.frame = (s.enter origin f).frame) (bound : ∀ x ∈ names, t.Binds x) :
    t.store.Backs t.frame (names :: A) := by
  have entered : (s.enter origin f).store.HasFrame (s.enter origin f).frame :=
    s.store.hasFrame_branch origin f
  refine ⟨?_, bound, f, ?_, advances.backs ((s.advances_enter origin f).backs h)⟩
  · rw [frame]
    exact advances.store.hasFrame entered
  · rw [frame]
    exact (advances.store.parent _ entered).trans (s.store.parent?_branch origin f)

end Session

/-! ### The discipline -/

/-- What is evaluated stands at a place of an accepted program, and the frames have the names that
are bound for sure there. -/
def Discipline.assured : Discipline where
  sound _ := True
  closure s c := ∃ q ∈ s.programs, ∃ A, Expr.Assured q.2 (c.params.map Token.lexeme :: A) c.body ∧
    s.store.Backs c.frame A
  ready s e := ∃ q ∈ s.programs, ∃ A, Expr.Assured q.2 A e ∧ s.store.Backs s.frame A
  watch _ _ := True
  raises _ _ := True

theorem Discipline.assured_lawful : Discipline.assured.Lawful where
  closure_mono := by
    rintro s t c ⟨q, hq, A, place, backs⟩ advances
    exact ⟨q, advances.programs hq, A, place, advances.backs backs⟩
  ready_mono := by
    rintro s t e ⟨q, hq, A, place, backs⟩ advances frame
    exact ⟨q, advances.programs hq, A, place, frame ▸ advances.backs backs⟩
  raises_mono _ _ := trivial
  sound_back _ _ _ _ _ := trivial
  define _ _ _ _ _ _ _ := trivial
  params _ _ _ _ _ _ _ := trivial
  assign _ _ _ _ := trivial
  enter _ _ := trivial
  nests _ _ _ _ _ _ _ := trivial
  compile _ _ := trivial
  programs _ _ hq he := ⟨_, hq, [], .of_mem he, trivial⟩
  parts := by
    rintro s e p ⟨q, hq, A, place, backs⟩ hp settled
    exact ⟨q, hq, _, place.part hp, Session.backs_add backs (Session.binds_certainBy settled)⟩
  members := by
    rintro s t es p ⟨q, hq, A, place, backs⟩ advances frame hp settled
    exact ⟨q, advances.programs hq, _, place.member hp,
      Session.backs_enter backs advances frame (Session.binds_certainBy settled)⟩
  makes := by
    rintro s t name params e ⟨q, hq, A, place, backs⟩ advances frame named
    have own : ∀ x ∈ name.toList.map Token.lexeme, t.Binds x := by simpa using named
    exact ⟨q, advances.programs hq, _, place.body,
      frame ▸ Session.backs_add (frame ▸ advances.backs backs) own⟩
  calls := by
    rintro s t c ⟨q, hq, A, place, backs⟩ advances frame params
    have bound : ∀ x ∈ c.params.map Token.lexeme, t.Binds x := by simpa using params
    exact ⟨q, advances.programs hq, _, place, Session.backs_enter backs advances frame bound⟩
  raises_runtime _ _ _ _ := trivial
  raises_static _ _ _ := trivial
  raises_stray _ _ _ _ _ := trivial
  raises_slip _ _ := trivial

namespace Session

variable {s t u : Session} {e : Expr} {id : NodeId} {x : Token}

/-! ### Uses -/

/-- What looks up a name is a use of it. -/
theorem Looks.use? (h : t.Looks e u id x) : ∃ Δ b, e.use? [] = some (Δ, ⟨b, id, x⟩) := by
  cases h with
  | «variable» => exact ⟨_, _, rfl⟩
  | assign => exact ⟨_, _, rfl⟩
  | assignElement => exact ⟨_, _, rfl⟩

/-- A part that has a value has bound its names. -/
theorem after_of_value (tidy : Discipline.assured.Tidy t) (ready : Discipline.assured.ready t e)
    {n : Nat} {v : Value} (h : Eval.evaluate n e t = .ok v u) :
    Discipline.assured.After t u ∧ u.Settled e := by
  have ends := (Discipline.assured_lawful.keeps_evaluate (fun _ _ => trivial) n t e tidy ready).ends
  rw [h] at ends
  cases ends with
  | ok after held => exact ⟨after, held.2⟩

/-- When a use looks its name up, its parts have bound their names. -/
theorem Looks.after (h : t.Looks e u id x) (tidy : Discipline.assured.Tidy t)
    (ready : Discipline.assured.ready t e) : Discipline.assured.After t u ∧ u.Settled e := by
  have law := Discipline.assured_lawful
  have inTurn := Discipline.InTurn.of_ready law ready
  cases h with
  | «variable» => exact ⟨.refl tidy, nofun⟩
  | assign value =>
    have part := inTurn t (.refl tidy) _ List.mem_cons_self (List.forall_mem_nil _)
    obtain ⟨after, settled⟩ := after_of_value tidy part value
    exact ⟨after, settled⟩
  | assignElement hi he =>
    have first := inTurn t (.refl tidy) _ List.mem_cons_self (List.forall_mem_nil _)
    obtain ⟨after, index⟩ := after_of_value tidy first hi
    have second := inTurn _ after _ (List.mem_cons_of_mem _ List.mem_cons_self)
      (List.forall_mem_singleton.2 index)
    obtain ⟨later, value⟩ := after_of_value after.tidy second he
    exact ⟨after.trans later, settled_append rfl (later.settled index) value⟩

/-! ### Runs of a block -/

/-- A text that can be compiled leads to a session in which its program is accepted. -/
theorem Reachable.compiled (h : s.Reachable) {source : String} {program : List Expr}
    (compiled : s.compile source = (.ok program, t)) :
    t.Reachable ∧ (t.baseDirectory, program) ∈ t.programs := by
  have reachable := h.compile source
  rw [compiled] at reachable
  obtain ⟨n, -, -, -, rfl⟩ := compile_ok compiled
  exact ⟨reachable, List.mem_cons_self⟩

theorem exists_compiled {r : String} {P : List Expr → Bool}
    (h : (match (s.compile r).1 with
      | .ok program => P program
      | .error _ => false) = true) : ∃ t program, s.compile r = (.ok program, t) ∧ P program := by
  cases compiled : s.compile r with
  | mk outcome t =>
    rw [compiled] at h
    cases outcome with
    | ok program => exact ⟨t, program, rfl, h⟩
    | error ds => cases h

/-- A run that stops with every alarm where it comes to an expression comes there. -/
theorem visits_of_stops {n : Nat} {program : List Expr}
    (stops : ∀ alarm, ∃ u, Eval.last (Eval.watched (fun t' e' => ¬(t' = t ∧ e' = e)) alarm n) .null
      program s = .error alarm u) : s.Visits n program t e := by
  by_contra unnoticed
  simp only [Visits, not_exists, not_not] at unnoticed
  have same := (unnoticed .crashed).trans (unnoticed .exhausted).symm
  obtain ⟨_, crashed⟩ := stops .crashed
  obtain ⟨_, exhausted⟩ := stops .exhausted
  simp only [interpretBy, Eval.interpret, Eval.confined, crashed, exhausted] at same
  cases same

/-- A run comes to the second member of a block if the first has a value. -/
theorem visits_second {n : Nat} {d : Expr} {es : List Expr} {v : Value}
    (other : Expr.block (d :: e :: es) ≠ e)
    (value : ∀ alarm, Eval.watched (fun t' e' => ¬(t' = t ∧ e' = e)) alarm (n + 1) d
      (s.enter (.block (d :: e :: es)) s.frame) = .ok v t) :
    s.Visits (n + 2) [.block (d :: e :: es)] t e := by
  refine visits_of_stops fun alarm => ?_
  have stops : Eval.watched (fun t' e' => ¬(t' = t ∧ e' = e)) alarm (n + 1) e t = .error alarm t :=
    Eval.watched_of_not_check (fun h => h ⟨rfl, rfl⟩) alarm n
  have members : Eval.last (Eval.watched (fun t' e' => ¬(t' = t ∧ e' = e)) alarm (n + 1)) .null
      (d :: e :: es) (s.enter (.block (d :: e :: es)) s.frame) = .error alarm t :=
    (Eval.bind_of_ok (value alarm)).trans (Eval.bind_of_error stops)
  have opened : Eval.watched (fun t' e' => ¬(t' = t ∧ e' = e)) alarm (n + 2)
      (.block (d :: e :: es)) s = _ :=
    (Eval.watched_of_check (fun h => other h.2) alarm (n + 1)).trans
      (Eval.inNewFrame_eq s _ (.block (d :: e :: es)) s.frame)
  rw [members] at opened
  exact ⟨_, Eval.bind_of_error opened⟩

/-- Of two branches that of a condition that does not hold is left out. -/
theorem watched_ternary_of_false {check : Session → Expr → Prop} {alarm : Exit} {n : Nat}
    {yes : Expr} {op : Token} {c : Literal}
    (passes : check t (.ternary (.literal (.bool false)) yes (.literal c) op))
    (literals : ∀ c, check t (.literal c)) :
    Eval.watched check alarm (n + 2) (.ternary (.literal (.bool false)) yes (.literal c) op) t =
      .ok (.ofLiteral c) t := by
  have literal (c : Literal) :
      Eval.watched check alarm (n + 1) (.literal c) t = .ok (.ofLiteral c) t :=
    Eval.watched_of_check (literals c) alarm n
  exact (Eval.watched_of_check passes alarm (n + 1)).trans
    ((Eval.bind_of_ok (literal _)).trans (literal c))

/-- Whether a program is a block that declares a name and then uses it. -/
def declaresThenUses : List Expr → Bool
  | [.block [.declare x, .variable _ y]] => x.lexeme == y.lexeme
  | _ => false

theorem eq_of_declaresThenUses {program : List Expr} (h : declaresThenUses program) :
    ∃ x id y, program = [.block [.declare x, .variable id y]] ∧ x.lexeme = y.lexeme := by
  unfold declaresThenUses at h
  split at h
  · exact ⟨_, _, _, rfl, beq_iff_eq.1 h⟩
  · cases h

/-- Whether a program is a block that declares a name only where a condition holds that does not,
and then uses it. -/
def skipsThenUses : List Expr → Bool
  | [.block [.ternary (.literal (.bool false)) (.declare x) (.literal .null) _, .variable _ y,
      .literal _]] => x.lexeme == y.lexeme
  | _ => false

theorem eq_of_skipsThenUses {program : List Expr} (h : skipsThenUses program) :
    ∃ x op id y l, program = [.block [.ternary (.literal (.bool false)) (.declare x)
      (.literal .null) op, .variable id y, .literal l]] ∧ x.lexeme = y.lexeme := by
  unfold skipsThenUses at h
  split at h
  · exact ⟨_, _, _, _, _, rfl, beq_iff_eq.1 h⟩
  · cases h

/-- A use in a block, after a member that binds its name, takes the name from the block. -/
theorem Sound.hops_second (h : s.Sound) {d : Path} {c : Expr} {es : List Expr}
    (accepted : (d, [.block (c :: .variable id x :: es)]) ∈ s.programs)
    (bound : (c.bound.lookup x.lexeme).isSome) : s.hops[id]? = some 0 := by
  have site : Site [.block (c :: .variable id x :: es)]
      (Context.enter (.block (c :: .variable id x :: es)) c.bound []) (.variable id x) := by
    refine (Site.of_mem List.mem_cons_self).part ?_
    simp [Expr.parts, Expr.inTurn]
  rw [h.located _ accepted _ _ site _ rfl]
  simp [Resolution.hopsTo?, bound]

/-- Wherever a run evaluates a use of a local name that is bound for sure in the scope from which
resolution took it, the frame that the use means has the name, and the use finds it. -/
theorem Reachable.bound_of_assured (h : s.Reachable) {program : List Expr}
    (accepted : (s.baseDirectory, program) ∈ s.programs) {n : Nat} (visits : s.Visits n program t e)
    (looks : t.Looks e u id x) {k : Nat} (hops : u.hops[id]? = some k) {q : Path × List Expr}
    (hq : q ∈ t.programs) {A : Assurance} (place : Expr.Assured q.2 A e)
    (sure : (A.add e.certain).Assures k x.lexeme) :
    ∃ f, u.store.ancestor? u.frame k = some f ∧ (u.store.lookup? f x.lexeme).isSome ∧
      Eval.ownerOf id x u = .ok f u := by
  have law := Discipline.assured_lawful
  have tidy := law.tidy_of_reachable (fun _ _ => trivial) (fun _ _ _ _ _ => trivial) h
  have runs := law.runs_of_accepted h.tied.1 accepted
  obtain ⟨tidy, ready⟩ := law.ready_of_visits (fun _ _ => trivial) tidy runs visits
  obtain ⟨after, settled⟩ := looks.after tidy ready
  obtain ⟨q', hq', A', place', backs⟩ := ready
  -- the use stands at one place only
  have sound := (h.placed_of_visits accepted visits).1
  obtain ⟨Δ, b, use⟩ := looks.use?
  obtain rfl := sound.apart q hq q' hq' id (place.id_mem_idsOf use) (place'.id_mem_idsOf use)
  obtain rfl := place.unique (sound.numbered q hq).1 place' use
  have backs : u.store.Backs u.frame (A.add e.certain) :=
    backs_add (after.frame ▸ after.advances.backs backs) settled
  obtain ⟨f, ancestor, bound⟩ := backs.lookup sure
  refine ⟨f, ancestor, bound, ?_⟩
  change Eval.ofExcept x (u.owner id x) u = _
  simp only [owner, hops, Store.findAt, ancestor, bound, if_true]
  rfl

/-- A block that uses a name after declaring it. -/
theorem bound_of_assured_after_a_declaration :
    ∃ (s t : Session) (program : List Expr) (id : NodeId) (x : Token) (f : FrameId),
      s.Reachable ∧ (s.baseDirectory, program) ∈ s.programs ∧
      s.Visits 3 program t (.variable id x) ∧ t.hops[id]? = some 0 ∧
      t.store.ancestor? t.frame 0 = some f ∧ (t.store.lookup? f x.lexeme).isSome ∧
      Eval.ownerOf id x t = .ok f t := by
  obtain ⟨s, program, compiled, shape⟩ := exists_compiled
    (s := new .empty .current .propagate (.ofBytes []) 0) (r := "\x7b var(x), x \x7d")
    (P := declaresThenUses) (by decide +kernel)
  obtain ⟨x, id, y, rfl, same⟩ := eq_of_declaresThenUses shape
  obtain ⟨reachable, accepted⟩ := (Reachable.new _ _ _ _ _).compiled compiled
  have hops : s.hops[id]? = some 0 :=
    reachable.sound.hops_second accepted (by simp [Expr.bound, same])
  have visits : s.Visits 3 [.block [.declare x, .variable id y]] _ (.variable id y) :=
    visits_second (v := .null) (by simp) fun alarm => Eval.watched_of_check (by simp) alarm 1
  have place : Expr.Assured [.block [.declare x, .variable id y]] [[x.lexeme]] (.variable id y) :=
    (Expr.Assured.of_mem List.mem_cons_self).member (p := ([.declare x], .variable id y))
      (List.mem_cons_of_mem _ List.mem_cons_self)
  obtain ⟨f, found⟩ := reachable.bound_of_assured accepted visits (.variable id y) hops accepted
    place (by simp [Assurance.Assures, Assurance.add, Expr.certain, same])
  exact ⟨s, _, _, id, y, f, reachable, accepted, visits, hops, found⟩

/-- Passing resolution is not enough for a use of a local name to find it: here the name is declared
in the branch that is not taken. -/
theorem not_bound_of_a_branch :
    ¬∀ (s t u : Session) (program : List Expr) (n : Nat) (e : Expr) (id : NodeId) (x : Token)
      (k : Nat), s.Reachable → (s.baseDirectory, program) ∈ s.programs → s.Visits n program t e →
        t.Looks e u id x → u.hops[id]? = some k → ∃ f, Eval.ownerOf id x u = .ok f u := by
  intro claim
  obtain ⟨s, program, compiled, shape⟩ := exists_compiled
    (s := new .empty .current .propagate (.ofBytes []) 0)
    (r := "\x7b false ? var(x) : null, x, true \x7d") (P := skipsThenUses) (by decide +kernel)
  obtain ⟨x, op, id, y, l, rfl, same⟩ := eq_of_skipsThenUses shape
  obtain ⟨reachable, accepted⟩ := (Reachable.new _ _ _ _ _).compiled compiled
  have hops : s.hops[id]? = some 0 :=
    reachable.sound.hops_second accepted (by simp [Expr.bound, same])
  -- the condition does not hold, so that the declaration is left out
  let members : List Expr := [.ternary (.literal (.bool false)) (.declare x) (.literal .null) op,
    .variable id y, .literal l]
  let t := s.enter (.block members) s.frame
  have visits : s.Visits 4 [.block members] t (.variable id y) :=
    visits_second (by simp) fun alarm => watched_ternary_of_false (by simp) (by simp)
  obtain ⟨f, found⟩ := claim s t t _ _ _ _ _ _ reachable accepted visits (.variable id y) hops
  have missing : t.store.lookup? t.frame y.lexeme = none := by
    have new : s.store.lookup? t.frame y.lexeme = none := by
      by_contra held
      have old : s.store.HasFrame t.frame :=
        Store.hasFrame_of_lookup? (Option.isSome_iff_ne_none.2 held)
      exact Nat.lt_irrefl _ old
    exact (s.store.lookup?_branch (.block members) s.frame t.frame y.lexeme).trans new
  have hops : t.hops[id]? = some 0 := hops
  change Eval.ofExcept y (t.owner id y) t = _ at found
  simp only [owner, hops, Store.findAt, Store.ancestor?, missing] at found
  cases found

end Session

end FoxScript
