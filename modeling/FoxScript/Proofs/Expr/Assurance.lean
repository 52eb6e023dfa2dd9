import FoxScript.Proofs.Expr.Schedule

/-!
# Names that are bound for sure

Before an expression is evaluated, others have been evaluated in the same scope and in those around
it, and the names that these have bound for sure are there. Which names these are is told from the
place of the expression in its program.

## Main definitions

* `Assurance`: the names that are bound for sure at a place, scope by scope.
* `Expr.next`: what an expression leads to directly, with the names that are bound for sure there.
* `Expr.Leads`, `Expr.Assured`: what an expression or a program leads to.

## Main statements

* `Expr.Assured.unique`: where uses are numbered apart, the names that are bound for sure at a use
  are determined by the use.
-/
namespace FoxScript

/-- The names that are bound for sure at a place: those of the scopes around it, innermost first. -/
abbrev Assurance := List (List String)

namespace Assurance

/-- More names of the innermost scope. Outside of all scopes nothing is said of names. -/
def add (names : List String) : Assurance → Assurance
  | [] => []
  | scope :: A => (names ++ scope) :: A

/-- The name is bound for sure in the scope that is so many scopes out. -/
def Assures (A : Assurance) (hops : Nat) (x : String) : Prop := x ∈ A[hops]?.getD []

instance (A : Assurance) (hops : Nat) (x : String) : Decidable (A.Assures hops x) :=
  inferInstanceAs (Decidable (_ ∈ _))

end Assurance

namespace Expr

/-! ### What an expression leads to -/

/-- What an expression evaluates in a frame of its own: the members of a block, and the body of a
function when it is called. -/
def inner (A : Assurance) : Expr → List (Assurance × Expr)
  | .block es => (Expr.inOrder [] es).map fun p => (Expr.certainBy p.1 :: A, p.2)
  | .function name params body =>
    [(params.map Token.lexeme :: A.add (name.toList.map Token.lexeme), body)]
  | _ => []

/-- What an expression leads to directly, with the names that are bound for sure there. -/
def next (A : Assurance) (e : Expr) : List (Assurance × Expr) :=
  e.schedule.map (fun p => (A.add (Expr.certainBy p.1), p.2)) ++ e.inner A

/-- An expression leads to another, which is evaluated where the names of the second assurance are
bound for sure if those of the first were. -/
inductive Leads : Assurance → Expr → Assurance → Expr → Prop
  /-- The expression itself. -/
  | here {A : Assurance} {e : Expr} : Leads A e A e
  /-- What is led to by something that the expression leads to directly. -/
  | next {A B C : Assurance} {e d f : Expr} (h : (B, d) ∈ e.next A) (rest : Leads B d C f) :
    Leads A e C f

/-- A program leads to an expression, at a place where certain names are bound for sure. -/
def Assured (program : List Expr) (A : Assurance) (e : Expr) : Prop :=
  ∃ root ∈ program, Leads [] root A e

variable {A B C : Assurance} {d e f : Expr} {program : List Expr}

theorem Leads.trans (h : Leads A e B d) (g : Leads B d C f) : Leads A e C f := by
  induction h with
  | here => exact g
  | next h _ ih => exact .next h (ih g)

theorem Assured.of_mem (h : e ∈ program) : Assured program [] e := ⟨e, h, .here⟩

theorem Assured.next (h : Assured program A e) (g : (B, d) ∈ e.next A) : Assured program B d := by
  obtain ⟨root, hr, h⟩ := h
  exact ⟨root, hr, h.trans (.next g .here)⟩

/-- A part of an expression is evaluated after those before it. -/
theorem Assured.part (h : Assured program A e) {p : List Expr × Expr} (hp : p ∈ e.schedule) :
    Assured program (A.add (Expr.certainBy p.1)) p.2 :=
  h.next (List.mem_append_left _ (List.mem_map_of_mem hp))

/-- A member of a block is evaluated after those before it, in a new scope. -/
theorem Assured.member {es : List Expr} (h : Assured program A (.block es)) {p : List Expr × Expr}
    (hp : p ∈ Expr.inOrder [] es) : Assured program (Expr.certainBy p.1 :: A) p.2 :=
  h.next (List.mem_append_right _ (List.mem_map_of_mem hp))

/-- The body of a function is evaluated in a new scope that binds the parameters. -/
theorem Assured.body {name : Option Token} {params : List Token}
    (h : Assured program A (.function name params e)) :
    Assured program (params.map Token.lexeme :: A.add (name.toList.map Token.lexeme)) e :=
  h.next (List.mem_append_right _ (List.mem_singleton_self _))

/-! ### Uses in what is evaluated next -/

theorem usesOf_eq (es : List Expr) : Expr.usesOf es = es.flatMap Expr.uses := by
  induction es with
  | nil => rfl
  | cons e es ih => simp [ih]

theorem uses_inOrder (before es : List Expr) :
    (Expr.inOrder before es).flatMap (fun p => p.2.uses) = es.flatMap Expr.uses := by
  induction es generalizing before with
  | nil => rfl
  | cons e es ih => simp [Expr.inOrder, ih]

theorem uses_alternatives (c : Expr) : c.alternatives.flatMap Expr.uses = c.uses := by
  fun_induction Expr.alternatives c with
  | case1 left pipe right ihl ihr => simp [ihl, ihr]
  | case2 => rfl
  | case3 e => simp

theorem uses_cases (before : List Expr) (cs : List Case) :
    (Case.inOrder before cs).flatMap (fun p => p.2.uses) = Case.usesOf cs := by
  induction cs generalizing before with
  | nil => rfl
  | cons c cs ih =>
    obtain ⟨arrow, condition, body⟩ := c
    simp [Case.inOrder, uses_inOrder, uses_alternatives, ih]

/-- An expression has the use that it is itself, and then the uses of what it leads to directly. A
condition with alternatives leads to nothing by itself. -/
theorem uses_next_sublist (A : Assurance) (e : Expr) :
    (((e.use? []).map Prod.snd).toList ++ (e.next A).flatMap fun p => p.2.uses).Sublist e.uses := by
  cases e <;>
    simp [Expr.use?, Expr.next, Expr.schedule, Expr.inner, List.flatMap_map, uses_inOrder,
      uses_cases, usesOf_eq]

/-- Where the uses of an expression are numbered apart, so are those of what it leads to directly,
and none has the number of the use that the expression itself is. -/
theorem nodup_next (A : Assurance) {e : Expr} (nodup : e.ids.Nodup) :
    ((e.next A).flatMap fun p => p.2.ids).Nodup ∧
      ∀ u ∈ e.use? [], ∀ p ∈ e.next A, u.2.id ∉ p.2.ids := by
  have sublist := (uses_next_sublist A e).map Use.id
  rw [List.map_append, List.map_flatMap] at sublist
  obtain ⟨-, next, disjoint⟩ := List.nodup_append.1 (nodup.sublist sublist)
  refine ⟨next, fun u hu p hp mem => ?_⟩
  exact disjoint u.2.id (by simp [Option.mem_def.1 hu]) _ (List.mem_flatMap.2 ⟨p, hp, mem⟩) rfl

theorem ids_next_subset {p : Assurance × Expr} (h : p ∈ e.next A) : p.2.ids ⊆ e.ids := by
  intro id hid
  have sublist := (uses_next_sublist A e).map Use.id
  rw [List.map_append, List.map_flatMap] at sublist
  exact sublist.subset (List.mem_append_right _ (List.mem_flatMap.2 ⟨p, h, hid⟩))

theorem Leads.ids_subset (h : Leads A e B d) : d.ids ⊆ e.ids := by
  induction h with
  | here => exact List.Subset.refl _
  | next h _ ih => exact fun id hid => ids_next_subset h (ih hid)

/-! ### Uses have one place -/

/-- Where uses are numbered apart, an expression leads to a use in one way only. -/
theorem Leads.unique {B' : Assurance} {u : Context × Use} (nodup : e.ids.Nodup) (h : Leads A e B d)
    (h' : Leads A e B' d) (hu : d.use? [] = some u) : B = B' := by
  have mem : u.2.id ∈ d.ids := Expr.id_mem_ids hu
  induction h with
  | here =>
    cases h' with
    | here => rfl
    | next hp h' => exact absurd (h'.ids_subset mem) ((nodup_next _ nodup).2 _ hu _ hp)
  | @next A _ _ _ _ _ hp h ih =>
    cases h' with
    | here => exact absurd (h.ids_subset mem) ((nodup_next _ nodup).2 _ hu _ hp)
    | next hp' h' =>
      have next := (nodup_next A nodup).1
      have same := eq_of_nodup_flatMap next hp hp' (h.ids_subset mem) (h'.ids_subset mem)
      obtain ⟨rfl, rfl⟩ := Prod.mk.inj same
      exact ih ((List.nodup_flatMap.1 next).1 _ hp) h' hu mem

theorem Assured.id_mem_idsOf {u : Context × Use} (h : Assured program A e)
    (hu : e.use? [] = some u) : u.2.id ∈ Expr.idsOf program := by
  obtain ⟨root, hr, h⟩ := h
  rw [Expr.idsOf_eq_flatMap []]
  exact List.mem_flatMap.2 ⟨([], root), by simp [Expr.inTurn_nil, hr],
    h.ids_subset (Expr.id_mem_ids hu)⟩

/-- Where the uses of a program are numbered apart, the program leads to a use in one way only. -/
theorem Assured.unique {u : Context × Use} (nodup : (Expr.idsOf program).Nodup)
    (h : Assured program A e) (h' : Assured program B e) (hu : e.use? [] = some u) : A = B := by
  obtain ⟨root, hr, h⟩ := h
  obtain ⟨root', hr', h'⟩ := h'
  have mem : u.2.id ∈ e.ids := Expr.id_mem_ids hu
  rw [Expr.idsOf_eq_flatMap [], Expr.inTurn_nil, List.flatMap_map] at nodup
  obtain rfl := eq_of_nodup_flatMap nodup hr hr' (h.ids_subset mem) (h'.ids_subset mem)
  exact h.unique ((List.nodup_flatMap.1 nodup).1 _ hr) h' hu

end Expr

end FoxScript
