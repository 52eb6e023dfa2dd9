import FoxScript.Proofs.Value.Reach

/-!
# What is written of a value

The text of an array holds the texts of its elements, and an array is elided where it is met inside
itself. So the text of every value ends. What is elided contains itself: an array that does not is
written out wherever it is met, and always in the same way. If nothing in a value contains itself, its
text is the one that a printer writes that looks out for nothing.

## Main definitions

* `Value.Shows`: how a value is written inside some arrays, without a bound.
* `Value.Meets`: what is met inside which arrays when a value is written.
* `Value.Writes`: how a value is written by a printer that does not look out for cycles.

## Main statements

* `Value.shows_renderWithin`: the bound on the text is never met.
* `Value.shows_iff_of_apart`: open arrays to which a value does not lead do not matter for its text.
* `Value.writes_iff`: a printer that looks out for nothing ends where there are no cycles.
* `Value.render_elides_cycles`: what is written of a value.
-/
namespace FoxScript

namespace Value

/-- The text of a value that is no array. -/
def word : Value → String
  | null => "null"
  | bool b => if b then "true" else "false"
  | number x => Number.plain x
  | text t => t
  | function f => f.render
  | array _ => ""

/-- The text of an array whose elements have these texts. -/
def bracketed (ts : List String) : String := "[" ++ ", ".intercalate ts ++ "]"

variable (s : Store)

/-! ### How values are written -/

mutual

/-- So a value is written inside the arrays `active`. -/
inductive Shows : List ArrayId → Value → String → Prop
  /-- What is no array is a word. -/
  | word {active : List ArrayId} {v : Value} (h : v.array? = none) : Shows active v v.word
  /-- An array is elided inside itself. -/
  | elided {active : List ArrayId} {a : ArrayId} (met : a ∈ active) :
    Shows active (.array a) "[...]"
  /-- Elsewhere its elements are written. -/
  | full {active : List ArrayId} {a : ArrayId} {ts : List String} (unmet : a ∉ active)
    (inside : ShowsAll (a :: active) (s.elements a).toList ts) :
    Shows active (.array a) (bracketed ts)

/-- Values are written one after the other. -/
inductive ShowsAll : List ArrayId → List Value → List String → Prop
  /-- There is none left. -/
  | nil {active : List ArrayId} : ShowsAll active [] []
  /-- The first is written, and then the others. -/
  | cons {active : List ArrayId} {v : Value} {vs : List Value} {t : String} {ts : List String}
    (first : Shows active v t) (rest : ShowsAll active vs ts) : ShowsAll active (v :: vs) (t :: ts)

end

mutual

/-- So a value is written if nothing is elided. -/
inductive Writes : Value → String → Prop
  /-- What is no array is a word. -/
  | word {v : Value} (h : v.array? = none) : Writes v v.word
  /-- The elements of an array are written. -/
  | full {a : ArrayId} {ts : List String} (inside : WritesAll (s.elements a).toList ts) :
    Writes (.array a) (bracketed ts)

/-- Values are written one after the other. -/
inductive WritesAll : List Value → List String → Prop
  /-- There is none left. -/
  | nil : WritesAll [] []
  /-- The first is written, and then the others. -/
  | cons {v : Value} {vs : List Value} {t : String} {ts : List String}
    (first : Writes v t) (rest : WritesAll vs ts) : WritesAll (v :: vs) (t :: ts)

end

/-- When a value is written, another is met inside the arrays `active`, the innermost first: the
arrays on the way to it. -/
inductive Meets (v : Value) : List ArrayId → Value → Prop
  /-- First the value itself is met. -/
  | root : Meets v [] v
  /-- The elements of an array are met inside it, unless it is elided. -/
  | inside {active : List ArrayId} {a : ArrayId} {w : Value} (h : Meets v active (.array a))
    (unmet : a ∉ active) (mem : w ∈ s.elements a) : Meets v (a :: active) w

/-- Elements lead from a value to an array. -/
def Leads (v : Value) (b : ArrayId) : Prop :=
  ∃ a, v = .array a ∧ Relation.ReflTransGen s.Links a b

/-- An array lies inside itself. -/
def Cyclic (a : ArrayId) : Prop := Relation.TransGen s.Links a a

variable {s}

/-! ### The bound on texts -/

theorem renderWithin_of_word {v : Value} (h : v.array? = none) (n : Nat) (active : List ArrayId) :
    renderWithin s n active v = v.word := by
  cases v with
  | array => cases h
  | _ => cases n <;> rfl

theorem renderWithin_of_met {a : ArrayId} {active : List ArrayId} (h : a ∈ active) (n : Nat) :
    renderWithin s n active (.array a) = "[...]" := by
  cases n <;> simp [renderWithin, h]

theorem renderWithin_succ {a : ArrayId} {active : List ArrayId} (h : a ∉ active) (n : Nat) :
    renderWithin s (n + 1) active (.array a) =
      bracketed ((s.elements a).toList.map (renderWithin s n (a :: active))) := by
  simp [renderWithin, h, bracketed]

theorem showsAll_map {active : List ArrayId} {vs : List Value} {text : Value → String}
    (h : ∀ v ∈ vs, Shows s active v (text v)) : ShowsAll s active vs (vs.map text) := by
  induction vs with
  | nil => exact .nil
  | cons v vs ih =>
    obtain ⟨first, rest⟩ := List.forall_mem_cons.1 h
    exact .cons first (ih rest)

/-- A text with enough room ends before the bound is met. -/
theorem shows_renderWithin {n : Nat} {active : List ArrayId} (room : Room s.arrayIds n active)
    (v : Value) : Shows s active v (renderWithin s n active v) := by
  induction n generalizing active v with
  | zero =>
    obtain ⟨m, hm⟩ := room.exists_succ
    cases hm
  | succ n ih =>
    by_cases plain : v.array? = none
    · rw [renderWithin_of_word plain]
      exact .word plain
    obtain ⟨a, rfl⟩ : ∃ a, v = .array a := by
      cases v <;> simp_all [array?]
    by_cases met : a ∈ active
    · rw [renderWithin_of_met met]
      exact .elided met
    · rw [renderWithin_succ met]
      refine .full met (showsAll_map fun w mem => ih (room.cons met ?_) w)
      exact Store.mem_arrayIds_of_mem (Array.mem_toList_iff.1 mem)

theorem shows_render (s : Store) (v : Value) : Shows s [] v (v.render s) := by
  have room := Room.nil s.arrayIds
  rw [Store.card_arrayIds] at room
  exact shows_renderWithin room v

/-! ### Each value has one text -/

mutual

theorem Shows.unique {active : List ArrayId} {v : Value} {t t' : String} :
    Shows s active v t → Shows s active v t' → t = t'
  | .word h, h' => by
    cases h' with
    | word => rfl
    | elided | full => cases h
  | .elided met, h' => by
    cases h' with
    | word h' => cases h'
    | elided => rfl
    | full unmet => exact absurd met unmet
  | .full unmet inside, h' => by
    cases h' with
    | word h' => cases h'
    | elided met => exact absurd met unmet
    | full _ inside' => rw [inside.unique inside']

theorem ShowsAll.unique {active : List ArrayId} {vs : List Value} {ts ts' : List String} :
    ShowsAll s active vs ts → ShowsAll s active vs ts' → ts = ts'
  | .nil, .nil => rfl
  | .cons first rest, .cons first' rest' => by rw [first.unique first', rest.unique rest']

end

theorem shows_iff {v : Value} {t : String} : Shows s [] v t ↔ v.render s = t := by
  constructor
  · intro h
    exact (shows_render s v).unique h
  · rintro rfl
    exact shows_render s v

/-! ### Arrays that are open elsewhere -/

/-- All that is open leads to what is met inside it. -/
theorem Meets.leads {v w : Value} {active : List ArrayId} (h : Meets s v active w) {a b : ArrayId}
    (met : b ∈ active) (here : w = .array a) : Relation.TransGen s.Links b a := by
  induction h generalizing a with
  | root => cases met
  | @inside active c w _ _ mem ih =>
    subst here
    rcases List.mem_cons.1 met with rfl | outer
    · exact .single mem
    · exact (ih outer rfl).tail mem

mutual

/-- Arrays to which a value does not lead can be opened or closed around it. -/
theorem Shows.congr {active active' : List ArrayId} {v : Value} {t : String}
    (same : ∀ b, Leads s v b → (b ∈ active ↔ b ∈ active')) : Shows s active v t → Shows s active' v t
  | .word h => .word h
  | .elided met => .elided ((same _ ⟨_, rfl, .refl⟩).1 met)
  | .full (a := a) unmet inside => by
    refine .full (fun met => unmet ((same _ ⟨_, rfl, .refl⟩).2 met)) (inside.congr ?_)
    rintro w mem b ⟨c, rfl, way⟩
    have outer := same b ⟨a, rfl, way.head (Array.mem_toList_iff.1 mem)⟩
    rw [List.mem_cons, List.mem_cons, outer]

theorem ShowsAll.congr {active active' : List ArrayId} {vs : List Value} {ts : List String}
    (same : ∀ v ∈ vs, ∀ b, Leads s v b → (b ∈ active ↔ b ∈ active')) :
    ShowsAll s active vs ts → ShowsAll s active' vs ts
  | .nil => .nil
  | .cons first rest =>
    .cons (first.congr (same _ List.mem_cons_self))
      (rest.congr fun v mem => same v (List.mem_cons_of_mem _ mem))

end

/-- Open arrays to which a value does not lead do not matter for its text. -/
theorem shows_iff_of_apart {active : List ArrayId} {v : Value}
    (apart : ∀ b ∈ active, ¬Leads s v b) {t : String} :
    Shows s active v t ↔ v.render s = t := by
  have same : ∀ b, Leads s v b → (b ∈ active ↔ b ∈ []) := by
    intro b leads
    simp only [List.not_mem_nil, iff_false]
    exact fun met => apart b met leads
  rw [← shows_iff]
  exact ⟨Shows.congr same, Shows.congr fun b leads => (same b leads).symm⟩

/-- An array that does not lie inside itself is written in the same way wherever it is met. -/
theorem Meets.shows_iff {v : Value} {active : List ArrayId} {a : ArrayId}
    (h : Meets s v active (.array a)) (acyclic : ¬Cyclic s a) {t : String} :
    Shows s active (.array a) t ↔ render s (.array a) = t := by
  refine shows_iff_of_apart ?_
  rintro b met ⟨_, ⟨⟩, way⟩
  exact acyclic (Relation.TransGen.trans_right way (h.leads met rfl))

/-! ### Texts in which nothing is elided -/

mutual

theorem Writes.unique {v : Value} {t t' : String} : Writes s v t → Writes s v t' → t = t'
  | .word h, h' => by
    cases h' with
    | word => rfl
    | full => cases h
  | .full inside, h' => by
    cases h' with
    | word h' => cases h'
    | full inside' => rw [inside.unique inside']

theorem WritesAll.unique {vs : List Value} {ts ts' : List String} :
    WritesAll s vs ts → WritesAll s vs ts' → ts = ts'
  | .nil, .nil => rfl
  | .cons first rest, .cons first' rest' => by rw [first.unique first', rest.unique rest']

end

mutual

/-- What is written in full is built up from what it leads to. -/
theorem Writes.accessible {v : Value} {t : String} :
    Writes s v t → ∀ a, v = .array a → Acc (fun b a => s.Links a b) a
  | .word h, a, same => by
    subst same
    cases h
  | .full inside, a, same => by
    cases same
    exact .intro _ fun b link => inside.accessible b (Array.mem_toList_iff.2 link)

theorem WritesAll.accessible {vs : List Value} {ts : List String} :
    WritesAll s vs ts → ∀ a, .array a ∈ vs → Acc (fun b a => s.Links a b) a
  | .nil, a, mem => by cases mem
  | .cons first rest, a, mem => by
    rcases List.mem_cons.1 mem with same | mem
    · exact first.accessible a same.symm
    · exact rest.accessible a mem

end

theorem not_transGen_self {α : Type} {r : α → α → Prop} {a : α} (acc : Acc r a) :
    ¬Relation.TransGen r a a := by
  replace acc := acc.transGen
  induction acc with
  | intro a _ ih =>
    intro around
    exact ih a around around

theorem not_cyclic_of_acc {a b : ArrayId} (acc : Acc (fun b a => s.Links a b) a)
    (way : Relation.ReflTransGen s.Links a b) : ¬Cyclic s b := by
  have below : Acc (fun b a => s.Links a b) b := by
    induction way with
    | refl => exact acc
    | tail _ link ih => exact ih.inv link
  intro cycle
  exact not_transGen_self below (Relation.transGen_swap.2 cycle)

mutual

/-- Where nothing lies inside itself, nothing is elided. -/
theorem Shows.writes {active : List ArrayId} {v : Value} {t : String}
    (apart : ∀ b ∈ active, ¬Leads s v b) (acyclic : ∀ a, Leads s v a → ¬Cyclic s a) :
    Shows s active v t → Writes s v t
  | .word h => .word h
  | .elided met => absurd ⟨_, rfl, .refl⟩ (apart _ met)
  | .full _ inside => by
    refine .full (inside.writes (fun w mem b met => ?_) fun w mem b leads => ?_)
    · rintro ⟨c, rfl, way⟩
      have link := Array.mem_toList_iff.1 mem
      rcases List.mem_cons.1 met with rfl | outer
      · exact acyclic _ ⟨_, rfl, .refl⟩ (Relation.TransGen.head' link way)
      · exact apart b outer ⟨_, rfl, way.head link⟩
    · obtain ⟨c, rfl, way⟩ := leads
      exact acyclic b ⟨_, rfl, way.head (Array.mem_toList_iff.1 mem)⟩

theorem ShowsAll.writes {active : List ArrayId} {vs : List Value} {ts : List String}
    (apart : ∀ v ∈ vs, ∀ b ∈ active, ¬Leads s v b)
    (acyclic : ∀ v ∈ vs, ∀ a, Leads s v a → ¬Cyclic s a) :
    ShowsAll s active vs ts → WritesAll s vs ts
  | .nil => .nil
  | .cons first rest =>
    .cons (first.writes (apart _ List.mem_cons_self) (acyclic _ List.mem_cons_self))
      (rest.writes (fun v mem => apart v (List.mem_cons_of_mem _ mem))
        fun v mem => acyclic v (List.mem_cons_of_mem _ mem))

end

/-- A printer that looks out for nothing ends just where there are no cycles, and then it writes the
same. -/
theorem writes_iff {v : Value} {t : String} :
    Writes s v t ↔ (∀ a, Leads s v a → ¬Cyclic s a) ∧ v.render s = t := by
  have writes (acyclic : ∀ a, Leads s v a → ¬Cyclic s a) : Writes s v (v.render s) :=
    (shows_render s v).writes (by simp) acyclic
  constructor
  · intro h
    have acyclic : ∀ a, Leads s v a → ¬Cyclic s a := by
      rintro b ⟨a, same, way⟩
      exact not_cyclic_of_acc (h.accessible a same) way
    exact ⟨acyclic, (writes acyclic).unique h⟩
  · rintro ⟨acyclic, rfl⟩
    exact writes acyclic

/-- Every value has one text. In it the elements of an array are written in order, and an array is
elided just where it is met inside itself. So what is elided contains itself, and an array that does
not is written out wherever it is met, just as it is written by itself. A printer that elides nothing
ends just if nothing in the value contains itself, and it writes the same text. -/
theorem render_elides_cycles (s : Store) :
    (∀ (v : Value) (t : String), Shows s [] v t ↔ v.render s = t) ∧
    (∀ (v : Value) (active : List ArrayId) (a : ArrayId), Meets s v active (.array a) →
      a ∈ active → Cyclic s a) ∧
    (∀ (v : Value) (active : List ArrayId) (a : ArrayId), Meets s v active (.array a) →
      ¬Cyclic s a → ∀ t, Shows s active (.array a) t ↔ render s (.array a) = t) ∧
    (∀ (v : Value) (t : String),
      Writes s v t ↔ (∀ a, Leads s v a → ¬Cyclic s a) ∧ v.render s = t) :=
  ⟨fun _ _ => shows_iff, fun _ _ _ h met => h.leads met rfl,
    fun _ _ _ h acyclic _ => h.shows_iff acyclic, fun _ _ => writes_iff⟩

/-- An array that contains itself and, twice, one that does not. -/
example : render ⟨#[], #[#[.array ⟨0⟩, .array ⟨1⟩, .array ⟨1⟩], #[.null]], 0⟩ (.array ⟨0⟩) =
    "[[...], [null], [null]]" := by decide +kernel

end Value

end FoxScript
