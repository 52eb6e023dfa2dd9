import FoxScript.Proofs.Session.Discipline

/-!
# Steps under a discipline

The steps that evaluation is made of keep what a lawful discipline says: names are bound, arrays are
made and changed, functions are made, frames are entered and left.

## Main statements

* `Discipline.Lawful.does_define`, `Discipline.Lawful.does_setElement`: changes of the store.
* `Discipline.Lawful.does_closure`, `Discipline.Lawful.does_bindParameters`: functions and calls.
* `Discipline.Lawful.does_inNewFrame`, `Discipline.Lawful.does_inRoot`: steps within steps.
-/
namespace FoxScript

/-! ### Faults of elements -/

theorem Value.isPlain_of_toIndex {s : Store} {v : Value} {f : Fault} (h : v.toIndex s = .error f) :
    f.isPlain := by
  unfold toIndex at h
  split at h
  · split at h <;> cases h
    rfl
  · cases h
    rfl

theorem Value.isPlain_of_toElementIndex {s : Store} {n : Nat} {v : Value} {f : Fault}
    (h : v.toElementIndex s n = .error f) : f.isPlain := by
  rw [toElementIndex] at h
  cases index : v.toIndex s with
  | error g =>
    rw [index] at h
    cases h
    exact isPlain_of_toIndex index
  | ok i =>
    simp only [index, Bind.bind, Except.bind] at h
    split at h <;> cases h
    rfl

theorem Store.isPlain_of_element {s : Store} {a : ArrayId} {v : Value} {f : Fault}
    (h : s.element a v = .error f) : f.isPlain := by
  rw [element] at h
  cases index : v.toElementIndex s (s.elements a).size with
  | error g =>
    rw [index] at h
    cases h
    exact Value.isPlain_of_toElementIndex index
  | ok i => simp [index, Bind.bind, Except.bind, Pure.pure, Except.pure] at h

theorem Store.isPlain_of_slice {s : Store} {a : ArrayId} {v w : Value} {f : Fault}
    (h : s.slice a v w = .error f) : f.isPlain := by
  rw [slice] at h
  cases start : v.toElementIndex s (s.elements a).size with
  | error g =>
    simp only [start] at h
    cases h
    exact Value.isPlain_of_toElementIndex start
  | ok i =>
    cases stop : w.toIndex s with
    | error g =>
      simp only [start, stop] at h
      cases h
      exact Value.isPlain_of_toIndex stop
    | ok j =>
      simp only [start, stop, Bind.bind, Except.bind] at h
      split at h
      · cases h
        rfl
      · split at h <;> cases h
        rfl

theorem Store.isPlain_of_elementPlace {s : Store} {v w : Value} {f : Fault}
    (h : s.elementPlace v w = .error (.fault f)) : f.isPlain := by
  cases v with
  | array a =>
    simp only [elementPlace] at h
    split at h
    · cases h
      rfl
    · split at h
      · cases h
      · split at h <;> cases h
        exact Value.isPlain_of_toElementIndex ‹_›
  | _ =>
    cases h
    rfl

/-- What is found at an index is an element, or null where there is none. -/
theorem Store.mem_of_element {s : Store} {a : ArrayId} {i v : Value} (h : s.element a i = .ok v) :
    v ∈ s.elements a ∨ v = .null := by
  rw [element] at h
  cases index : i.toElementIndex s (s.elements a).size with
  | error g =>
    rw [index] at h
    cases h
  | ok n =>
    simp only [index, Bind.bind, Except.bind, Pure.pure, Except.pure, Except.ok.injEq] at h
    subst h
    cases found : (s.elements a)[n]? with
    | none => exact .inr rfl
    | some w => exact .inl (Array.mem_of_getElem? found)

theorem Store.mem_of_slice {s : Store} {a : ArrayId} {i j : Value} {vs : Array Value}
    (h : s.slice a i j = .ok vs) : ∀ v ∈ vs, v ∈ s.elements a := by
  rw [slice] at h
  cases start : i.toElementIndex s (s.elements a).size with
  | error g =>
    simp only [start] at h
    cases h
  | ok m =>
    cases stop : j.toIndex s with
    | error g =>
      simp only [start, stop] at h
      cases h
    | ok n =>
      simp only [start, stop, Bind.bind, Except.bind] at h
      split at h
      · cases h
      · split at h
        · cases h
        · cases h
          intro v hv
          obtain ⟨k, hk, rfl⟩ := Array.mem_iff_getElem.1 hv
          rw [Array.getElem_extract]
          exact Array.getElem_mem _

namespace Discipline

variable {D : Discipline}

/-- What holds of several values. -/
def AllHold (D : Discipline) (s : Session) (vs : Array Value) : Prop := ∀ v ∈ vs, D.Holds s v

theorem AllHold.empty {s : Session} : D.AllHold s #[] := by simp [AllHold]

namespace Lawful

variable (law : D.Lawful) {s t u : Session} {breaks : Session → Token → Prop}

include law

theorem allHold_mono {vs : Array Value} (h : D.AllHold s vs) (advances : s.Advances t) :
    D.AllHold t vs := fun v hv => (h v hv).mono law advances

/-! ### Changes of the store -/

theorem after_define (tidy : D.Tidy s) {x : String} {v : Value} (sound : D.sound (s.define x v))
    (h : D.Holds (s.define x v) v) : D.After s (s.define x v) := by
  have advances := s.advances_define x v
  refine ⟨⟨sound, ?_, fun f y w hw => ?_, fun a w hw => ?_⟩, advances, rfl⟩
  · exact advances.store.hasFrame tidy.active
  · obtain old | ⟨-, -, rfl⟩ := Store.lookup?_define_eq_some hw
    · exact (tidy.values f y w old).mono law advances
    · exact h
  · exact (tidy.elements a w hw).mono law advances

theorem does_define (tidy : D.Tidy s) {x : String} {v : Value} (sound : D.sound (s.define x v))
    (h : D.Holds (s.define x v) v) :
    D.Does s breaks (fun t _ => t.Binds x) (Eval.define x v) (Eval.define x v) :=
  .value rfl (law.after_define tidy sound h) (Session.binds_define tidy.active x v)

theorem after_replace (tidy : D.Tidy s) {f : FrameId} {x : String} {v : Value} (h : D.Holds s v)
    (sound : D.sound (s.replace f x v)) : D.After s (s.replace f x v) := by
  have advances := s.advances_replace f x v
  refine ⟨⟨sound, ?_, fun g y w hw => ?_, fun a w hw => ?_⟩, advances, rfl⟩
  · exact advances.store.hasFrame tidy.active
  · obtain old | rfl := Store.lookup?_replace_eq_some hw
    · exact (tidy.values g y w old).mono law advances
    · exact h.mono law advances
  · exact (tidy.elements a w hw).mono law advances

/-- A change of the arrays. -/
theorem after_arrays (tidy : D.Tidy s) (store : Store) (frames : store.frames = s.store.frames)
    (elements : ∀ a, ∀ v ∈ store.elements a, D.Holds s v) :
    D.After s { s with store := store } := by
  have same : s.SameScopes { s with store := store } := ⟨frames, rfl, rfl, Nat.le_refl _⟩
  refine ⟨⟨?_, ?_, fun f x v hv => ?_, fun a v hv => ?_⟩, same.advances, rfl⟩
  · exact law.sound_back tidy.sound (.refl s) tidy.sound same rfl
  · exact same.extends.store.hasFrame tidy.active
  · rw [Store.lookup?_of_frames_eq frames] at hv
    exact (tidy.values f x v hv).mono law same.advances
  · exact (elements a v hv).mono law same.advances

theorem does_newArray (tidy : D.Tidy s) {vs : Array Value} (h : D.AllHold s vs) :
    D.Does s breaks D.Holds (Eval.newArray vs) (Eval.newArray vs) := by
  refine .value rfl (law.after_arrays tidy (s.store.newArray vs).2 rfl fun a v hv => ?_)
    (.of_data rfl)
  rw [Store.elements_newArray] at hv
  split at hv
  · exact h v hv
  · exact tidy.elements a v hv

theorem does_setElement (tidy : D.Tidy s) (x : Token) (target index : Value) {v : Value}
    (h : D.Holds s v) :
    D.Does s breaks (fun _ _ => True) (Eval.setElement x target index v)
      (Eval.setElement x target index v) := by
  have place : D.Does s breaks (fun t _ => t = s)
      (Eval.ofElement x (s.store.elementPlace target index))
      (Eval.ofElement x (s.store.elementPlace target index)) := by
    cases found : s.store.elementPlace target index with
    | ok place => exact .pure tidy rfl
    | error e =>
      cases e with
      | fault f => exact .fail law tidy x (Store.isPlain_of_elementPlace found)
      | aliased => exact .throw tidy .crashed
  refine .look (place.bind fun t p _ _ same => ?_)
  subst same
  refine .value rfl (law.after_arrays tidy (t.store.setAt p.1 p.2 v) rfl
    fun b w hw => ?_) trivial
  rw [Store.elements_setAt] at hw
  split at hw
  · rw [Array.set!_eq_setIfInBounds] at hw
    obtain old | rfl := Array.mem_or_eq_of_mem_setIfInBounds hw
    · exact tidy.elements p.1 w old
    · exact h
  · exact tidy.elements b w hw

/-! ### The console -/

theorem does_print (tidy : D.Tidy s) (text : String) :
    D.Does s breaks (fun _ _ => True) (Eval.print text) (Eval.print text) :=
  .value rfl (.of_sameScopes law tidy ⟨rfl, rfl, rfl, Nat.le_refl _⟩ rfl rfl) trivial

theorem does_read (tidy : D.Tidy s) {α : Type} (f : Input → α × Input) :
    D.Does s breaks (fun _ _ => True)
      (modifyGet (m := Eval) fun s => ((f s.input).1, { s with input := (f s.input).2 }))
      (modifyGet (m := Eval) fun s => ((f s.input).1, { s with input := (f s.input).2 })) :=
  .value rfl (.of_sameScopes law tidy ⟨rfl, rfl, rfl, Nat.le_refl _⟩ rfl rfl) trivial

/-! ### Names -/

/-- The frame that a use means. -/
theorem does_ownerOf (tidy : D.Tidy s) (id : NodeId) (x : Token) :
    D.Does s breaks (fun t f => t = s ∧ s.owner id x = .ok f) (Eval.ownerOf id x)
      (Eval.ownerOf id x) := by
  have looked : D.Does s breaks (fun t f => t = s ∧ s.owner id x = .ok f)
      (Eval.ofExcept x (s.owner id x)) (Eval.ofExcept x (s.owner id x)) := by
    refine .ofExcept law tidy x (fun f hf => ⟨rfl, hf⟩) fun f hf => ?_
    rw [Tie.owner_eq_error hf]
    rfl
  exact ⟨looked.ends, looked.same⟩

theorem does_valueOf (tidy : D.Tidy s) (id : NodeId) (x : Token) :
    D.Does s breaks D.Holds (Eval.valueOf id x) (Eval.valueOf id x) := by
  refine (law.does_ownerOf tidy id x).bind fun t f after _ found => ?_
  refine .readStore after.tidy ?_
  rw [Store.valueIn]
  cases held : t.store.lookup? f x.lexeme with
  | none => exact .of_data rfl
  | some v => exact after.tidy.values f x.lexeme v held

/-- A function is made, and bound to its name if it has one. -/
theorem does_closure (tidy : D.Tidy s) {name : Option Token} {params : List Token} {e : Expr}
    (ready : D.ready s (.function name params e))
    (watch : D.watch s (.function name params e)) :
    D.Does s breaks (fun t v => D.Holds t v ∧ t.Settled (.function name params e))
      (Eval.closure name params e) (Eval.closure name params e) := by
  have made : D.Does s breaks (fun t _ => t.frame = s.frame) (Eval.changeStore Store.newFunction)
      (Eval.changeStore Store.newFunction) :=
    .value rfl (law.after_arrays tidy s.store.newFunction.2 rfl tidy.elements) rfl
  refine made.bind fun t id after _ frame => ?_
  -- the function holds where its own name is bound, not before
  have holds {u : Session} (later : s.Advances u) (same : u.frame = s.frame)
      (bound : ∀ x ∈ name, u.Binds x.lexeme) :
      D.Holds u (.function (.closure id name params e t.frame)) := by
    intro _ _ _ _ _ h
    cases h
    rw [frame]
    exact law.makes ready later same bound
  cases name with
  | none =>
    have done := holds after.advances frame nofun
    exact .value rfl (.refl after.tidy) ⟨done, nofun⟩
  | some x =>
    have held (v : Value) : D.Holds (t.define x.lexeme v)
        (.function (.closure id (some x) params e t.frame)) :=
      holds (after.advances.trans (t.advances_define x.lexeme v)) frame fun y hy => by
        obtain rfl := Option.some.inj hy
        exact Session.binds_define after.tidy.active _ v
    refine .get (?_ : D.Does t breaks _ (_ >>= _) (_ >>= _))
    refine (law.does_define after.tidy (law.define _ ready watch rfl after.advances frame
      after.tidy.sound) (held _)).bind fun u _ later _ bound => ?_
    have named : ∀ y ∈ some x, u.Binds y.lexeme := fun y hy => Option.some.inj hy ▸ bound
    refine .pure later.tidy ⟨holds (after.advances.trans later.advances)
      (later.frame.trans frame) named, fun y hy => ?_⟩
    obtain rfl : y = x.lexeme := List.mem_singleton.1 hy
    exact bound

theorem does_bindParameters (params : List Token) {vs : List Value} (tidy : D.Tidy s)
    (h : ∀ v ∈ vs, D.Holds s v) (length : params.length = vs.length)
    (binds : ∀ x ∈ params, ∀ t v, s.Advances t → t.frame = s.frame → D.sound t →
      D.sound (t.define x.lexeme v)) :
    D.Does s breaks (fun t _ => ∀ x ∈ params, t.Binds x.lexeme) (Eval.bindParameters params vs)
      (Eval.bindParameters params vs) := by
  induction params generalizing s vs with
  | nil => exact .pure tidy nofun
  | cons x params ih =>
    cases vs with
    | nil => cases length
    | cons v vs =>
      obtain ⟨hv, hvs⟩ := List.forall_mem_cons.1 h
      have advances := s.advances_define x.lexeme v
      obtain ⟨first, others⟩ := List.forall_mem_cons.1 binds
      have sound := first s v (.refl s) rfl tidy.sound
      refine (law.does_define tidy sound (hv.mono law advances)).bind fun t _ after _ bound => ?_
      have rest := ih after.tidy (fun w hw => (hvs w hw).mono law after.advances)
        (Nat.succ.inj length) fun y hy u w later frame =>
          others y hy u w (after.advances.trans later) (frame.trans after.frame)
      exact rest.imp fun u _ later hb =>
        List.forall_mem_cons.2 ⟨later.binds bound, hb⟩

/-! ### Steps within steps -/

theorem tidy_enter (tidy : D.Tidy s) {origin : Origin} {f : FrameId}
    (opens : D.Opens s f origin) : D.Tidy (s.enter origin f) where
  sound := law.enter tidy.sound opens
  active := s.store.hasFrame_branch origin f
  values g x v hv := by
    have old : s.store.lookup? g x = some v := (s.store.lookup?_branch origin f g x).symm.trans hv
    exact (tidy.values g x v old).mono law (s.advances_enter origin f)
  elements a v hv := (tidy.elements a v hv).mono law (s.advances_enter origin f)

/-- An evaluation that took place in another frame comes back. -/
theorem after_back (tidy : D.Tidy s) (advances : s.Advances u) (after : D.After u t)
    {back : Session} (same : t.SameScopes back) (arrays : back.store.arrays = t.store.arrays)
    (frame : back.frame = s.frame) : D.After s back := by
  have later := advances.trans after.advances
  refine ⟨after.tidy.of_store_eq law same arrays ?_ ?_, later.trans same.advances, frame⟩
  · exact law.sound_back tidy.sound later after.tidy.sound same frame
  · rw [frame]
    exact (later.trans same.advances).store.hasFrame tidy.active

section

variable {act act' : Eval Value}

/-- A step in a new frame. -/
theorem does_inNewFrame (tidy : D.Tidy s) {origin : Origin} {f : FrameId} (ks : List Token)
    (opens : D.Opens s f origin)
    (h : D.Tidy (s.enter origin f) →
      D.Does (s.enter origin f) (fun _ k => k ∈ ks) D.Holds act act') :
    D.Does s (fun _ k => k ∈ ks) D.Holds (Eval.inNewFrame origin f act)
      (Eval.inNewFrame origin f act') := by
  refine (h (law.tidy_enter tidy opens)).elsewhere law (Eval.inNewFrame_eq s act origin f)
    (Eval.inNewFrame_eq s act' origin f) (fun t after => ?_) (fun _ _ => id)
    fun t v later hv => hv.mono law later
  have same : t.SameScopes { t with frame := s.frame } := ⟨rfl, rfl, rfl, Nat.le_refl _⟩
  exact ⟨law.after_back tidy (s.advances_enter origin f) after same rfl rfl, same.advances⟩

end

theorem gives_mono {r : Except (List Diagnostic) Value} (h : D.Gives s r)
    (advances : s.Advances t) : D.Gives t r := by
  cases r with
  | ok v => exact Holds.mono law h advances
  | error ds => exact fun d hd => (h d hd).mono law advances

section

variable {act act' other other' : Eval (Except (List Diagnostic) Value)}

/-- A step that is done in a session with the same scopes, which is changed back at the end. -/
theorem does_apart (tidy : D.Tidy s) (enters : s.SameScopes u) {back : Session → Session}
    (h : D.Does u (fun _ _ => False) D.Gives act act') (eq : other s = Eval.restored back (act u))
    (eq' : other' s = Eval.restored back (act' u)) (same : ∀ t : Session, t.SameScopes (back t))
    (arrays : ∀ t, (back t).store.arrays = t.store.arrays)
    (frame : ∀ t, t.frame = u.frame → (back t).frame = s.frame) :
    D.Does s breaks D.Gives other other' := by
  refine h.elsewhere law eq eq' (fun t after => ⟨?_, (same t).advances⟩) (fun _ _ => False.elim)
    fun t r later hr => law.gives_mono hr later
  exact law.after_back tidy enters.advances after (same t) (arrays t) (frame t after.frame)

/-- A step in the frame of global names. -/
theorem does_inRoot (tidy : D.Tidy s) (sound : D.sound { s with frame := Store.root })
    (h : D.Tidy { s with frame := Store.root } →
      D.Does { s with frame := Store.root } (fun _ _ => False) D.Gives act act') :
    D.Does s breaks D.Gives (Eval.inFrame Store.root act) (Eval.inFrame Store.root act') := by
  have enters : s.SameScopes { s with frame := Store.root } := ⟨rfl, rfl, rfl, Nat.le_refl _⟩
  have root : s.store.HasFrame Store.root := Nat.lt_of_le_of_lt (Nat.zero_le _) tidy.active
  exact law.does_apart tidy enters (h (tidy.of_store_eq law enters rfl sound root))
    (Eval.inFrame_eq act s Store.root) (Eval.inFrame_eq act' s Store.root)
    (fun _ => ⟨rfl, rfl, rfl, Nat.le_refl _⟩) (fun _ => rfl) fun _ _ => rfl

/-- A step with imports seen from elsewhere. -/
theorem does_inDirectory (tidy : D.Tidy s) (base : Path)
    (h : D.After s { s with baseDirectory := base } →
      D.Does { s with baseDirectory := base } (fun _ _ => False) D.Gives act act') :
    D.Does s breaks D.Gives (Eval.inDirectory base act) (Eval.inDirectory base act') := by
  have enters : s.SameScopes { s with baseDirectory := base } := ⟨rfl, rfl, rfl, Nat.le_refl _⟩
  exact law.does_apart tidy enters (h (.of_sameScopes law tidy enters rfl rfl))
    (Eval.inDirectory_eq act s base) (Eval.inDirectory_eq act' s base)
    (fun _ => ⟨rfl, rfl, rfl, Nat.le_refl _⟩) (fun _ => rfl) fun _ frame => frame

/-- A step while a file is being imported. -/
theorem does_whileImporting (tidy : D.Tidy s) (place : Place)
    (h : D.After s { s with importing := place :: s.importing } →
      D.Does { s with importing := place :: s.importing } (fun _ _ => False) D.Gives act act') :
    D.Does s breaks D.Gives (Eval.whileImporting place act) (Eval.whileImporting place act') := by
  have enters : s.SameScopes { s with importing := place :: s.importing } :=
    ⟨rfl, rfl, rfl, Nat.le_refl _⟩
  exact law.does_apart tidy enters (h (.of_sameScopes law tidy enters rfl rfl))
    (Eval.whileImporting_eq act s place) (Eval.whileImporting_eq act' s place)
    (fun _ => ⟨rfl, rfl, rfl, Nat.le_refl _⟩) (fun _ => rfl) fun _ frame => frame

end

end Lawful

end Discipline

end FoxScript
