import FoxScript.File.Path
import Mathlib.Data.List.DropRight

/-!
# Names in paths

The parts of a path that are not idle are its names. Taking the parent drops the last name, and
joining puts the names of two paths one after another.

## Main statements

* `Path.splitSlashes_intercalate`, `Path.intercalate_splitSlashes`: parts and slashes.
* `Path.names_parent`: the parent of a path that ends in a name.
* `Path.splitSlashes_join`: the parts of a path that is seen from a directory.
-/
namespace FoxScript.Path

/-- The parts of a path that name something, or lead one level up. -/
def names (cs : List Char) : List (List Char) := (splitSlashes cs).filter fun part => !isIdle part

/-! ### Parts -/

theorem splitSlashes_ne_nil (cs : List Char) : splitSlashes cs ≠ [] := by
  fun_cases splitSlashes cs <;> simp

theorem splitSlashes_append (a b : List Char) :
    splitSlashes (a ++ '/' :: b) = splitSlashes a ++ splitSlashes b := by
  fun_induction splitSlashes a with
  | case1 => rfl
  | case2 cs ih => simp [splitSlashes, ih]
  | case3 c cs other part parts split ih =>
    rw [List.cons_append, splitSlashes, ih, split]
    · rfl
    · exact other
  | case4 c cs other split ih => exact absurd split (splitSlashes_ne_nil cs)

theorem splitSlashes_slash (cs : List Char) :
    splitSlashes ('/' :: cs) = [] :: splitSlashes cs := rfl

theorem mem_of_mem_splitSlashes {cs part : List Char} {c : Char} (h : part ∈ splitSlashes cs)
    (hc : c ∈ part) : c ∈ cs ∧ c ≠ '/' := by
  fun_induction splitSlashes cs generalizing part with
  | case1 => simp_all
  | case2 cs ih =>
    rcases List.mem_cons.1 h with rfl | h
    · simp at hc
    · exact ⟨List.mem_cons_of_mem _ (ih h hc).1, (ih h hc).2⟩
  | case3 d cs other first parts split ih =>
    rw [split] at ih
    rcases List.mem_cons.1 h with rfl | h
    · rcases List.mem_cons.1 hc with rfl | hc
      · exact ⟨List.mem_cons_self, other⟩
      · have := ih List.mem_cons_self hc
        exact ⟨List.mem_cons_of_mem _ this.1, this.2⟩
    · have := ih (List.mem_cons_of_mem _ h) hc
      exact ⟨List.mem_cons_of_mem _ this.1, this.2⟩
  | case4 d cs other split ih => exact absurd split (splitSlashes_ne_nil cs)

theorem splitSlashes_of_notMem {cs : List Char} (h : '/' ∉ cs) : splitSlashes cs = [cs] := by
  induction cs with
  | nil => rfl
  | cons c cs ih =>
    simp only [List.mem_cons, not_or] at h
    rw [splitSlashes, ih h.2]
    exact fun eq => h.1 eq.symm

/-- Parts without slashes are the parts of what they make with slashes between them. -/
theorem splitSlashes_intercalate {parts : List (List Char)} (some : parts ≠ [])
    (h : ∀ part ∈ parts, '/' ∉ part) : splitSlashes (['/'].intercalate parts) = parts := by
  induction parts with
  | nil => exact absurd rfl some
  | cons part parts ih =>
    cases parts with
    | nil => simpa [List.intercalate] using splitSlashes_of_notMem (h part (by simp))
    | cons next parts =>
      have step : ['/'].intercalate (part :: next :: parts) =
          part ++ '/' :: ['/'].intercalate (next :: parts) := by
        simp [List.intercalate]
      rw [step, splitSlashes_append, ih (by simp) fun p hp => h p (by simp_all),
        splitSlashes_of_notMem (h part (by simp))]
      rfl

theorem intercalate_splitSlashes (cs : List Char) : ['/'].intercalate (splitSlashes cs) = cs := by
  fun_induction splitSlashes cs with
  | case1 => rfl
  | case2 cs ih =>
    obtain ⟨part, parts, split⟩ := List.exists_cons_of_ne_nil (splitSlashes_ne_nil cs)
    rw [split] at ih ⊢
    simpa [List.intercalate] using ih
  | case3 c cs other part parts split ih =>
    rw [split] at ih
    rw [← ih]
    cases parts <;> simp [List.intercalate]
  | case4 c cs other split ih => exact absurd split (splitSlashes_ne_nil cs)

theorem mem_intercalate {parts : List (List Char)} {c : Char} (h : c ∈ ['/'].intercalate parts) :
    c = '/' ∨ ∃ part ∈ parts, c ∈ part := by
  induction parts with
  | nil => simp [List.intercalate] at h
  | cons part parts ih =>
    cases parts with
    | nil => exact .inr ⟨part, by simp, by simpa [List.intercalate] using h⟩
    | cons next parts =>
      have step : ['/'].intercalate (part :: next :: parts) =
          part ++ '/' :: ['/'].intercalate (next :: parts) := by
        simp [List.intercalate]
      rw [step, List.mem_append, List.mem_cons] at h
      rcases h with h | rfl | h
      · exact .inr ⟨part, by simp, h⟩
      · exact .inl rfl
      · rcases ih h with rfl | ⟨p, hp, hc⟩
        · exact .inl rfl
        · exact .inr ⟨p, List.mem_cons_of_mem _ hp, hc⟩

/-! ### Names -/

theorem names_append (a b : List Char) : names (a ++ '/' :: b) = names a ++ names b := by
  simp [names, splitSlashes_append]

theorem names_slash (cs : List Char) : names ('/' :: cs) = names cs := names_append [] cs

theorem names_dot (cs : List Char) : names ('.' :: '/' :: cs) = names cs := names_append ['.'] cs

theorem names_intercalate {parts : List (List Char)} (h : ∀ part ∈ parts, '/' ∉ part) :
    names (['/'].intercalate parts) = parts.filter fun part => !isIdle part := by
  by_cases some : parts = []
  · subst some
    rfl
  · rw [names, splitSlashes_intercalate some h]

/-- The idle parts at the end of a path do not count. -/
theorem filter_rdropWhile (parts : List (List Char)) :
    (parts.rdropWhile isIdle).filter (fun part => !isIdle part) =
      parts.filter fun part => !isIdle part := by
  induction parts using List.reverseRecOn with
  | nil => rfl
  | append_singleton parts part ih =>
    by_cases idle : isIdle part
    · rw [List.rdropWhile_concat_pos _ _ _ idle, ih]
      simp [idle]
    · rw [List.rdropWhile_concat_neg _ _ _ idle]

/-! ### Parents -/

/-- The parent of a path that ends in a name, told by what stands before its first name. -/
theorem parent_eq {p : Path} {init : List (List Char)} {name : List Char} (named : ¬isIdle name)
    (h : splitSlashes (p.chars.drop (leadLength p.chars)) = init ++ [name]) :
    p.parent =
      ⟨p.chars.take (leadLength p.chars) ++ ['/'].intercalate (init.rdropWhile isIdle)⟩ := by
  simp [parent, h, named, List.rdropWhile]

/-- A path is absolute just if its first part is empty and not the only one. -/
theorem isAbsolute_iff {p : Path} :
    p.isAbsolute ↔ ∃ part parts, splitSlashes p.chars = [] :: part :: parts := by
  obtain ⟨cs⟩ := p
  rw [isAbsolute]
  cases cs with
  | nil => simp [splitSlashes]
  | cons c cs =>
    by_cases slash : c = '/'
    · subst slash
      obtain ⟨part, parts, eq⟩ := List.exists_cons_of_ne_nil (splitSlashes_ne_nil cs)
      simp [splitSlashes, eq]
    · obtain ⟨part, parts, eq⟩ := List.exists_cons_of_ne_nil (splitSlashes_ne_nil cs)
      have split : splitSlashes (c :: cs) = (c :: part) :: parts := by
        rw [splitSlashes, eq]
        exact slash
      simp [split, slash]

theorem lead_cases (cs : List Char) :
    (∃ cs', cs = '/' :: cs') ∨ cs = ['.'] ∨ (∃ cs', cs = '.' :: '/' :: cs') ∨
      (leadLength cs = 0 ∧ cs.head? ≠ some '/') := by
  fun_cases leadLength cs with
  | case1 cs' => exact .inl ⟨cs', rfl⟩
  | case2 => exact .inr (.inl rfl)
  | case3 cs' => exact .inr (.inr (.inl ⟨cs', rfl⟩))
  | case4 cs noSlash =>
    refine .inr (.inr (.inr ⟨rfl, fun slash => ?_⟩))
    cases cs with
    | nil => cases slash
    | cons c cs =>
      obtain rfl : c = '/' := by simpa using slash
      exact noSlash cs rfl

theorem rdropWhile_cons_idle {part : List Char} (idle : isIdle part) (parts : List (List Char)) :
    (part :: parts).rdropWhile isIdle = [] ∧ parts.rdropWhile isIdle = [] ∨
      (part :: parts).rdropWhile isIdle = part :: parts.rdropWhile isIdle ∧
        parts.rdropWhile isIdle ≠ [] := by
  induction parts using List.reverseRecOn with
  | nil => exact .inl ⟨by simp [List.rdropWhile, idle], rfl⟩
  | append_singleton parts last ih =>
    rw [← List.cons_append]
    by_cases idle' : isIdle last
    · rwa [List.rdropWhile_concat_pos _ _ _ idle', List.rdropWhile_concat_pos _ _ _ idle']
    · rw [List.rdropWhile_concat_neg _ _ _ idle', List.rdropWhile_concat_neg _ _ _ idle']
      exact .inr ⟨rfl, by simp⟩

/-- Dropping the last name of a path: the other names stay, the path stays absolute or not, and no
character is new. -/
theorem parent_spec {p : Path} {init : List (List Char)} {name : List Char} (named : ¬isIdle name)
    (h : splitSlashes p.chars = init ++ [name]) :
    names p.parent.chars = init.filter (fun part => !isIdle part) ∧
      p.parent.isAbsolute = p.isAbsolute ∧ ∀ c ∈ p.parent.chars, c ∈ p.chars ∨ c = '/' := by
  obtain ⟨cs⟩ := p
  -- what is left of the parts of a rest of the path
  have kept {cs : List Char} {parts : List (List Char)}
      (split : splitSlashes cs = parts ++ [name]) :
      (∀ part ∈ parts.rdropWhile isIdle, '/' ∉ part) ∧
        ∀ c ∈ ['/'].intercalate (parts.rdropWhile isIdle), c ∈ cs ∨ c = '/' := by
    have part {q : List Char} (hq : q ∈ parts.rdropWhile isIdle) : q ∈ splitSlashes cs :=
      split ▸ List.mem_append_left _ ((List.rdropWhile_prefix _ _).subset hq)
    refine ⟨fun q hq slash => (mem_of_mem_splitSlashes (part hq) slash).2 rfl, fun c hc => ?_⟩
    rcases mem_intercalate hc with rfl | ⟨q, hq, hc⟩
    · exact .inr rfl
    · exact .inl (mem_of_mem_splitSlashes (part hq) hc).1
  have tail {first : List Char} {cs : List Char}
      (split : first :: splitSlashes cs = init ++ [name]) :
      ∃ rest, init = first :: rest ∧ splitSlashes cs = rest ++ [name] := by
    cases init with
    | nil => exact absurd (List.cons.inj split).2 (splitSlashes_ne_nil cs)
    | cons part rest =>
      obtain ⟨rfl, same⟩ := List.cons.inj split
      exact ⟨rest, rfl, same⟩
  rcases lead_cases cs with ⟨cs, rfl⟩ | rfl | ⟨cs, rfl⟩ | ⟨lead, noSlash⟩
  · obtain ⟨rest, rfl, split⟩ := tail h
    obtain ⟨slashFree, chars⟩ := kept split
    have eq : (⟨'/' :: cs⟩ : Path).parent = ⟨'/' :: ['/'].intercalate (rest.rdropWhile isIdle)⟩ :=
      parent_eq named split
    rw [eq]
    refine ⟨?_, rfl, fun c hc => ?_⟩
    · rw [names_slash, names_intercalate slashFree, filter_rdropWhile]
      rfl
    · rcases List.mem_cons.1 hc with rfl | hc
      · exact .inr rfl
      · exact (chars c hc).imp_left (List.mem_cons_of_mem _)
  · have dot : [['.']] = init ++ [name] := h
    cases init with
    | nil =>
      obtain rfl : ['.'] = name := by simpa using dot
      exact absurd rfl named
    | cons part rest => simp at dot
  · obtain ⟨rest, rfl, split⟩ := tail h
    obtain ⟨slashFree, chars⟩ := kept split
    have split' : splitSlashes ('/' :: cs) = ([] :: rest) ++ [name] := by
      rw [splitSlashes_slash, split]
      rfl
    have eq : (⟨'.' :: '/' :: cs⟩ : Path).parent =
        ⟨'.' :: ['/'].intercalate (([] :: rest).rdropWhile isIdle)⟩ := parent_eq named split'
    rw [eq]
    rcases rdropWhile_cons_idle (by decide : isIdle []) rest with ⟨none, none'⟩ | ⟨some, some'⟩
    · rw [none]
      refine ⟨?_, rfl, fun c hc => .inl ?_⟩
      · have := filter_rdropWhile rest
        rw [none'] at this
        exact this
      · rcases List.mem_cons.1 hc with rfl | hc
        · exact List.mem_cons_self
        · simp [List.intercalate] at hc
    · obtain ⟨part, parts, split''⟩ := List.exists_cons_of_ne_nil some'
      have slash : ['/'].intercalate ([] :: rest.rdropWhile isIdle) =
          '/' :: ['/'].intercalate (rest.rdropWhile isIdle) := by
        rw [split'']
        simp [List.intercalate]
      rw [some, slash]
      refine ⟨?_, rfl, fun c hc => ?_⟩
      · rw [names_dot, names_intercalate slashFree, filter_rdropWhile]
        rfl
      · rcases List.mem_cons.1 hc with rfl | hc
        · exact .inl List.mem_cons_self
        · rcases List.mem_cons.1 hc with rfl | hc
          · exact .inr rfl
          · exact (chars c hc).imp_left fun h =>
              List.mem_cons_of_mem _ (List.mem_cons_of_mem _ h)
  · have split : splitSlashes (cs.drop (leadLength cs)) = init ++ [name] := by rwa [lead]
    obtain ⟨slashFree, chars⟩ := kept h
    have eq : (⟨cs⟩ : Path).parent = ⟨['/'].intercalate (init.rdropWhile isIdle)⟩ := by
      rw [parent_eq named split]
      simp [lead]
    have relative : (⟨cs⟩ : Path).isAbsolute = false := by
      simpa [isAbsolute] using noSlash
    rw [eq, relative]
    refine ⟨by rw [names_intercalate slashFree, filter_rdropWhile], ?_, chars⟩
    by_contra absolute
    rw [Bool.not_eq_false] at absolute
    obtain ⟨part, parts, first⟩ := isAbsolute_iff.1 absolute
    have some : init.rdropWhile isIdle ≠ [] := by
      intro none
      rw [none] at first
      cases first
    rw [splitSlashes_intercalate some slashFree] at first
    obtain ⟨suffix, whole⟩ := List.rdropWhile_prefix isIdle init
    rw [first] at whole
    rw [← whole] at h
    have : (⟨cs⟩ : Path).isAbsolute :=
      isAbsolute_iff.2 ⟨part, parts ++ suffix ++ [name], by simpa using h⟩
    rw [relative] at this
    cases this

/-! ### Joining -/

theorem isAbsolute_join {p q : Path} (h : ¬q.isAbsolute) :
    (p.join q).isAbsolute = p.isAbsolute := by
  obtain ⟨cs⟩ := p
  rw [join, if_neg h]
  cases cs with
  | nil => simpa [isAbsolute] using h
  | cons c cs => split <;> rfl

/-- The parts of a path that is seen from a directory: those of the directory, which have its names,
and then those of the path. -/
theorem splitSlashes_join {p q : Path} (h : ¬q.isAbsolute) :
    ∃ parts, splitSlashes (p.join q).chars = parts ++ splitSlashes q.chars ∧
      parts.filter (fun part => !isIdle part) = names p.chars := by
  rw [join, if_neg h]
  split
  · rename_i bare
    rcases (Bool.or_eq_true _ _).mp bare with empty | slash
    · rw [List.isEmpty_iff] at empty
      exact ⟨[], by simp [empty], by rw [empty]; rfl⟩
    · have : p.chars.getLast? = some '/' := by simpa using slash
      obtain ⟨cs, eq⟩ := List.getLast?_eq_some_iff.1 this
      refine ⟨splitSlashes cs, ?_, ?_⟩
      · rw [eq, List.append_assoc, List.singleton_append, splitSlashes_append]
      · rw [eq, names_append]
        exact (List.append_nil _).symm
  · exact ⟨splitSlashes p.chars, splitSlashes_append _ _, rfl⟩

theorem mem_join {p q : Path} (h : ¬q.isAbsolute) {c : Char} (noSlash : c ≠ '/') :
    c ∈ (p.join q).chars ↔ c ∈ p.chars ∨ c ∈ q.chars := by
  rw [join, if_neg h]
  split <;> simp [noSlash]

end FoxScript.Path
