import FoxScript.File.System
import FoxScript.Proofs.File.Path

/-!
# Places in file systems

A path leads to the same place whether it is seen from the directory of a file or written behind the
path of that directory, as long as the text that results is not too long for the system.

## Main definitions

* `FileSystem.IsProper`: no file stands where a directory stands.
* `FileSystem.leads`: where a path leads from a directory, however long it is.

## Main statements

* `FileSystem.locate_eq_ok_iff`: a file is located just if the path leads there and is not too long.
* `FileSystem.leads_join`: what is written behind the path of a directory is seen from there.
* `FileSystem.leads_parent_join`: the parent of a path to a file stands for the file's directory.
-/
namespace FoxScript.FileSystem

variable {fs : FileSystem} {place P D : Place}

/-- No file stands where a directory stands. -/
def IsProper (fs : FileSystem) : Prop := ∀ P, (fs.file? P).isSome → fs.isDirectory P = false

theorem exists_mem_of_file? (file : (fs.file? P).isSome) : ∃ bytes, (P, bytes) ∈ fs.files := by
  obtain ⟨bytes, found⟩ := Option.isSome_iff_exists.1 file
  obtain ⟨before, after, eq, -⟩ := List.lookup_eq_some_iff.1 found
  exact ⟨bytes, by simp [eq]⟩

theorem isProper_iff : fs.IsProper ↔ ∀ f ∈ fs.files, fs.isDirectory f.1 = false := by
  refine ⟨fun h f hf => h f.1 ?_, fun h P file => ?_⟩
  · rw [file?, List.lookup_isSome_iff]
    exact ⟨f, hf, by simp⟩
  · obtain ⟨bytes, mem⟩ := exists_mem_of_file? file
    exact h _ mem

instance : Decidable fs.IsProper := decidable_of_iff _ isProper_iff.symm

/-- The place to which a path leads from a directory, however long the path is. -/
def leads (fs : FileSystem) (directory : Place) (path : Path) : Except IoFault Place :=
  if path.chars.contains '\x00' then .error nullInName
  else fs.walk (if path.isAbsolute then [] else directory) (Path.splitSlashes path.chars)

/-! ### Directories -/

theorem isDirectory_iff : fs.isDirectory P ↔
    P <+: fs.workingDirectory ∨ ∃ f ∈ fs.files, P <+: f.1 ∧ P.length < f.1.length := by
  simp [isDirectory]

/-- What lies above a directory is a directory. -/
theorem isDirectory_dropLast (h : fs.isDirectory P) : fs.isDirectory P.dropLast := by
  rw [isDirectory_iff] at h ⊢
  rcases h with h | ⟨f, hf, above, longer⟩
  · exact .inl ((List.dropLast_prefix P).trans h)
  · exact .inr ⟨f, hf, (List.dropLast_prefix P).trans above, by simp; omega⟩

/-! ### Walks -/

theorem walk_append (place : Place) (a b : List (List Char)) :
    fs.walk place (a ++ b) = fs.walk place a >>= fun place => fs.walk place b := by
  induction a generalizing place with
  | nil => rfl
  | cons part parts ih =>
    simp only [List.cons_append, walk]
    split
    · rfl
    split
    · exact ih place
    split
    · exact ih place.dropLast
    split
    · rfl
    split
    · exact ih (place ++ [part])
    · rfl

theorem walk_append_of_ok {a b : List (List Char)} (h : fs.walk place a = .ok P) :
    fs.walk place (a ++ b) = fs.walk P b := by
  rw [walk_append, h]
  rfl

/-- Idle parts on the way to a directory can be left out. -/
theorem walk_filter (directory : fs.isDirectory D) (parts : List (List Char)) :
    fs.walk place parts = .ok D ↔
      fs.walk place (parts.filter fun part => !Path.isIdle part) = .ok D := by
  induction parts generalizing place with
  | nil => rfl
  | cons part parts ih =>
    by_cases idle : Path.isIdle part
    · rw [List.filter_cons_of_neg (by simp [idle]), ← ih, walk]
      simp only [idle, if_true]
      split
      · rename_i noDirectory
        refine iff_of_false (by simp) fun h => ?_
        cases parts with
        | nil =>
          cases h
          simp [directory] at noDirectory
        | cons next parts =>
          rw [walk, if_pos noDirectory] at h
          cases h
      · rfl
    · rw [List.filter_cons_of_pos (by simp [idle]), walk, walk]
      split
      · rfl
      dsimp only
      split
      · exact ih
      split
      · rfl
      split
      · exact ih
      · rfl

/-- A walk that ends at a file ends with the name of the file. -/
theorem walk_eq_file (proper : fs.IsProper) (file : (fs.file? P).isSome)
    {parts : List (List Char)} (some : parts ≠ []) (h : fs.walk place parts = .ok P) :
    ∃ init name, parts = init ++ [name] ∧ ¬Path.isIdle name ∧ fs.walk place init = .ok P.dropLast ∧
      fs.isDirectory P.dropLast := by
  rcases parts.eq_nil_or_concat with rfl | ⟨init, name, rfl⟩
  · exact absurd rfl some
  rw [List.concat_eq_append, walk_append] at h
  cases start : fs.walk place init with
  | error cause => simp [start, Bind.bind, Except.bind] at h
  | ok Q =>
    replace h : fs.walk Q [name] = .ok P := by simpa [start, Bind.bind, Except.bind] using h
    have noDirectory := proper P file
    rw [walk] at h
    split at h
    · cases h
    rename_i directory
    replace directory : fs.isDirectory Q := by simpa using directory
    split at h
    · cases h
      rw [directory] at noDirectory
      cases noDirectory
    rename_i named
    split at h
    · cases h
      rw [isDirectory_dropLast directory] at noDirectory
      cases noDirectory
    split at h
    · cases h
    dsimp only at h
    split at h
    · cases h
      refine ⟨init, name, by simp, named, ?_, ?_⟩
      · rw [List.dropLast_concat]
        exact start
      · rwa [List.dropLast_concat]
    · cases h

/-! ### Paths -/

/-- What is written behind the path of a directory is seen from that directory. -/
theorem leads_join {t : Path} (h : fs.leads D t = .ok P) (directory : fs.isDirectory P) (q : Path) :
    fs.leads D (t.join q) = fs.leads P q := by
  by_cases absolute : q.isAbsolute
  · simp [Path.join, leads, absolute]
  rw [leads] at h
  split at h
  · cases h
  rename_i noNull
  obtain ⟨parts, split, names⟩ := Path.splitSlashes_join absolute (p := t)
  have null : '\x00' ∈ (t.join q).chars ↔ '\x00' ∈ q.chars := by
    rw [Path.mem_join absolute (by decide)]
    exact or_iff_right (by simpa using noNull)
  have there : fs.walk (if t.isAbsolute then [] else D) parts = .ok P := by
    rw [walk_filter directory, names, Path.names, ← walk_filter directory]
    exact h
  rw [leads, leads, Path.isAbsolute_join absolute, split, walk_append_of_ok there]
  simp [null, absolute]

/-- The parent of a path to a file leads to the directory of the file. -/
theorem leads_parent (proper : fs.IsProper) {t : Path} (h : fs.leads D t = .ok P)
    (file : (fs.file? P).isSome) :
    fs.leads D t.parent = .ok P.dropLast ∧ fs.isDirectory P.dropLast := by
  rw [leads] at h
  split at h
  · cases h
  rename_i noNull
  obtain ⟨init, name, split, named, walked, directory⟩ :=
    walk_eq_file proper file (Path.splitSlashes_ne_nil _) h
  obtain ⟨names, rooted, chars⟩ := Path.parent_spec named split
  have null : '\x00' ∉ t.parent.chars := by
    intro h
    rcases chars _ h with h | h
    · exact noNull (by simpa using h)
    · exact absurd h (by decide)
  refine ⟨?_, directory⟩
  rw [walk_filter directory, ← names, Path.names, ← walk_filter directory] at walked
  rw [leads, if_neg (by simpa using null), rooted]
  exact walked

/-- The parent of a path to a file stands for the directory of the file: what is seen from there is
what a path that is put behind the parent leads to. -/
theorem leads_parent_join (proper : fs.IsProper) {t : Path} (h : fs.leads D t = .ok P)
    (file : (fs.file? P).isSome) (q : Path) :
    fs.leads D (t.parent.join q) = fs.leads P.dropLast q :=
  leads_join (leads_parent proper h file).1 (leads_parent proper h file).2 q

theorem byteLength_append (a b : List Char) :
    byteLength (a ++ b) = byteLength a + byteLength b := by
  have shift (cs : List Char) (n : Nat) :
      cs.foldl (fun n c => n + c.utf8Size) n = n + cs.foldl (fun n c => n + c.utf8Size) 0 := by
    induction cs generalizing n with
    | nil => rfl
    | cons c cs ih => rw [List.foldl_cons, List.foldl_cons, ih, ih (0 + c.utf8Size)]; omega
  rw [byteLength, List.foldl_append, shift]
  rfl

/-- A file is located just if the path leads to it and is not longer than the system allows. -/
theorem locate_eq_ok_iff (proper : fs.IsProper) (file : (fs.file? P).isSome) {t : Path} :
    fs.locate t = .ok P ↔ fs.leads fs.workingDirectory t = .ok P ∧ byteLength t.chars ≤ 4095 := by
  rw [locate, leads, origin]
  by_cases null : t.chars.contains '\x00'
  · rw [if_pos null, if_pos null]
    simp
  rw [if_neg null, if_neg null]
  by_cases empty : t.chars.isEmpty
  · have : t.chars = [] := List.isEmpty_iff.1 empty
    have relative : t.isAbsolute = false := by simp [Path.isAbsolute, this]
    refine iff_of_false (by simp [empty]) fun h => ?_
    obtain ⟨init, name, split, named, -⟩ := walk_eq_file proper file (Path.splitSlashes_ne_nil _) h.1
    rw [this] at split
    cases init with
    | nil =>
      obtain rfl : [] = name := by simpa [Path.splitSlashes] using split
      exact named rfl
    | cons part rest => simp [Path.splitSlashes] at split
  · rw [if_neg empty]
    by_cases long : byteLength t.chars > 4095
    · rw [if_pos long]
      exact iff_of_false (by simp) fun h => long.not_ge h.2
    · rw [if_neg long]
      exact ⟨fun h => ⟨h, by omega⟩, fun h => h.1⟩

/-! ### Reading -/

theorem readText_of_locate {t : Path} {bytes : List UInt8} (located : fs.locate t = .ok P)
    (file : fs.file? P = some bytes) :
    fs.readText t =
      match Text.Utf8.decode? bytes with
      | some cs => .ok (String.ofList cs)
      | none => .error .notUtf8 := by
  simp only [readText, readBytes, located, Bind.bind, Except.bind, file, Pure.pure, Except.pure]
  cases Text.Utf8.decode? bytes <;> rfl

/-- There is a file at the place, and its bytes are a text. -/
def Readable (fs : FileSystem) (P : Place) : Prop :=
  ∃ bytes cs, fs.file? P = some bytes ∧ Text.Utf8.decode? bytes = some cs

theorem Readable.mem_files (h : fs.Readable P) : P ∈ fs.files.map Prod.fst := by
  obtain ⟨bytes, cs, file, -⟩ := h
  obtain ⟨other, mem⟩ := exists_mem_of_file? (Option.isSome_of_eq_some file)
  exact List.mem_map_of_mem mem

/-- What can be read along one path that leads to a place can be read along all of them. -/
theorem Readable.exists_readText (h : fs.Readable P) {t : Path} (located : fs.locate t = .ok P) :
    ∃ text, fs.readText t = .ok text := by
  obtain ⟨bytes, cs, file, text⟩ := h
  exact ⟨_, by rw [readText_of_locate located file, text]⟩

theorem readable_of_readText {t : Path} {text : String} (located : fs.locate t = .ok P)
    (read : fs.readText t = .ok text) : fs.Readable P := by
  cases file : fs.file? P with
  | none => simp [readText, readBytes, located, Bind.bind, Except.bind, file, throw, throwThe,
      MonadExceptOf.throw] at read
  | some bytes =>
    rw [readText_of_locate located file] at read
    cases text : Text.Utf8.decode? bytes with
    | none => simp [text] at read
    | some cs => exact ⟨bytes, cs, file, text⟩

end FoxScript.FileSystem
