import FoxScript.Unicode.CodeSet

/-!
# Ranges of characters as ranges of bytes

The characters of a range, written in UTF-8, are the members of a few sequences of byte ranges: a
sequence stands for all texts whose bytes lie in its ranges, one after another.
-/
namespace FoxScript.Unicode

/-- The bytes of a character in UTF-8. -/
def utf8Bytes (n : Nat) : List Nat := (String.utf8EncodeChar (Char.ofNat n)).map UInt8.toNat

/-- Where the characters from `low` to `high` are parted if they are not one sequence: the end of
the first part and the start of the second one. They are parted at the surrogates, between
characters of different length, and where a byte would range over less than all its values after a
byte that does not stay the same. -/
def parting? (low high : Nat) : Option (Nat × Nat) :=
  if low < 0xE000 && 0xD7FF < high then some (0xD7FF, 0xE000)
  else
    let last := [0x7F, 0x7FF, 0xFFFF].find? (fun n => low ≤ n && n < high) <|>
      if high ≤ 0x7F then none
      else [64, 4096, 262144].findSome? fun size =>
        if low / size = high / size then none
        else if low % size ≠ 0 then some ((low / size + 1) * size - 1)
        else if high % size ≠ size - 1 then some (high / size * size - 1)
        else none
    last.map fun n => (n, n + 1)

/-- The sequences of byte ranges of the characters from `low` to `high`, in increasing order. -/
def byteSequences (low high : Nat) : List (List (Nat × Nat)) :=
  let whole : List (List (Nat × Nat)) := [(utf8Bytes low).zip (utf8Bytes high)]
  match parting? low high with
  | none => whole
  | some (m, n) =>
    if _h : low ≤ m ∧ m < n ∧ n ≤ high then byteSequences low m ++ byteSequences n high else whole
termination_by high - low

/-- The sequences of byte ranges of the characters of a set, in increasing order. -/
def CodeSet.byteSequences (s : CodeSet) : List (List (Nat × Nat)) :=
  s.ranges.toList.flatMap fun r => Unicode.byteSequences r.low r.high

end FoxScript.Unicode
