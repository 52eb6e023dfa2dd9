/-!
# Sets of code points

A set is kept as its ranges in increasing order, no two of which touch. Tables of ranges are read
here too. Between U+D7FF and U+E000 lie the surrogates, which are no characters.
-/
namespace FoxScript.Unicode

/-- The code points from `low` to `high`, both included. -/
structure Range where
  /-- The least code point. -/
  low : Nat
  /-- The greatest code point. -/
  high : Nat
  deriving DecidableEq, Repr

/-- The range between two code points, which come in any order. -/
def Range.between (a b : Nat) : Range := ⟨min a b, max a b⟩

/-- The greatest code point. -/
def lastCode : Nat := 0x10FFFF

/-- The character after a character. -/
def after (n : Nat) : Nat := if n = 0xD7FF then 0xE000 else n + 1

/-- The character before a character. -/
def before (n : Nat) : Nat := if n = 0xE000 then 0xD7FF else n - 1

/-- A set of code points. -/
structure CodeSet where
  /-- The ranges in increasing order, with a gap between any two. -/
  ranges : Array Range
  deriving DecidableEq, Repr

namespace CodeSet

/-- The set without members. -/
def empty : CodeSet := ⟨#[]⟩

instance : EmptyCollection CodeSet := ⟨empty⟩

/-- The code points from `low` to `high`. -/
def range (low high : Nat) : CodeSet := if low ≤ high then ⟨#[⟨low, high⟩]⟩ else ∅

/-- The set of one code point. -/
def single (n : Nat) : CodeSet := ⟨#[⟨n, n⟩]⟩

/-- Every code point. -/
def all : CodeSet := range 0 lastCode

/-- The member of a set that has only one. -/
def single? (s : CodeSet) : Option Nat :=
  match s.ranges.toList with
  | [r] => if r.low = r.high then some r.low else none
  | _ => none

/-- Joins a range to the ranges before it, of which the last has no greater start. -/
def pushRange (rs : Array Range) (r : Range) : Array Range :=
  match rs.back? with
  | some last =>
    if r.low ≤ last.high + 1 then rs.pop.push ⟨last.low, max last.high r.high⟩ else rs.push r
  | none => rs.push r

/-- The union of any ranges. -/
def ofRanges (rs : List Range) : CodeSet :=
  ⟨(rs.mergeSort fun a b => decide (a.low ≤ b.low)).foldl pushRange #[]⟩

/-- The code points of ranges that are given by their ends. -/
def ofPairs (ps : List (Nat × Nat)) : CodeSet := ofRanges (ps.map fun (a, b) => ⟨a, b⟩)

/-- The union of two sets. -/
def union (s t : CodeSet) : CodeSet := ofRanges (s.ranges.toList ++ t.ranges.toList)

instance : Union CodeSet := ⟨union⟩

/-- The ranges that lie after `r` and between the ranges of a list, up to the last character. Where
`r` and the next range meet across the surrogates, the two characters there bound a gap all the
same. -/
def gaps (r : Range) : List Range → List Range
  | [] => if r.high < lastCode then [.between (after r.high) lastCode] else []
  | s :: rs => .between (after r.high) (before s.low) :: gaps s rs

/-- The code points outside the set. -/
def complement (s : CodeSet) : CodeSet :=
  match s.ranges.toList with
  | [] => all
  | r :: rs =>
    ⟨((if 0 < r.low then [Range.between 0 (before r.low)] else []) ++ gaps r rs).toArray⟩

/-- The common parts of two lists of ranges. -/
def interRanges : List Range → List Range → List Range
  | a :: as, b :: bs =>
    let common : List Range :=
      if max a.low b.low ≤ min a.high b.high then [⟨max a.low b.low, min a.high b.high⟩] else []
    common ++ (if a.high < b.high then interRanges as (b :: bs) else interRanges (a :: as) bs)
  | _, _ => []
termination_by as bs => as.length + bs.length

/-- The code points of both sets. -/
def inter (s t : CodeSet) : CodeSet := ⟨(interRanges s.ranges.toList t.ranges.toList).toArray⟩

instance : Inter CodeSet := ⟨inter⟩

/-- What is left of a list of ranges without the ranges of another one. -/
def diffRanges : List Range → List Range → List Range
  | a :: as, b :: bs =>
    if a.high < b.low then a :: diffRanges as (b :: bs)
    else if b.high < a.low then diffRanges (a :: as) bs
    else
      (if a.low < b.low then [⟨a.low, before b.low⟩] else []) ++
        (if b.high < a.high then diffRanges (⟨after b.high, a.high⟩ :: as) bs
        else diffRanges as (b :: bs))
  | as, _ => as
termination_by as bs => as.length + bs.length

/-- The code points of `s` that are not in `t`. -/
def diff (s t : CodeSet) : CodeSet := ⟨(diffRanges s.ranges.toList t.ranges.toList).toArray⟩

instance : SDiff CodeSet := ⟨diff⟩

/-- The code points of exactly one of the sets. -/
def symmDiff (s t : CodeSet) : CodeSet := (s ∪ t) \ (s ∩ t)

/-- Looks for `n` among the ranges from `lo` up to but not including `hi`, halving their number. -/
def search (rs : Array Range) (n : Nat) : Nat → Nat → Nat → Bool
  | 0, _, _ => false
  | fuel + 1, lo, hi =>
    let mid := (lo + hi) / 2
    if hi ≤ lo then false
    else
      match rs[mid]? with
      | none => false
      | some r =>
        if n < r.low then search rs n fuel lo mid
        else if r.high < n then search rs n fuel (mid + 1) hi
        else true

/-- Whether the set has the code point `n`. -/
def contains (s : CodeSet) (n : Nat) : Bool := search s.ranges n (s.ranges.size + 1) 0 s.ranges.size

/-- Whether every member is below 128. -/
def isAscii (s : CodeSet) : Bool := s.ranges.all fun r => r.high < 128

end CodeSet

/-! ### Reading tables -/

/-- Reads a table of counts that alternate between absence and presence of a property. -/
def CodeSet.ofAlternating (table : String) : CodeSet :=
  ⟨go 0 ((table.splitOn " ").filterMap String.toNat?) #[]⟩
where
  /-- Continues at the code point `start`. -/
  go (start : Nat) : List Nat → Array Range → Array Range
    | skip :: count :: rest, acc =>
      go (start + skip + count) rest (acc.push ⟨start + skip, start + skip + count - 1⟩)
    | _, acc => acc

/-- Reads a table of counts, each followed by a name, as the ranges that bear each name. -/
def readRuns (table : String) : List (Range × String) :=
  go 0 ((table.splitOn " ").map String.toList)
where
  /-- Continues at the code point `start`. -/
  go (start : Nat) : List (List Char) → List (Range × String)
    | [] => []
    | word :: rest =>
      let count := (String.ofList (word.takeWhile Char.isDigit)).toNat?.getD 0
      (⟨start, start + count - 1⟩, String.ofList (word.dropWhile Char.isDigit)) ::
        go (start + count) rest

/-- The code points of the ranges whose name satisfies `p`. -/
def selectRuns (runs : List (Range × String)) (p : String → Bool) : CodeSet :=
  .ofRanges (runs.filterMap fun (r, name) => if p name then some r else none)

end FoxScript.Unicode
