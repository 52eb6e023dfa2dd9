import FoxScript.Unicode.Derived

/-!
# Characters of version 17.0

The other tables are those of version 16.0 of the standard, which patterns follow. What is seen in
quoted text, and what names are made of, follows version 17.0, which assigns more characters.
-/
namespace FoxScript.Unicode

/-- The characters with an image of their own that version 17.0 adds. -/
def recentVisible : String :=
  String.join
    ["2191 1 972 1 127 1 5092 1 2772 1 31799 2 2 1 1 1 28 1 21457 16 445 2 54 7 2929 26 1387 3 ",
     "8 9 3208 1 3 1 1 1 584 44 4 10 20662 25 2 25 286 5 6145 8 1289 22 97 115 16135 3 445 23 ",
     "15 17 6095 31 1 3 1 2 1 7 2 5 9 2 4056 1 158 4 341 9 379 4 50 1 3 1 57 1 4 1 28 1 4 1 ",
     "266 1 47935 6 5986 12 21762 4298"]

/-- The alphabetic characters that version 17.0 adds. -/
def recentAlphabetic : String :=
  String.join
    ["2191 1 972 1 127 1 39665 2 2 1 1 1 28 1 24910 26 1387 3 50 2 3172 8 584 44 20676 25 2 25 ",
     "286 5 6145 8 1289 22 97 115 22733 31 1 22 8 2 53306 6 5986 12 21762 4298"]

/-- The numbers that version 17.0 adds. -/
def recentNumber : String := "73184 10 21002 3"

/-- The characters with an image of their own, and the space. A mark has none, unless it is a
modifier letter too. -/
def visible : CodeSet :=
  let hidden := category "C" ∪ category "Z" ∪ defaultIgnorable ∪ (graphemeExtend \ category "Lm")
  hidden.complement ∪ .single 0x20 ∪ .ofAlternating recentVisible

/-- The characters that names start with, beside the underscore. -/
def nameStart : CodeSet := alphabetic ∪ .ofAlternating recentAlphabetic

/-- The characters that names go on with, beside the underscore and some signs. -/
def nameContinue : CodeSet := nameStart ∪ category "N" ∪ .ofAlternating recentNumber

end FoxScript.Unicode
