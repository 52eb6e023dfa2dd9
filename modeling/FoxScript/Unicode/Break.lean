import FoxScript.Unicode.Derived
import FoxScript.Unicode.Script

/-!
# Classes of text segmentation

What a character contributes to the division of a text into user-perceived characters, words and
sentences.
-/
namespace FoxScript.Unicode

/-! ### User-perceived characters -/

/-- The values of `Grapheme_Cluster_Break` with their further names. -/
def graphemeBreakNames : List (String × List String) :=
  [("CR", []), ("Control", ["CN"]), ("E_Base", ["EB"]), ("E_Base_GAZ", ["EBG"]),
   ("E_Modifier", ["EM"]), ("Extend", ["EX"]), ("Glue_After_Zwj", ["GAZ"]), ("L", []), ("LF", []),
   ("LV", []), ("LVT", []), ("Other", ["XX"]), ("Prepend", ["PP"]), ("Regional_Indicator", ["RI"]),
   ("SpacingMark", ["SM"]), ("T", []), ("V", []), ("ZWJ", [])]

/-- The syllables of Hangul without a final consonant: every twenty-eighth of all. -/
def openSyllable : CodeSet :=
  .ofRanges ((List.range 399).map fun i => ⟨0xAC00 + 28 * i, 0xAC00 + 28 * i⟩)

/-- The signs that belong to the character after them although no joining mark says so. -/
def prependedLetter : CodeSet :=
  .ofPairs [(0xD4E, 0xD4E), (0x111C2, 0x111C3), (0x113D1, 0x113D1), (0x1193F, 0x1193F),
    (0x11941, 0x11941), (0x11A3A, 0x11A3A), (0x11A84, 0x11A89), (0x11D46, 0x11D46),
    (0x11F02, 0x11F02)]

/-- The spacing marks that stand apart from the character before them. -/
def looseMark : CodeSet :=
  .ofPairs [(0x102B, 0x102C), (0x1038, 0x1038), (0x1062, 0x1064), (0x1067, 0x106D),
    (0x1083, 0x1083), (0x1087, 0x108C), (0x108F, 0x108F), (0x109A, 0x109C), (0x1A61, 0x1A61),
    (0x1A63, 0x1A64), (0xAA7B, 0xAA7B), (0xAA7D, 0xAA7D), (0x11720, 0x11721)]

/-- The characters of a class of `Grapheme_Cluster_Break`; some values have no class. -/
def graphemeBreak? (value : String) : Option CodeSet :=
  match value with
  | "CR" => some (.single 0xD)
  | "LF" => some (.single 0xA)
  | "Control" => some <|
    (category "Zl" ∪ category "Zp" ∪ category "Cc" ∪ category "Cf" ∪
      (category "Cn" ∩ defaultIgnorable)) \
      (.ofPairs [(0xA, 0xA), (0xD, 0xD), (0x200C, 0x200D)] ∪
        property "Prepended_Concatenation_Mark" ∪ graphemeExtend)
  | "Extend" => some (graphemeExtend ∪ property "Emoji_Modifier")
  | "L" => some (.ofPairs [(0x1100, 0x115F), (0xA960, 0xA97C)])
  | "LV" => some openSyllable
  | "LVT" => some (.range 0xAC00 0xD7A3 \ openSyllable)
  | "Prepend" => some (property "Prepended_Concatenation_Mark" ∪ prependedLetter)
  | "Regional_Indicator" => some (property "Regional_Indicator")
  | "SpacingMark" => some <|
    (category "Mc" ∪ .ofPairs [(0xE33, 0xE33), (0xEB3, 0xEB3)]) \ (graphemeExtend ∪ looseMark)
  | "T" => some (.ofPairs [(0x11A8, 0x11FF), (0xD7CB, 0xD7FB)])
  | "V" => some <|
    .ofPairs [(0x1160, 0x11A7), (0xD7B0, 0xD7C6), (0x16D63, 0x16D63), (0x16D67, 0x16D6A)]
  | "ZWJ" => some (.single 0x200D)
  | _ => none

/-! ### Words -/

/-- The values of `Word_Break` with their further names. -/
def wordBreakNames : List (String × List String) :=
  [("ALetter", ["LE"]), ("CR", []), ("Double_Quote", ["DQ"]), ("E_Base", ["EB"]),
   ("E_Base_GAZ", ["EBG"]), ("E_Modifier", ["EM"]), ("Extend", []), ("ExtendNumLet", ["EX"]),
   ("Format", ["FO"]), ("Glue_After_Zwj", ["GAZ"]), ("Hebrew_Letter", ["HL"]), ("Katakana", ["KA"]),
   ("LF", []), ("MidLetter", ["ML"]), ("MidNum", ["MN"]), ("MidNumLet", ["MB"]),
   ("Newline", ["NL"]), ("Numeric", ["NU"]), ("Other", ["XX"]), ("Regional_Indicator", ["RI"]),
   ("Single_Quote", ["SQ"]), ("WSegSpace", []), ("ZWJ", [])]

/-- The signs that stand before numbers and count as a part of them. -/
def numberSign : CodeSet := property "Prepended_Concatenation_Mark" \ .single 0x70F

/-- The characters that go with the one before them when a text is divided into words. -/
def wordExtend : CodeSet := graphemeExtend ∪ category "Mc" ∪ property "Emoji_Modifier"

/-- The letters of Hebrew. -/
def hebrewLetter : CodeSet := script "Hebr" ∩ category "Lo"

/-- The characters that form words with Katakana. -/
def katakanaWord : CodeSet :=
  script "Kana" ∪ .ofPairs [(0x3031, 0x3035), (0x309B, 0x309C), (0x30A0, 0x30A0), (0x30FC, 0x30FC),
    (0xFF70, 0xFF70)]

/-- The scripts that put no spaces between words. -/
def unspacedScript : CodeSet :=
  script "Thai" ∪ script "Laoo" ∪ script "Khmr" ∪ script "Mymr" ∪ script "Talu" ∪ script "Tale" ∪
    script "Lana" ∪ script "Tavt" ∪ script "Ahom"

/-- The signs that count as letters of words. -/
def wordSign : CodeSet :=
  .ofPairs [(0x2C2, 0x2C5), (0x2D2, 0x2D7), (0x2DE, 0x2DF), (0x2E5, 0x2EB), (0x2ED, 0x2ED),
    (0x2EF, 0x2FF), (0x55A, 0x55C), (0x55E, 0x55E), (0x58A, 0x58A), (0x5F3, 0x5F3), (0x70F, 0x70F),
    (0xA708, 0xA716), (0xA720, 0xA721), (0xA789, 0xA78A), (0xAB5B, 0xAB5B)]

/-- The characters of a class of `Word_Break`; some values have no class. -/
def wordBreak? (value : String) : Option CodeSet :=
  match value with
  | "ALetter" => some <|
    (alphabetic \ (property "Ideographic" ∪ katakanaWord ∪ script "Hira" ∪ wordExtend ∪
      hebrewLetter ∪ unspacedScript)) ∪ wordSign
  | "CR" => some (.single 0xD)
  | "Double_Quote" => some (.single 0x22)
  | "Extend" => some wordExtend
  | "ExtendNumLet" => some <|
    .ofPairs [(0x5F, 0x5F), (0x202F, 0x202F), (0x203F, 0x2040), (0x2054, 0x2054), (0xFE33, 0xFE34),
      (0xFE4D, 0xFE4F), (0xFF3F, 0xFF3F)]
  | "Format" => some <|
    category "Cf" \ (wordExtend ∪ property "Prepended_Concatenation_Mark" ∪
      .ofPairs [(0x200B, 0x200B), (0x200D, 0x200D)])
  | "Hebrew_Letter" => some hebrewLetter
  | "Katakana" => some katakanaWord
  | "LF" => some (.single 0xA)
  | "MidLetter" => some midLetter
  | "MidNum" => some <|
    .ofPairs [(0x2C, 0x2C), (0x3B, 0x3B), (0x37E, 0x37E), (0x589, 0x589), (0x60C, 0x60D),
      (0x66C, 0x66C), (0x7F8, 0x7F8), (0x2044, 0x2044), (0xFE50, 0xFE50), (0xFE54, 0xFE54),
      (0xFF0C, 0xFF0C), (0xFF1B, 0xFF1B)]
  | "MidNumLet" => some midNumberLetter
  | "Newline" => some (.ofPairs [(0xB, 0xC), (0x85, 0x85), (0x2028, 0x2029)])
  | "Numeric" => some (decimalDigit ∪ numberSign ∪ .ofPairs [(0x66B, 0x66B), (0x19DA, 0x19DA)])
  | "Regional_Indicator" => some (property "Regional_Indicator")
  | "Single_Quote" => some (.single 0x27)
  | "WSegSpace" => some <|
    .ofPairs [(0x20, 0x20), (0x1680, 0x1680), (0x2000, 0x2006), (0x2008, 0x200A), (0x205F, 0x205F),
      (0x3000, 0x3000)]
  | "ZWJ" => some (.single 0x200D)
  | _ => none

/-! ### Sentences -/

/-- The values of `Sentence_Break` with their further names. -/
def sentenceBreakNames : List (String × List String) :=
  [("ATerm", ["AT"]), ("CR", []), ("Close", ["CL"]), ("Extend", ["EX"]), ("Format", ["FO"]),
   ("LF", []), ("Lower", ["LO"]), ("Numeric", ["NU"]), ("OLetter", ["LE"]), ("Other", ["XX"]),
   ("SContinue", ["SC"]), ("STerm", ["ST"]), ("Sep", ["SE"]), ("Sp", []), ("Upper", ["UP"])]

/-- The characters that go with the one before them when a text is divided into sentences. -/
def sentenceExtend : CodeSet := graphemeExtend ∪ category "Mc" ∪ .single 0x200D

/-- The separators of paragraphs. -/
def sentenceSeparator : CodeSet := .ofPairs [(0x85, 0x85), (0x2028, 0x2029)]

/-- The spaces inside paragraphs. -/
def sentenceSpace : CodeSet :=
  whiteSpace \ (sentenceSeparator ∪ .ofPairs [(0xA, 0xA), (0xD, 0xD)])

/-- The small letters of the scripts in which a sentence starts with a capital. -/
def sentenceLower : CodeSet :=
  lowercase \ (graphemeExtend ∪ .ofPairs [(0x10D0, 0x10FA), (0x10FD, 0x10FF)])

/-- The capital letters of the scripts in which a sentence starts with one. -/
def sentenceUpper : CodeSet :=
  (uppercase ∪ category "Lt") \ .ofPairs [(0x1C90, 0x1CBA), (0x1CBD, 0x1CBF)]

/-- The full stops, which need not end a sentence. -/
def fullStop : CodeSet :=
  .ofPairs [(0x2E, 0x2E), (0x2024, 0x2024), (0xFE52, 0xFE52), (0xFF0E, 0xFF0E)]

/-- The other signs that end sentences. -/
def sentenceEnd : CodeSet := property "Sentence_Terminal" \ fullStop

/-- The ornaments that close a sentence like quotation marks. -/
def closingOrnament : CodeSet :=
  .ofPairs [(0x275B, 0x2760), (0x2E00, 0x2E01), (0x2E06, 0x2E08), (0x2E0B, 0x2E0B),
    (0x1F676, 0x1F678)]

/-- The characters of a class of `Sentence_Break`; some values have no class. -/
def sentenceBreak? (value : String) : Option CodeSet :=
  match value with
  | "ATerm" => some fullStop
  | "CR" => some (.single 0xD)
  | "Close" => some <|
    ((category "Ps" ∪ category "Pe" ∪ category "Pi" ∪ category "Pf" ∪ property "Quotation_Mark") \
      (fullStop ∪ sentenceEnd ∪ .ofPairs [(0xFF02, 0xFF02), (0xFF07, 0xFF07)])) ∪ closingOrnament
  | "Extend" => some sentenceExtend
  | "Format" => some (category "Cf" \ (sentenceExtend ∪ numberSign))
  | "LF" => some (.single 0xA)
  | "Lower" => some sentenceLower
  | "Numeric" => some (decimalDigit ∪ numberSign ∪ .ofPairs [(0x66B, 0x66C), (0x19DA, 0x19DA)])
  | "OLetter" => some <|
    (alphabetic ∪ .ofPairs [(0xA0, 0xA0), (0x5F3, 0x5F3)]) \
      (sentenceLower ∪ sentenceUpper ∪ sentenceExtend ∪ sentenceSpace)
  | "SContinue" => some <|
    .ofPairs [(0x2C, 0x2D), (0x3A, 0x3B), (0x37E, 0x37E), (0x55D, 0x55D), (0x60C, 0x60D),
      (0x7F8, 0x7F8), (0x1802, 0x1802), (0x1808, 0x1808), (0x2013, 0x2014), (0x3001, 0x3001),
      (0xFE10, 0xFE11), (0xFE13, 0xFE14), (0xFE31, 0xFE32), (0xFE50, 0xFE51), (0xFE54, 0xFE55),
      (0xFE58, 0xFE58), (0xFE63, 0xFE63), (0xFF0C, 0xFF0D), (0xFF1A, 0xFF1B), (0xFF64, 0xFF64)]
  | "STerm" => some sentenceEnd
  | "Sep" => some sentenceSeparator
  | "Sp" => some sentenceSpace
  | "Upper" => some sentenceUpper
  | _ => none

end FoxScript.Unicode
