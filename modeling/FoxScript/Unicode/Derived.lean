import FoxScript.Unicode.Category
import FoxScript.Unicode.Property

/-!
# Properties that follow from others

Letters in either case, identifiers, characters without an image and the like are defined by the
categories, by what the tables add to them, and by a few exceptions.
-/
namespace FoxScript.Unicode

/-- The letters, marks, numbers and the like that count as alphabetic. -/
def alphabetic : CodeSet := category "L" ∪ category "Nl" ∪ property "Other_Alphabetic"

/-- The decimal digits of all scripts. -/
def decimalDigit : CodeSet := category "Nd"

/-- The characters with the property `White_Space`. -/
def whiteSpace : CodeSet := property "White_Space"

/-- The characters of words: alphabetic ones, marks, decimal digits, connectors and joiners. -/
def wordCharacter : CodeSet :=
  alphabetic ∪ category "M" ∪ decimalDigit ∪ category "Pc" ∪ property "Join_Control"

/-- The small letters. -/
def lowercase : CodeSet := category "Ll" ∪ property "Other_Lowercase"

/-- The capital letters. -/
def uppercase : CodeSet := category "Lu" ∪ property "Other_Uppercase"

/-- The marks that do not stand apart from the character before them. -/
def graphemeExtend : CodeSet :=
  category "Me" ∪ category "Mn" ∪ property "Other_Grapheme_Extend"

/-- The characters that have no image where they are not supported. -/
def defaultIgnorable : CodeSet :=
  (property "Other_Default_Ignorable_Code_Point" ∪ category "Cf" ∪ property "Variation_Selector") \
    (whiteSpace ∪ property "Prepended_Concatenation_Mark" ∪
      .ofPairs [(0xFFF9, 0xFFFB), (0x13430, 0x1343F)])

/-- The characters that patterns are written in. -/
def patternCharacter : CodeSet := property "Pattern_Syntax" ∪ property "Pattern_White_Space"

/-- The characters that identifiers start with. -/
def identifierStart : CodeSet :=
  (category "L" ∪ category "Nl" ∪ property "Other_ID_Start") \ patternCharacter

/-- The characters that identifiers go on with. -/
def identifierContinue : CodeSet :=
  (identifierStart ∪ category "Mn" ∪ category "Mc" ∪ decimalDigit ∪ category "Pc" ∪
    property "Other_ID_Continue") \ patternCharacter

/-- The identifier characters that normal forms turn into others. -/
def unstableIdentifier : CodeSet :=
  .ofPairs [(0x37A, 0x37A), (0x309B, 0x309C), (0xFC5E, 0xFC63), (0xFDFA, 0xFDFB), (0xFE70, 0xFE70),
    (0xFE72, 0xFE72), (0xFE74, 0xFE74), (0xFE76, 0xFE76), (0xFE78, 0xFE78), (0xFE7A, 0xFE7A),
    (0xFE7C, 0xFE7C), (0xFE7E, 0xFE7E)]

/-- The identifier characters that normal forms turn into ones that cannot come first. -/
def unstableStart : CodeSet := .ofPairs [(0xE33, 0xE33), (0xEB3, 0xEB3), (0xFF9E, 0xFF9F)]

/-- The characters that change when a text is folded, although the lower case leaves them alone. -/
def foldedOnly : CodeSet :=
  .ofPairs [(0xB5, 0xB5), (0xDF, 0xDF), (0x149, 0x149), (0x17F, 0x17F), (0x345, 0x345),
    (0x3C2, 0x3C2), (0x3D0, 0x3D1), (0x3D5, 0x3D6), (0x3F0, 0x3F1), (0x3F5, 0x3F5), (0x587, 0x587),
    (0x13F8, 0x13FD), (0x1C80, 0x1C88), (0x1E9A, 0x1E9B), (0x1F80, 0x1F87), (0x1F90, 0x1F97),
    (0x1FA0, 0x1FA7), (0x1FB2, 0x1FB4), (0x1FB7, 0x1FB7), (0x1FC2, 0x1FC4), (0x1FC7, 0x1FC7),
    (0x1FF2, 0x1FF4), (0x1FF7, 0x1FF7), (0xAB70, 0xABBF), (0xFB00, 0xFB06), (0xFB13, 0xFB17)]

/-- The characters that the title case leaves alone, although the upper case changes them. -/
def uppercasedOnly : CodeSet :=
  .ofPairs [(0x1C5, 0x1C5), (0x1C8, 0x1C8), (0x1CB, 0x1CB), (0x1F2, 0x1F2), (0x10D0, 0x10FA),
    (0x10FD, 0x10FF), (0x1F88, 0x1F8F), (0x1F98, 0x1F9F), (0x1FA8, 0x1FAF), (0x1FBC, 0x1FBC),
    (0x1FCC, 0x1FCC), (0x1FFC, 0x1FFC)]

/-- The capital digraphs, which the title case changes. -/
def capitalDigraph : CodeSet :=
  .ofPairs [(0x1C4, 0x1C4), (0x1C7, 0x1C7), (0x1CA, 0x1CA), (0x1F1, 0x1F1)]

/-- The characters that change in title case. -/
def changesInTitle : CodeSet :=
  (property "Changes_When_Uppercased" \ uppercasedOnly) ∪ capitalDigraph

/-- The signs that stand inside words between letters. -/
def midLetter : CodeSet :=
  .ofPairs [(0x3A, 0x3A), (0xB7, 0xB7), (0x387, 0x387), (0x55F, 0x55F), (0x5F4, 0x5F4),
    (0x2027, 0x2027), (0xFE13, 0xFE13), (0xFE55, 0xFE55), (0xFF1A, 0xFF1A)]

/-- The signs that stand inside words between letters or digits. -/
def midNumberLetter : CodeSet :=
  .ofPairs [(0x2E, 0x2E), (0x2018, 0x2019), (0x2024, 0x2024), (0xFE52, 0xFE52), (0xFF07, 0xFF07),
    (0xFF0E, 0xFF0E)]

/-- The names of the properties of this module, each with its further names. -/
def derivedNames : List (String × List String) :=
  [("Alphabetic", ["Alpha"]), ("Case_Ignorable", ["CI"]), ("Cased", []),
   ("Changes_When_Casefolded", ["CWCF"]), ("Changes_When_Casemapped", ["CWCM"]),
   ("Changes_When_Titlecased", ["CWT"]), ("Default_Ignorable_Code_Point", ["DI"]),
   ("Grapheme_Base", ["Gr_Base"]), ("Grapheme_Extend", ["Gr_Ext"]), ("ID_Continue", ["IDC"]),
   ("ID_Start", ["IDS"]), ("Lowercase", ["Lower"]), ("Math", []), ("Uppercase", ["Upper"]),
   ("XID_Continue", ["XIDC"]), ("XID_Start", ["XIDS"])]

/-- The characters with a property of this module. -/
def derived (name : String) : CodeSet :=
  match name with
  | "Alphabetic" => alphabetic
  | "Case_Ignorable" =>
    category "Mn" ∪ category "Me" ∪ category "Cf" ∪ category "Lm" ∪ category "Sk" ∪
      (midLetter ∪ midNumberLetter ∪ .single 0x27)
  | "Cased" => lowercase ∪ uppercase ∪ category "Lt"
  | "Changes_When_Casefolded" =>
    (property "Changes_When_Lowercased" ∪ foldedOnly) \ .range 0x13A0 0x13F5
  | "Changes_When_Casemapped" =>
    property "Changes_When_Lowercased" ∪ property "Changes_When_Uppercased" ∪ changesInTitle
  | "Changes_When_Titlecased" => changesInTitle
  | "Default_Ignorable_Code_Point" => defaultIgnorable
  | "Grapheme_Base" =>
    (category "C" ∪ category "Zl" ∪ category "Zp" ∪ graphemeExtend).complement
  | "Grapheme_Extend" => graphemeExtend
  | "ID_Continue" => identifierContinue
  | "ID_Start" => identifierStart
  | "Lowercase" => lowercase
  | "Math" => category "Sm" ∪ property "Other_Math"
  | "Uppercase" => uppercase
  | "XID_Continue" => identifierContinue \ unstableIdentifier
  | "XID_Start" => identifierStart \ (unstableIdentifier ∪ unstableStart)
  | _ => ∅

end FoxScript.Unicode
