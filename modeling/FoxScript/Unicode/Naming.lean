import FoxScript.Unicode.Age
import FoxScript.Unicode.Break
import FoxScript.Unicode.ScriptExtension

/-!
# Sets of characters by name

A set is named by a property that its characters have, by a category or a script, or by a property
and a value. Case, spaces, hyphens and underscores make no difference.
-/
namespace FoxScript.Unicode

/-- Why a name stands for no set. -/
inductive NamingFault
  /-- There is no such property. -/
  | unknownProperty
  /-- The property has no such value, or no character has it. -/
  | unknownValue
  deriving DecidableEq, Repr

/-- The text in lower case without spaces, hyphens, underscores and a leading `is`, by which names
are compared. -/
def normalName (name : String) : String :=
  let cs := name.toList
  let lead := (cs.take 2).map Char.toLower == ['i', 's']
  let kept := ((if lead then cs.drop 2 else cs).filter fun c =>
    c != ' ' && c != '_' && c != '-' && c.toNat < 128).map Char.toLower
  if lead && kept == ['c'] then "isc" else String.ofList kept

/-- The entry of a table of names that has the normal name. -/
def findName? (table : List (String × List String)) (name : String) : Option String :=
  (table.find? fun (first, more) => (first :: more).any (normalName · == name)).map (·.1)

/-- The properties whose values have names here. -/
def valuedNames : List (String × List String) :=
  [("Age", []), ("General_Category", ["gc"]), ("Grapheme_Cluster_Break", ["GCB"]),
   ("Script", ["sc"]), ("Script_Extensions", ["scx"]), ("Sentence_Break", ["SB"]),
   ("Word_Break", ["WB"])]

/-- The other properties that have a name: their characters cannot be asked for. -/
def bareNames : List (String × List String) :=
  [("Bidi_Class", ["bc"]), ("Bidi_Mirroring_Glyph", ["bmg"]), ("Bidi_Paired_Bracket", ["bpb"]),
   ("Bidi_Paired_Bracket_Type", ["bpt"]), ("Block", ["blk"]),
   ("Canonical_Combining_Class", ["ccc"]), ("Case_Folding", ["cf"]),
   ("Changes_When_NFKC_Casefolded", ["CWKCF"]), ("Composition_Exclusion", ["CE"]),
   ("Decomposition_Mapping", ["dm"]), ("Decomposition_Type", ["dt"]), ("East_Asian_Width", ["ea"]),
   ("Equivalent_Unified_Ideograph", ["EqUIdeo"]), ("Expands_On_NFC", ["XO_NFC"]),
   ("Expands_On_NFD", ["XO_NFD"]), ("Expands_On_NFKC", ["XO_NFKC"]),
   ("Expands_On_NFKD", ["XO_NFKD"]), ("FC_NFKC_Closure", ["FC_NFKC"]),
   ("Full_Composition_Exclusion", ["Comp_Ex"]), ("Hangul_Syllable_Type", ["hst"]),
   ("ISO_Comment", ["isc"]), ("Indic_Conjunct_Break", ["InCB"]),
   ("Indic_Positional_Category", ["InPC"]), ("Indic_Syllabic_Category", ["InSC"]),
   ("Jamo_Short_Name", ["JSN"]), ("Joining_Group", ["jg"]), ("Joining_Type", ["jt"]),
   ("Line_Break", ["lb"]), ("Lowercase_Mapping", ["lc"]), ("NFC_Quick_Check", ["NFC_QC"]),
   ("NFD_Quick_Check", ["NFD_QC"]), ("NFKC_Casefold", ["NFKC_CF"]),
   ("NFKC_Quick_Check", ["NFKC_QC"]), ("NFKC_Simple_Casefold", ["NFKC_SCF"]),
   ("NFKD_Quick_Check", ["NFKD_QC"]), ("Name", ["na"]), ("Name_Alias", []),
   ("Numeric_Type", ["nt"]), ("Numeric_Value", ["nv"]), ("Simple_Case_Folding", ["scf", "sfc"]),
   ("Simple_Lowercase_Mapping", ["slc"]), ("Simple_Titlecase_Mapping", ["stc"]),
   ("Simple_Uppercase_Mapping", ["suc"]), ("Titlecase_Mapping", ["tc"]),
   ("Unicode_1_Name", ["na1"]), ("Uppercase_Mapping", ["uc"]), ("Vertical_Orientation", ["vo"]),
   ("kAccountingNumeric", ["cjkAccountingNumeric"]),
   ("kCompatibilityVariant", ["cjkCompatibilityVariant"]), ("kEH_Cat", []), ("kEH_Desc", []),
   ("kEH_HG", []), ("kEH_IFAO", []), ("kEH_JSesh", []), ("kEH_NoMirror", []), ("kEH_NoRotate", []),
   ("kIICore", ["cjkIICore"]), ("kIRG_GSource", ["cjkIRG_GSource"]),
   ("kIRG_HSource", ["cjkIRG_HSource"]), ("kIRG_JSource", ["cjkIRG_JSource"]),
   ("kIRG_KPSource", ["cjkIRG_KPSource"]), ("kIRG_KSource", ["cjkIRG_KSource"]),
   ("kIRG_MSource", ["cjkIRG_MSource"]), ("kIRG_SSource", ["cjkIRG_SSource"]),
   ("kIRG_TSource", ["cjkIRG_TSource"]), ("kIRG_UKSource", ["cjkIRG_UKSource"]),
   ("kIRG_USource", ["cjkIRG_USource"]), ("kIRG_VSource", ["cjkIRG_VSource"]),
   ("kOtherNumeric", ["cjkOtherNumeric"]), ("kPrimaryNumeric", ["cjkPrimaryNumeric"]),
   ("kRSUnicode", ["cjkRSUnicode", "Unicode_Radical_Stroke", "URS"])]

/-- The characters with a property that each character has or lacks, by its normal name. -/
def findBinary? (name : String) : Option CodeSet :=
  match findName? derivedNames name with
  | some first => some (derived first)
  | none =>
    (findName? (propertyTables.map fun (first, more, _) => (first, more)) name).map property

/-- Whether a property has the normal name. -/
def isPropertyName (name : String) : Bool :=
  [derivedNames, propertyTables.map fun (first, more, _) => (first, more), valuedNames,
    bareNames].any fun table => (findName? table name).isSome

/-- The characters of a general category, by its normal name; the surrogates are none. -/
def findCategory? (name : String) : Option (Option CodeSet) :=
  if name == "any" then some (some .all)
  else if name == "assigned" then some (some (category "Cn").complement)
  else if name == "ascii" then some (some (.range 0 127))
  else (findName? categoryNames name).map fun c => if c == "Cs" then none else some (category c)

/-- The characters that `ofScript` gives for a script, by its normal name; two names of scripts are
not those of any character. -/
def findScript? (ofScript : String → CodeSet) (name : String) : Option (Option CodeSet) :=
  (findName? scriptNames name).map fun s =>
    if s == "Zzzz" || s == "Hrkt" then none else some (ofScript s)

/-- The characters for which a property has a value, by the normal name of the value. -/
def findValue? (property value : String) : Option CodeSet :=
  match property with
  | "Age" => (findName? ageNames value).map age
  | "General_Category" => (findCategory? value).join
  | "Grapheme_Cluster_Break" => (findName? graphemeBreakNames value).bind graphemeBreak?
  | "Script" => (findScript? script value).join
  | "Script_Extensions" => (findScript? scriptExtension value).join
  | "Sentence_Break" => (findName? sentenceBreakNames value).bind sentenceBreak?
  | "Word_Break" => (findName? wordBreakNames value).bind wordBreak?
  | _ => none

/-- The characters that a bare name stands for: a property, or else a category, or else a script.
Three short names of categories are names of properties too; there the category is meant. -/
def CodeSet.ofName (name : String) : Except NamingFault CodeSet :=
  let name := normalName name
  if isPropertyName name && !(["cf", "sc", "lc"].contains name) then
    match findBinary? name with
    | some s => .ok s
    | none => .error .unknownProperty
  else
    match findCategory? name <|> findScript? script name with
    | some (some s) => .ok s
    | some none => .error .unknownValue
    | none => .error .unknownProperty

/-- The characters for which a property has a value. -/
def CodeSet.ofValue (property value : String) : Except NamingFault CodeSet :=
  let property := normalName property
  if !isPropertyName property then .error .unknownProperty
  else
    match (findName? valuedNames property).bind fun p => findValue? p (normalName value) with
    | some s => .ok s
    | none => .error .unknownValue

end FoxScript.Unicode
