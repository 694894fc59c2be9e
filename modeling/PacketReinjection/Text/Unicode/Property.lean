import PacketReinjection.Text.Unicode.Age
import PacketReinjection.Text.Unicode.Binary
import PacketReinjection.Text.Unicode.Category
import PacketReinjection.Text.Unicode.Grapheme
import PacketReinjection.Text.Unicode.Script
import PacketReinjection.Text.Unicode.SentenceBreak
import PacketReinjection.Text.Unicode.SharedScript
import PacketReinjection.Text.Unicode.WordBreak

/-!
# `Text.Unicode.Property` — looking up properties of characters by name

A set of characters is named either by one name, which is a binary property, a category or a script, or by a
property and a value of it. Names are compared loosely: letters alone count, in either case, and an `is` in
front does not.

## Contents
- **Derived properties.** `derivedTable` gives those that follow from categories and listed properties.
- **Names.** `looseName`; `otherProperties` are known, but no character can be looked up by them.
- **Values.** `categoryNamed?`, `scriptNamed?` and their like.
- **`namedSet`**, **`valueSet`** — the characters, or why there are none (`PropertyFault`).
-/

namespace PacketReinjection.Text.Unicode

/-! ## Derived properties -/

/-- Small letters. -/
def lowercase : Ranges := (category "Ll").union (listed "Other_Lowercase")

/-- Capital letters. -/
def uppercase : Ranges := (category "Lu").union (listed "Other_Uppercase")

/-- Letters, and what is written like a letter. -/
def alphabetic : Ranges :=
  .unionAll [lowercase, uppercase, categories ["Lt", "Lm", "Lo", "Nl"], listed "Other_Alphabetic"]

/-- Digits and numbers of every kind. -/
def numeric : Ranges := categories ["Nd", "Nl", "No"]

/-- What extends the character before it. -/
def graphemeExtend : Ranges := (categories ["Me", "Mn"]).union (listed "Other_Grapheme_Extend")

/-- What a character can be written with, extensions aside. -/
def graphemeBase : Ranges :=
  (categories ["Lu", "Ll", "Lt", "Lm", "Lo", "Mc", "Mn", "Me", "Nd", "Nl", "No", "Pc", "Pd", "Ps", "Pe",
    "Pi", "Pf", "Po", "Sm", "Sc", "Sk", "So", "Zs"]).difference graphemeExtend

/-- What an identifier starts with. -/
def idStart : Ranges :=
  ((categories ["Lu", "Ll", "Lt", "Lm", "Lo", "Nl"]).union (listed "Other_ID_Start")).difference
    ((listed "Pattern_Syntax").union (listed "Pattern_White_Space"))

/-- What an identifier goes on with. -/
def idContinue : Ranges :=
  .unionAll [idStart, categories ["Mn", "Mc", "Nd", "Pc"], listed "Other_ID_Continue"]

/-- What an identifier does not go on with once compatible characters count as one. -/
def incompatiblePart : Ranges :=
  .ofRows ["37a 309b-309c fc5e-fc63 fdfa-fdfb fe70-fe7e/2"]

/-- What an identifier starts with if compatible characters count as one. -/
def xidStart : Ranges :=
  idStart.difference (incompatiblePart.union (.ofRows ["e33 eb3 ff9e-ff9f"]))

/-- What an identifier goes on with if compatible characters count as one. -/
def xidContinue : Ranges := idContinue.difference incompatiblePart

/-- What is passed over when the case of its neighbours is looked at. -/
def caseIgnorable : Ranges :=
  .unionAll [categories ["Mn", "Me", "Cf", "Lm", "Sk"],
    ["MidLetter", "MidNumLet", "Single_Quote"].flatMap fun n => (find? wordBreakTable n).getD []]

/-- What is not shown where it is not supported. -/
def defaultIgnorable : Ranges :=
  (((category "Cf").union (listed "Variation_Selector")).difference
    (.unionAll [listed "White_Space", [(0xfff9, 0xfffb)], [(0x13430, 0x13440)],
      listed "Prepended_Concatenation_Mark"])).union (listed "Other_Default_Ignorable_Code_Point")

/-- The properties that follow from others, each with its names. -/
def derivedTable : List (List String × (Unit → Ranges)) :=
  [(["Alphabetic", "Alpha"], fun _ => alphabetic),
    (["Case_Ignorable", "CI"], fun _ => caseIgnorable),
    (["Cased"], fun _ => .unionAll [lowercase, uppercase, category "Lt"]),
    (["Default_Ignorable_Code_Point", "DI"], fun _ => defaultIgnorable),
    (["Grapheme_Base", "Gr_Base"], fun _ => graphemeBase),
    (["Grapheme_Extend", "Gr_Ext"], fun _ => graphemeExtend),
    (["ID_Continue", "IDC"], fun _ => idContinue),
    (["ID_Start", "IDS"], fun _ => idStart),
    (["Lowercase", "Lower"], fun _ => lowercase),
    (["Math"], fun _ => (category "Sm").union (listed "Other_Math")),
    (["Uppercase", "Upper"], fun _ => uppercase),
    (["XID_Continue", "XIDC"], fun _ => xidContinue),
    (["XID_Start", "XIDS"], fun _ => xidStart)]

/-! ## Names -/

/-- The letters of a name that count. -/
def countedLetters (name : List Char) : List Char :=
  (name.filter fun c => c.toNat < 0x80 && c ≠ ' ' && c ≠ '_' && c ≠ '-').map Char.toLower

/-- The form in which names are compared. Only for the name `isc` the `is` in front counts, since `c` is a
    name of its own. -/
def looseName (name : List Char) : List Char :=
  match name with
  | i :: s :: rest =>
    if i.toLower = 'i' && s.toLower = 's' then
      if countedLetters rest = ['c'] then ['i', 's', 'c'] else countedLetters rest
    else countedLetters name
  | _ => countedLetters name

/-- Whether a name in its loose form is among some names. -/
def isAmong (names : List String) (loose : List Char) : Bool :=
  names.any fun n => looseName n.toList = loose

/-- The characters of the set that goes by a name in its loose form. -/
def findLoose? (table : List NamedSet) (loose : List Char) : Option Ranges :=
  (table.find? fun s => isAmong s.names loose).map NamedSet.ranges

/-- The names of properties that are defined, but that no character can be looked up by. -/
def otherProperties : List String :=
  [
    "Bidi_Class", "bc", "Bidi_Mirroring_Glyph", "bmg", "Bidi_Paired_Bracket", "bpb",
    "Bidi_Paired_Bracket_Type", "bpt", "Block", "blk", "Canonical_Combining_Class", "ccc",
    "Case_Folding", "cf", "Changes_When_NFKC_Casefolded", "CWKCF", "Composition_Exclusion", "CE",
    "Decomposition_Mapping", "dm", "Decomposition_Type", "dt", "East_Asian_Width", "ea",
    "Equivalent_Unified_Ideograph", "EqUIdeo", "Expands_On_NFC", "XO_NFC", "Expands_On_NFD",
    "XO_NFD", "Expands_On_NFKC", "XO_NFKC", "Expands_On_NFKD", "XO_NFKD", "FC_NFKC_Closure",
    "FC_NFKC", "Full_Composition_Exclusion", "Comp_Ex", "Hangul_Syllable_Type", "hst",
    "ISO_Comment", "isc", "Indic_Conjunct_Break", "InCB", "Indic_Positional_Category", "InPC",
    "Indic_Syllabic_Category", "InSC", "Jamo_Short_Name", "JSN", "Joining_Group", "jg",
    "Joining_Type", "jt", "Line_Break", "lb", "Lowercase_Mapping", "lc", "NFC_Quick_Check",
    "NFC_QC", "NFD_Quick_Check", "NFD_QC", "NFKC_Casefold", "NFKC_CF", "NFKC_Quick_Check",
    "NFKC_QC", "NFKC_Simple_Casefold", "NFKC_SCF", "NFKD_Quick_Check", "NFKD_QC", "Name", "na",
    "Name_Alias", "Numeric_Type", "nt", "Numeric_Value", "nv", "Simple_Case_Folding", "scf",
    "sfc", "Simple_Lowercase_Mapping", "slc", "Simple_Titlecase_Mapping", "stc",
    "Simple_Uppercase_Mapping", "suc", "Titlecase_Mapping", "tc", "Unicode_1_Name", "na1",
    "Unicode_Radical_Stroke", "URS", "cjkRSUnicode", "kRSUnicode", "Uppercase_Mapping", "uc",
    "Vertical_Orientation", "vo", "kEH_Cat", "kEH_Desc", "kEH_HG", "kEH_IFAO", "kEH_JSesh",
    "kEH_NoMirror", "kEH_NoRotate", "kAccountingNumeric", "cjkAccountingNumeric",
    "kCompatibilityVariant", "cjkCompatibilityVariant", "kIICore", "cjkIICore", "kIRG_GSource",
    "cjkIRG_GSource", "kIRG_HSource", "cjkIRG_HSource", "kIRG_JSource", "cjkIRG_JSource",
    "kIRG_KPSource", "cjkIRG_KPSource", "kIRG_KSource", "cjkIRG_KSource", "kIRG_MSource",
    "cjkIRG_MSource", "kIRG_SSource", "cjkIRG_SSource", "kIRG_TSource", "cjkIRG_TSource",
    "kIRG_UKSource", "cjkIRG_UKSource", "kIRG_USource", "cjkIRG_USource", "kIRG_VSource",
    "cjkIRG_VSource", "kOtherNumeric", "cjkOtherNumeric", "kPrimaryNumeric", "cjkPrimaryNumeric"]

/-- Properties with values that characters can be looked up by. -/
inductive ValuedProperty where
  | age
  | category
  | graphemePart
  | script
  | scriptExtension
  | sentencePart
  | wordPart
  deriving DecidableEq

/-- The names of the properties with values. -/
def valuedProperties : List (List String × ValuedProperty) :=
  [(["Age"], .age), (["General_Category", "gc"], .category),
    (["Grapheme_Cluster_Break", "GCB"], .graphemePart), (["Script", "sc"], .script),
    (["Script_Extensions", "scx"], .scriptExtension), (["Sentence_Break", "SB"], .sentencePart),
    (["Word_Break", "WB"], .wordPart)]

/-- Why no characters are found by a name. -/
inductive PropertyFault where
  | unknownProperty
  | unknownValue
  deriving DecidableEq

/-! ## Values -/

/-- The characters of a category or of a category of categories. -/
def categoryNamed? (loose : List Char) : Option Ranges :=
  if isAmong ["Any"] loose then some [(0, lastCodePoint)]
  else if isAmong ["Assigned"] loose then some unassigned.complement
  else if isAmong ["ASCII"] loose then some [(0, 0x7f)]
  else if isAmong ["Unassigned", "Cn"] loose then some unassigned
  else if isAmong ["Other", "C"] loose then some ((categories ["Cc", "Cf", "Co"]).union unassigned)
  else
    ((categoryGroups.find? fun g => isAmong g.1 loose).map fun g => categories g.2)
      <|> findLoose? categoryTable loose

/-- Names of categories that no character has by itself. -/
def emptyCategories : List String := ["Surrogate", "Cs"]

/-- The characters of a script. -/
def scriptNamed? (loose : List Char) : Option Ranges := findLoose? scriptTable loose

/-- The characters that are used in a script. -/
def scriptUse? (loose : List Char) : Option Ranges := do
  let own ← scriptTable.find? fun s => isAmong s.names loose
  let first := own.names.headD ""
  return (own.ranges.difference ((find? unsharedTable first).getD [])).union
    ((find? sharedTable first).getD [])

/-- The characters that a version of the standard or one before it designated. -/
def designatedBy? (loose : List Char) : Option Ranges :=
  match ageTable.findIdx? fun s => isAmong s.names loose with
  | some i => some (.unionAll ((ageTable.take (i + 1)).map NamedSet.ranges))
  | none => none

/-- The characters that play a part in a cluster. -/
def graphemePart? (loose : List Char) : Option Ranges :=
  if isAmong ["LV"] loose then some openSyllables
  else if isAmong ["LVT"] loose then some closedSyllables
  else findLoose? graphemeTable loose

/-- The characters for which a property has a value. -/
def ValuedProperty.value? (p : ValuedProperty) (loose : List Char) : Option Ranges :=
  match p with
  | .age => designatedBy? loose
  | .category => categoryNamed? loose
  | .graphemePart => graphemePart? loose
  | .script => scriptNamed? loose
  | .scriptExtension => scriptUse? loose
  | .sentencePart => findLoose? sentenceBreakTable loose
  | .wordPart => findLoose? wordBreakTable loose

/-! ## Looking up -/

/-- The characters that have a binary property. -/
def binaryNamed? (loose : List Char) : Option Ranges :=
  ((derivedTable.find? fun d => isAmong d.1 loose).map fun d => d.2 ())
    <|> findLoose? binaryTable loose

/-- Whether a name is that of a property which is not binary. -/
def isValuedName (loose : List Char) : Bool :=
  isAmong otherProperties loose || valuedProperties.any fun p => isAmong p.1 loose

/-- The characters that a name by itself stands for. A property comes before a category and that before a
    script; only `cf`, `sc` and `lc` are categories at once. -/
def namedSet (name : List Char) : Except PropertyFault Ranges :=
  let loose := looseName name
  let isShortCategory := ["cf", "sc", "lc"].any fun n => n.toList = loose
  match if isShortCategory then none else binaryNamed? loose with
  | some set => .ok set
  | none =>
    if !isShortCategory && isValuedName loose then .error .unknownProperty
    else
      match categoryNamed? loose <|> scriptNamed? loose with
      | some set => .ok set
      | none =>
        if isAmong emptyCategories loose || isAmong emptyScripts loose then .error .unknownValue
        else .error .unknownProperty

/-- The characters for which a property has a value. -/
def valueSet (property value : List Char) : Except PropertyFault Ranges :=
  let name := looseName property
  match valuedProperties.find? fun p => isAmong p.1 name with
  | some p =>
    match p.2.value? (looseName value) with
    | some set => .ok set
    | none => .error .unknownValue
  | none =>
    if isAmong otherProperties name || derivedTable.any (isAmong ·.1 name)
        || binaryTable.any (isAmong ·.names name) then .error .unknownValue
    else .error .unknownProperty

end PacketReinjection.Text.Unicode
