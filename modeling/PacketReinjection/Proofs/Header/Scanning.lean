import PacketReinjection.Proofs.Header.Body
import PacketReinjection.Proofs.Header.Listing
import PacketReinjection.Proofs.Text.Library

/-!
# `Proofs.Header.Scanning` — declarations are read back

Behind a text that ends in a line feed and has no head of the same name, in any spacing, a declaration is read as the
members of its variants with plain names, each with its own documentation, and the C type lists just these. This holds
for every library that finds what the scanner's expressions stand for. Two things keep a variant out of the header: a
name that is not plain, and, for all of them at once, a library that does not compile the expression with the name of
the enumeration in it.

## Contents
- **`enumeration_declared`** — what is read from a text with a declaration.
- **`enumeration_of_declaration`** — the same together with what the C type lists.
- **`enumeration_misses_variants`** — what is lost.
-/

namespace PacketReinjection.Header

open Text Pattern Tunable

/-! ## Reading -/

section Reading

variable [RegexLibrary] (d : Declaration) {before : List Char} (rest : List Char) (path : String)

/-- What is read from a text with a declaration. -/
theorem enumeration_declared
    (hhead : RegexLibrary.Understands (enumerationPatternText d.name.text) (enumerationPattern d.name.chars))
    (hmember : RegexLibrary.Provides memberPatternText memberPattern)
    (hdoc : RegexLibrary.Provides docPatternText docPattern)
    (hbefore : before = [] ∨ before.getLast? = some '\n')
    (hother : ∀ head, IsHead d.name.chars head → ¬ head <:+: before) :
    enumeration (String.ofList (before ++ (d.chars ++ rest))) d.name.text path =
      match RegexLibrary.compile (enumerationPatternText d.name.text) with
      | .error description => .error (.badPattern description)
      | .ok _ => if d.members.isEmpty then .error (.noMembers d.name.text path) else .ok d.members := by
  obtain ⟨member, hmember, hmembers⟩ := hmember
  obtain ⟨doc, hdoc, hdocs⟩ := hdoc
  unfold enumeration compiled
  cases hcompile : RegexLibrary.compile (enumerationPatternText d.name.text) with
  | error description => rfl
  | ok head =>
    obtain ⟨t, hfind, hgroup⟩ :=
      leftmost?_enumeration rest d.name.ne_nil d.name.stands d.brace_not_mem_body hbefore hother
    have htext : (String.ofList (before ++ (d.chars ++ rest))).toList = before ++ ("pub".toList ++ (' ' ::
        ("enum".toList ++ (' ' :: (d.name.chars ++ (' ' :: '\x7b' :: (d.body ++ '\x7d' :: rest))))))) := by
      simp [Declaration.chars]
    have hcaptures := (hhead head hcompile).captures_of_leftmost hfind
    rw [htext]
    simp only [hcaptures, groupOf_captures hgroup, hmember, hdoc, membersOf_body hmembers hdocs, Except.mapError,
      bind, Except.bind]
    cases d.members.isEmpty <;> rfl

end Reading

/-! ## Listing -/

/-- A declared number and the documentation above it stay on their lines. -/
theorem inLine_member (v : Variant) : v.member.InLine := by
  refine ⟨?_, fun doc hdoc => ?_⟩
  · show '\n' ∉ v.value.text.toList
    rw [ValueSpelling.text, String.toList_ofList]
    exact v.value.not_mem_chars (by decide)
  · obtain ⟨-, rfl⟩ : v.docs ≠ [] ∧ " ".intercalate (v.docs.map fun d => String.ofList (trim d.text)) = doc := by
      simpa [Variant.member, Variant.doc] using hdoc
    refine not_mem_intercalate (by decide) fun t ht => ?_
    obtain ⟨d, -, rfl⟩ := List.mem_map.mp ht
    rw [String.toList_ofList]
    exact fun hmem => d.inLine (mem_of_mem_trim hmem)

theorem enumeratorLines_members (d : Declaration) {typeName namePrefix : String} (htype : '\n' ∉ typeName.toList)
    (hpre : '\n' ∉ namePrefix.toList) :
    enumeratorLines (renderEnumeration typeName namePrefix d.members) =
      d.plainVariants.map fun v =>
        "  " ++ namePrefix ++ screamingSnake v.name.text ++ " = " ++ v.value.text ++ "," := by
  have hmembers : ∀ m ∈ d.members, m.InLine := by
    intro m hm
    obtain ⟨v, -, rfl⟩ := List.mem_map.mp hm
    exact inLine_member v
  rw [enumeratorLines_renderEnumeration htype hpre hmembers, Declaration.members, List.map_map]
  rfl

/-! ## Declarations -/

/-- The white space in front of most lines. -/
def fourSpaces : Indent := { chars := "    ".toList }

/-- A declaration with a variant that is documented in two lines, a raw one, and one without documentation. -/
def mixedDeclaration : Declaration where
  name := { first := 'E', others := [] }
  variants :=
    [{ docs :=
         [{ indent := fourSpaces, text := " First ".toList },
          { indent := fourSpaces, text := "thing.".toList }],
       indent := fourSpaces,
       name := { first := 'F', others := "irstThing".toList },
       value := { negative := false, hexadecimal := true, digits := "1F".toList } },
     { docs := [{ indent := fourSpaces, text := " Raw.".toList }],
       indent := fourSpaces,
       name := { first := 'r', others := "#type".toList },
       value := { negative := false, hexadecimal := false, digits := "2".toList } },
     { docs := [],
       indent := { chars := ['\t'] },
       name := { first := 'B', others := ['2'] },
       value := { negative := true, hexadecimal := false, digits := "7".toList } }]
  carriageReturns := true
  closing := { chars := [] }

/-- A declaration of `Extra`, whose name goes on where that of `E` ends, and the line feed behind it. -/
def extraText : List Char := "pub enum Extra \x7b\n    A = 1,\n\x7d\n".toList

/-- **A declaration is read back**, whatever follows it, if what is in front ends in a line feed and has no head of its
    name: its members are those of the variants with plain names, with the numbers as they are spelt and each with its
    own documentation. There is none only if no such variant is left or the library does not compile the expression for
    the name. The C type lists the same variants, in the same order. -/
theorem enumeration_of_declaration [RegexLibrary] (d : Declaration) (before rest : List Char)
    (path typeName namePrefix : String)
    (hhead : RegexLibrary.Understands (enumerationPatternText d.name.text) (enumerationPattern d.name.chars))
    (hmember : RegexLibrary.Provides memberPatternText memberPattern)
    (hdoc : RegexLibrary.Provides docPatternText docPattern)
    (hbefore : before = [] ∨ before.getLast? = some '\n')
    (hother : ∀ head, IsHead d.name.chars head → ¬ head <:+: before) :
    (enumeration (String.ofList (before ++ (d.chars ++ rest))) d.name.text path =
      match RegexLibrary.compile (enumerationPatternText d.name.text) with
      | .error description => .error (.badPattern description)
      | .ok _ => if d.members.isEmpty then .error (.noMembers d.name.text path) else .ok d.members)
    ∧ ('\n' ∉ typeName.toList → '\n' ∉ namePrefix.toList →
      enumeratorLines (renderEnumeration typeName namePrefix d.members) =
        d.plainVariants.map fun v =>
          "  " ++ namePrefix ++ screamingSnake v.name.text ++ " = " ++ v.value.text ++ ",") :=
  ⟨enumeration_declared d rest path hhead hmember hdoc hbefore hother, enumeratorLines_members d⟩

/-- A library that knows what the scanner asks for when it looks for `E`. -/
@[reducible] def knowingE : RegexLibrary :=
  .knowing
    [(enumerationPatternText "E", enumerationPattern ['E']), (memberPatternText, memberPattern),
      (docPatternText, docPattern)]

theorem provides_knowingE :
    @RegexLibrary.Provides knowingE (enumerationPatternText "E") (enumerationPattern ['E'])
    ∧ @RegexLibrary.Provides knowingE memberPatternText memberPattern
    ∧ @RegexLibrary.Provides knowingE docPatternText docPattern :=
  ⟨RegexLibrary.provides_knowing (by decide +kernel) (by decide),
    RegexLibrary.provides_knowing (by decide +kernel) (by decide),
    RegexLibrary.provides_knowing (by decide +kernel) (by decide)⟩

theorem enumeration_of_declaration_behind_another :
    @RegexLibrary.Understands knowingE (enumerationPatternText "E") (enumerationPattern ['E'])
    ∧ @RegexLibrary.Provides knowingE memberPatternText memberPattern
    ∧ @RegexLibrary.Provides knowingE docPatternText docPattern
    ∧ extraText.getLast? = some '\n' ∧ (∀ head, IsHead ['E'] head → ¬ head <:+: extraText)
    ∧ @enumeration knowingE (String.ofList (extraText ++ (mixedDeclaration.chars ++ "\n".toList))) "E"
      "declarations" = .ok [⟨"FirstThing", "0x1F", some "First thing."⟩, ⟨"B2", "-7", none⟩]
    ∧ enumeratorLines (renderEnumeration "T" "P_" mixedDeclaration.members) =
      ["  P_FIRST_THING = 0x1F,", "  P_B2 = -7,"] := by
  obtain ⟨hhead, hmember, hdoc⟩ := provides_knowingE
  have hlast : extraText.getLast? = some '\n' := by decide
  have hother : ∀ head, IsHead ['E'] head → ¬ head <:+: extraText :=
    no_head_of_squeezed (List.forall_mem_singleton.mpr (by decide)) (by decide)
  obtain ⟨hread, hlisted⟩ :=
    @enumeration_of_declaration knowingE mixedDeclaration extraText "\n".toList "declarations" "T" "P_"
      hhead.understands hmember hdoc (.inr hlast) hother
  obtain ⟨re, hcompile, -⟩ := provides_knowingE.1
  rw [show mixedDeclaration.name.text = "E" from rfl, hcompile] at hread
  exact ⟨hhead.understands, hmember, hdoc, hlast, hother, hread, hlisted (by decide) (by decide)⟩

/-! ### What is lost -/

/-- A declaration with a variant whose name has letters beyond ASCII. -/
def umlautDeclaration : Declaration where
  name := { first := 'E', others := [] }
  variants :=
    [{ docs := [],
       indent := fourSpaces,
       name := { first := 'G', others := ['r', 'ö', 'ß', 'e'] },
       value := { negative := false, hexadecimal := false, digits := "1".toList } },
     { docs := [],
       indent := fourSpaces,
       name := { first := 'B', others := [] },
       value := { negative := false, hexadecimal := false, digits := "2".toList } }]
  carriageReturns := false
  closing := { chars := [] }

/-- Not every variant is read: one whose name has letters beyond ASCII is missing among the members. -/
theorem enumeration_misses_variants :
    String.ofList umlautDeclaration.chars = "pub enum E \x7b\n    Größe = 1,\n    B = 2,\n\x7d"
    ∧ umlautDeclaration.variants.map Variant.member = [⟨"Größe", "1", none⟩, ⟨"B", "2", none⟩]
    ∧ @RegexLibrary.Provides knowingE (enumerationPatternText "E") (enumerationPattern ['E'])
    ∧ @RegexLibrary.Provides knowingE memberPatternText memberPattern
    ∧ @RegexLibrary.Provides knowingE docPatternText docPattern
    ∧ @enumeration knowingE (String.ofList umlautDeclaration.chars) "E" "declarations" = .ok [⟨"B", "2", none⟩] := by
  obtain ⟨hhead, hmember, hdoc⟩ := provides_knowingE
  have hnone : ∀ head, IsHead umlautDeclaration.name.chars head → ¬ head <:+: [] := by
    rintro head ⟨g₁, g₂, g₃, -, -, -, rfl⟩ hinfix
    simp at hinfix
  have hread := @enumeration_declared knowingE umlautDeclaration [] [] "declarations" hhead.understands hmember hdoc
    (.inl rfl) hnone
  obtain ⟨re, hcompile, -⟩ := provides_knowingE.1
  rw [show umlautDeclaration.name.text = "E" from rfl, hcompile, List.nil_append, List.append_nil] at hread
  exact ⟨rfl, rfl, hhead, hmember, hdoc, hread⟩

end PacketReinjection.Header
