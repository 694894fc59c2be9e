import PacketReinjection.Header.Enumeration
import PacketReinjection.Proofs.Header.HeadPattern

/-!
# `Proofs.Header.Declaration` — declarations of enumerations, and their text

A declaration has a line for every line of documentation and one for every variant. Of each variant it is known which
member the scanner should make of it, and whether its name is one that the scanner reads at all: names of the letters,
digits and underscores of ASCII are, all others are not.

## Contents
- **`Identifier`**, **`ValueSpelling`**, **`Indent`**, **`DocLine`**, **`Variant`**, **`Declaration`** — the parts, each
  with its characters.
- **`Variant.member`**, **`Declaration.members`** — what the scanner should find.
- **Characters.** Which ones are in no name, number, line or body: `not_mem_chars`, `not_mem_line`,
  `brace_not_mem_body`.
-/

namespace PacketReinjection.Header

open Text Pattern Tunable

/-! ## Names -/

/-- Whether a name may have a character: one of the words of ASCII, the mark of raw names, or any character beyond ASCII
    that is no white space. -/
def isNameChar (c : Char) : Bool := if c.toNat < 0x80 then isAsciiWord c || c = '#' else !isBlank c

/-- A name as it is written, in any script, a raw one with its mark. -/
structure Identifier where
  first : Char
  others : List Char
  written : (first :: others).all isNameChar := by decide

namespace Identifier

/-- The characters of a name. -/
def chars (i : Identifier) : List Char := i.first :: i.others

theorem ne_nil (i : Identifier) : i.chars ≠ [] := List.cons_ne_nil _ _

theorem isNameChar_of_mem (i : Identifier) : ∀ c ∈ i.chars, isNameChar c := List.all_eq_true.mp i.written

/-- A name as a text. -/
def text (i : Identifier) : String := String.ofList i.chars

/-- Whether a name has letters, digits and underscores of ASCII only, and no digit in front. -/
def isPlain (i : Identifier) : Bool := nameStartSet.contains i.first && i.others.all namePartSet.contains

end Identifier

/-! ## Values -/

/-- A number as it is spelt: a minus sign or none, and decimal digits, or hexadecimal ones behind their mark. -/
structure ValueSpelling where
  negative : Bool
  hexadecimal : Bool
  digits : List Char
  digits_ne_nil : digits ≠ [] := by decide
  spelt : digits.all (if hexadecimal then hexadecimalSet else .decimal).contains := by decide

namespace ValueSpelling

/-- The number without its sign. -/
def magnitude (v : ValueSpelling) : List Char := (if v.hexadecimal then "0x".toList else []) ++ v.digits

theorem digit (v : ValueSpelling) :
    ∀ c ∈ v.digits, (if v.hexadecimal then hexadecimalSet else .decimal).contains c :=
  List.all_eq_true.mp v.spelt

/-- The characters of a number. -/
def chars (v : ValueSpelling) : List Char := (if v.negative then ['-'] else []) ++ v.magnitude

/-- A number as a text. -/
def text (v : ValueSpelling) : String := String.ofList v.chars

end ValueSpelling

/-! ## Lines -/

/-- White space within a line. -/
structure Indent where
  chars : List Char
  blank : Blank chars := by decide
  inLine : '\n' ∉ chars := by decide

/-- A line of documentation: white space, three slashes and a text without closing braces. -/
structure DocLine where
  indent : Indent
  text : List Char
  inLine : '\n' ∉ text := by decide
  unclosed : '\x7d' ∉ text := by decide

/-- The characters of a line of documentation. -/
def DocLine.chars (d : DocLine) : List Char := d.indent.chars ++ ("///".toList ++ d.text)

/-- A variant with its documentation. -/
structure Variant where
  docs : List DocLine
  indent : Indent
  name : Identifier
  value : ValueSpelling

namespace Variant

/-- The line that the variant itself is on. -/
def line (v : Variant) : List Char :=
  v.indent.chars ++ (v.name.chars ++ (' ' :: '=' :: ' ' :: (v.value.chars ++ [','])))

/-- The lines of a variant. -/
def lines (v : Variant) : List (List Char) := v.docs.map DocLine.chars ++ [v.line]

/-- The documentation of a variant: what is behind the slashes, trimmed, with single spaces between the lines. -/
def doc (v : Variant) : Option String :=
  if v.docs.isEmpty then none else some (" ".intercalate (v.docs.map fun d => String.ofList (trim d.text)))

/-- The member that a variant declares. -/
def member (v : Variant) : EnumMember := ⟨v.name.text, v.value.text, v.doc⟩

end Variant

/-! ## Declarations -/

/-- An enumeration as it is declared. Its lines end with line feeds, or all with carriage returns in front of them. -/
structure Declaration where
  name : Identifier
  variants : List Variant
  carriageReturns : Bool
  /-- What is in front of the closing brace. -/
  closing : Indent

/-- A line up to its line feed. -/
def withReturn (carriageReturns : Bool) (line : List Char) : List Char :=
  if carriageReturns then line ++ ['\r'] else line

namespace Declaration

/-- The lines between the braces, the first being what is left of the line of the opening brace. -/
def lines (d : Declaration) : List (List Char) := [] :: d.variants.flatMap Variant.lines

/-- The text between the braces. -/
def body (d : Declaration) : List Char :=
  (d.lines.map (withReturn d.carriageReturns)).flatMap (· ++ ['\n']) ++ d.closing.chars

/-- The characters of a declaration, up to its closing brace. -/
def chars (d : Declaration) : List Char :=
  "pub".toList ++ (' ' :: ("enum".toList ++ (' ' :: (d.name.chars ++ (' ' :: '\x7b' :: (d.body ++ ['\x7d']))))))

/-- The variants with plain names. -/
def plainVariants (d : Declaration) : List Variant := d.variants.filter (·.name.isPlain)

/-- The members that the variants with plain names declare. -/
def members (d : Declaration) : List EnumMember := d.plainVariants.map Variant.member

end Declaration

/-! ## Characters -/

variable {c : Char}

theorem isBlank_of_isNamePart (h : isNamePart c) : isBlank c = false := by
  rw [Bool.eq_false_iff]
  intro hblank
  exact Bool.false_ne_true ((isNamePart_of_separates (separates_of_isBlank hblank)).symm.trans h)

theorem isBlank_of_isNameChar (h : isNameChar c) : isBlank c = false := by
  unfold isNameChar at h
  split at h
  · rcases Bool.or_eq_true_iff.mp h with hword | hmark
    · exact isBlank_of_isNamePart (isNamePart_of_isAsciiWord hword)
    · rw [of_decide_eq_true hmark]
      decide
  · simpa using h

/-- No character of a name is an opening brace, and none is white space. -/
theorem Identifier.stands (i : Identifier) : ∀ c ∈ i.chars, c ≠ '\x7b' ∧ isBlank c = false :=
  fun c hc => ⟨ne_of_class (i.isNameChar_of_mem c hc) (by decide),
    isBlank_of_isNameChar (i.isNameChar_of_mem c hc)⟩

theorem Identifier.not_mem_chars (i : Identifier) (h : isNameChar c = false) : c ∉ i.chars :=
  fun hc => Bool.false_ne_true (h.symm.trans (i.isNameChar_of_mem c hc))

/-- Whether numbers are spelt with a character. -/
def isNumeral (c : Char) : Bool := hexadecimalSet.contains c || isDecimal c || c = '-' || c = 'x'

theorem ValueSpelling.isNumeral_of_mem_digits (v : ValueSpelling) (hc : c ∈ v.digits) : isNumeral c = true := by
  have hdigit := v.digit c hc
  cases hcase : v.hexadecimal with
  | true =>
    have hhexadecimal : hexadecimalSet.contains c = true := by simpa [hcase] using hdigit
    simp [isNumeral, hhexadecimal]
  | false =>
    have hdecimal : isDecimal c = true := by
      rw [hcase] at hdigit
      exact hdigit
    simp [isNumeral, hdecimal]

/-- Signs and marks are no digits. -/
theorem ValueSpelling.not_mem_digits (v : ValueSpelling) (hhexadecimal : hexadecimalSet.contains c = false)
    (hdecimal : isDecimal c = false) : c ∉ v.digits := by
  intro hc
  have hdigit := v.digit c hc
  cases hcase : v.hexadecimal with
  | true =>
    rw [hcase] at hdigit
    exact Bool.false_ne_true (hhexadecimal.symm.trans hdigit)
  | false =>
    rw [hcase] at hdigit
    exact Bool.false_ne_true (hdecimal.symm.trans hdigit)

theorem ValueSpelling.isNumeral_of_mem_chars (v : ValueSpelling) (hc : c ∈ v.chars) : isNumeral c = true := by
  rcases List.mem_append.mp hc with hsign | hmagnitude
  · cases hnegative : v.negative with
    | true =>
      obtain rfl : c = '-' := by simpa [hnegative] using hsign
      decide
    | false => simp [hnegative] at hsign
  · rcases List.mem_append.mp hmagnitude with hmark | hdigit
    · cases hhexadecimal : v.hexadecimal with
      | true =>
        obtain rfl | rfl : c = '0' ∨ c = 'x' := by simpa [hhexadecimal] using hmark
        · decide
        · decide
      | false => simp [hhexadecimal] at hmark
    · exact v.isNumeral_of_mem_digits hdigit

theorem ValueSpelling.not_mem_chars (v : ValueSpelling) (h : isNumeral c = false) : c ∉ v.chars :=
  fun hc => Bool.false_ne_true (h.symm.trans (v.isNumeral_of_mem_chars hc))

theorem isAsciiWord_of_hexadecimal (h : hexadecimalSet.contains c) : isAsciiWord c = true := by
  simp only [hexadecimalSet, CharSet.contains, Bool.or_eq_true, Bool.and_eq_true, decide_eq_true_eq] at h
  rcases h with (⟨h0, h9⟩ | ⟨hA, hF⟩) | ⟨ha, hf⟩
  · exact isAsciiWord_of_isDigit (Char.isDigit_iff_toNat.mpr ⟨h0, h9⟩)
  · have hletter : c.isAlpha = true := isAlpha_iff.mpr (.inl ⟨hA, Nat.le_trans hF (by decide)⟩)
    simp [isAsciiWord, Char.isAlphanum, hletter]
  · have hletter : c.isAlpha = true := isAlpha_iff.mpr (.inr ⟨ha, Nat.le_trans hf (by decide)⟩)
    simp [isAsciiWord, Char.isAlphanum, hletter]

/-- No character of a number is white space. -/
theorem isBlank_of_isNumeral (h : isNumeral c) : isBlank c = false := by
  simp only [isNumeral, Bool.or_eq_true, decide_eq_true_eq] at h
  rcases h with ((hhexadecimal | hdecimal) | rfl) | rfl
  · exact isBlank_of_isNamePart (isNamePart_of_isAsciiWord (isAsciiWord_of_hexadecimal hhexadecimal))
  · rw [Bool.eq_false_iff]
    intro hblank
    exact Bool.false_ne_true ((isDecimal_of_separates (separates_of_isBlank hblank)).symm.trans hdecimal)
  · decide
  · decide

theorem Indent.not_mem (i : Indent) (h : isBlank c = false) : c ∉ i.chars :=
  fun hc => Bool.false_ne_true (h.symm.trans (i.blank c hc))

namespace Variant

variable (v : Variant)

theorem not_mem_line (hindent : c ∉ v.indent.chars) (hname : isNameChar c = false) (hnumeral : isNumeral c = false)
    (hmark : c ∉ [' ', '=', ',']) : c ∉ v.line := by
  simp only [List.mem_cons, List.not_mem_nil, or_false, not_or] at hmark
  obtain ⟨hspace, hequals, hcomma⟩ := hmark
  simp only [line, List.mem_append, List.mem_cons, List.not_mem_nil, or_false, not_or]
  exact ⟨hindent, v.name.not_mem_chars hname, hspace, hequals, hspace, v.value.not_mem_chars hnumeral, hcomma⟩

theorem not_mem_lines (hdocs : ∀ d ∈ v.docs, c ∉ d.chars) (hline : c ∉ v.line) : ∀ l ∈ v.lines, c ∉ l := by
  intro l hl
  rcases List.mem_append.mp hl with hdoc | hl
  · obtain ⟨d, hd, rfl⟩ := List.mem_map.mp hdoc
    exact hdocs d hd
  · obtain rfl := List.mem_singleton.mp hl
    exact hline

theorem newline_not_mem_lines : ∀ l ∈ v.lines, '\n' ∉ l := by
  refine v.not_mem_lines (fun d _ => ?_) (v.not_mem_line v.indent.inLine (by decide) (by decide) (by decide))
  simp only [DocLine.chars, List.mem_append, not_or]
  exact ⟨d.indent.inLine, by decide, d.inLine⟩

theorem brace_not_mem_lines : ∀ l ∈ v.lines, '\x7d' ∉ l := by
  have hline : '\x7d' ∉ v.line :=
    v.not_mem_line (v.indent.not_mem (by decide)) (by decide) (by decide) (by decide)
  refine v.not_mem_lines (fun d _ => ?_) hline
  simp only [DocLine.chars, List.mem_append, not_or]
  exact ⟨d.indent.not_mem (by decide), by decide, d.unclosed⟩

end Variant

namespace Declaration

variable (d : Declaration)

/-- Apart from carriage returns, the lines have the characters of the variants. -/
theorem not_mem_lines (hc : c ≠ '\r') (h : ∀ v ∈ d.variants, ∀ l ∈ v.lines, c ∉ l) :
    ∀ l ∈ d.lines.map (withReturn d.carriageReturns), c ∉ l := by
  intro l hl
  obtain ⟨k, hk, rfl⟩ := List.mem_map.mp hl
  have hline : c ∉ k := by
    rcases List.mem_cons.mp hk with rfl | hk
    · exact List.not_mem_nil
    · obtain ⟨v, hv, hk⟩ := List.mem_flatMap.mp hk
      exact h v hv k hk
  cases d.carriageReturns with
  | true => simp [withReturn, hline, hc]
  | false => exact hline

theorem newline_not_mem_lines : ∀ l ∈ d.lines.map (withReturn d.carriageReturns), '\n' ∉ l :=
  d.not_mem_lines (by decide) fun v _ => v.newline_not_mem_lines

/-- Only the brace behind the body is a closing one. -/
theorem brace_not_mem_body : '\x7d' ∉ d.body := by
  have hlines := d.not_mem_lines (by decide) fun v _ => v.brace_not_mem_lines
  intro hmem
  rcases List.mem_append.mp hmem with hmem | hclosing
  · obtain ⟨l, hl, hmem⟩ := List.mem_flatMap.mp hmem
    rcases List.mem_append.mp hmem with hmem | hbreak
    · exact hlines l hl hmem
    · exact absurd hbreak (by decide)
  · exact d.closing.not_mem (by decide) hclosing

end Declaration

end PacketReinjection.Header
