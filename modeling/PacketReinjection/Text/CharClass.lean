import PacketReinjection.Text.Unicode.Identifier

/-!
# `Text.CharClass` — the character classes that the text scanners know

Each class is decided for all of Unicode, with the answer for ASCII in front of the tables. White space is in
no class of digits or names and no name starts with a digit, so smaller tables are looked at before larger ones.

## Contents
- **`isBlank`** — white space; every blank of core's class is one (`isBlank_of_isWhitespace`).
- **`isDecimal`** — decimal digits of every script.
- **`isWord`** — what a word consists of: letters, marks, digits, connectors and joiners.
- **`isNameStart`**, **`isNamePart`** — what a name in source text starts with and goes on with.
-/

namespace PacketReinjection.Text

open Unicode

/-! ## White space -/

/-- The ranges of white space. -/
def blankRanges : Ranges :=
  [(0x09, 0x0d), (0x20, 0x20), (0x85, 0x85), (0xa0, 0xa0), (0x1680, 0x1680), (0x2000, 0x200a),
    (0x2028, 0x2029), (0x202f, 0x202f), (0x205f, 0x205f), (0x3000, 0x3000)]

/-- Whether a character is white space. -/
def isBlank (c : Char) : Bool := inRanges blankRanges c

theorem isBlank_of_isWhitespace {c : Char} (h : c.isWhitespace = true) : isBlank c = true := by
  simp only [Char.isWhitespace, Bool.or_eq_true, decide_eq_true_eq] at h
  rcases h with ((rfl | rfl) | rfl) | rfl <;> decide

/-! ## Digits -/

/-- The decimal digits of every script. -/
def decimalRanges : Ranges := category "Nd"

/-- Whether a character is a decimal digit of some script. -/
def isDecimal (c : Char) : Bool :=
  if c.toNat < 0x80 then c.isDigit else !isBlank c && inRanges decimalRanges c

/-! ## Words -/

/-- What words consist of: what is written like a letter, marks, decimal digits, connectors and joiners. -/
def wordRanges : Ranges :=
  .unionAll [alphabetic, categories ["Mn", "Mc", "Me", "Nd", "Pc"], listed "Join_Control"]

/-- Whether a character of ASCII is part of a word. -/
def isAsciiWord (c : Char) : Bool := c.isAlphanum || c = '_'

/-- Whether a character is part of a word. -/
def isWord (c : Char) : Bool :=
  if c.toNat < 0x80 then isAsciiWord c else inRanges wordRanges c

/-! ## Names -/

/-- Whether a name can start with a character. -/
def isNameStart (c : Char) : Bool :=
  if c.toNat < 0x80 then c.isAlpha || c = '_' else !isBlank c && !isDecimal c && inRanges nameStarts c

/-- Whether a name can go on with a character. -/
def isNamePart (c : Char) : Bool :=
  if c.toNat < 0x80 then c.isAlphanum || c = '_' else !isBlank c && inRanges nameParts c

end PacketReinjection.Text
