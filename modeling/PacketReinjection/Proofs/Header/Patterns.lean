import PacketReinjection.Header.Enumeration
import PacketReinjection.Text.Pattern.Basic

/-!
# `Proofs.Header.Patterns` — what the expressions of the enumeration scanner stand for

The scanner has one expression for the head and the body of an enumeration, with the name in it, and two for the lines
of a body. Each is written down here as the pattern that its text stands for.

## Contents
- **`enumerationPattern`** — for the enumeration of a name whose characters stand for themselves.
- **`docPattern`**, **`memberPattern`** — for lines.
- **`groupOf_captures`** — what a match leaves of a group.
-/

namespace PacketReinjection.Header

open Text Pattern

/-! ## Enumerations -/

/-- Characters that stand for themselves, one after the other. -/
def charParts (cs : List Char) : List Pattern := cs.map fun c => .one (.char c)

/-- The enumeration of a name, with its body as group 1. A body may have line feeds. -/
def enumerationPattern (name : List Char) : Pattern :=
  .sequence
    [.anchor (.word .edge), .literal "pub", .many1 .blank, .literal "enum", .many1 .blank,
      .sequence (charParts name), .blanks, .one (.char '\x7b'), .group 1 (.few .any), .one (.char '\x7d')]

/-! ## Lines -/

/-- A line of documentation, with its text as group 1. -/
def docPattern : Pattern :=
  .sequence
    [.anchor .textStart, .blanks, .literal "///", .optional (.one .blank), .group 1 (.many .inLine),
      .anchor .textEnd]

/-- The letters of ASCII and the underscore. -/
def nameStartSet : CharSet := .union (.union (.range 'A' 'Z') (.range 'a' 'z')) (.char '_')

/-- The letters and digits of ASCII and the underscore. -/
def namePartSet : CharSet := .union nameStartSet (.range '0' '9')

/-- The hexadecimal digits. -/
def hexadecimalSet : CharSet :=
  .union (.union (.range '0' '9') (.range 'A' 'F')) (.range 'a' 'f')

/-- The line of a member, with its name as group 1 and its number as group 2. -/
def memberPattern : Pattern :=
  .sequence
    [.anchor .textStart, .blanks,
      .group 1 (.seq (.one nameStartSet) (.many namePartSet)), .blanks, .literal "=", .blanks,
      .group 2 (.seq (.optional (.literal "-"))
        (.alt (.seq (.literal "0x") (.many1 hexadecimalSet)) (.many1 .decimal))),
      .blanks, .optional (.literal ","), .blanks, .anchor .textEnd]

/-! ## Groups -/

/-- A group that took part in a match is there. -/
theorem groupOf_captures {t : Spot} {index : Nat} {run : List Char} (h : t.group? (index + 1) = some run) :
    groupOf t.captures (index + 1) = .ok run := by
  have hcaptured : t.captures (index + 1) = some run := h
  rw [groupOf, hcaptured]

end PacketReinjection.Header
