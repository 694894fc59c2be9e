/-!
# `Text.Regex` — libraries for regular expressions

The header generator finds enumerations and tunables with regular expressions, which a library compiles from
their texts. What the generator does is told for any such library. The one that it runs with stands in
`Text.Pattern.Library`.

## Contents
- **`Captures`** — what a match leaves.
- **`Regex`** — a compiled expression, by what it finds in a text.
- **`RegexLibrary`** — what compiles expressions.
-/

namespace PacketReinjection.Text

/-- What a match leaves: the text of each group that took part in it, by the group's number. Group 0 is the
    whole match. -/
abbrev Captures := Nat → Option (List Char)

/-- A compiled expression. -/
structure Regex where
  /-- What the leftmost match in a text leaves. -/
  captures : List Char → Option Captures
  /-- What the matches in a text leave, from left to right. -/
  capturesIter : List Char → List Captures

/-- A library that compiles expressions. -/
class RegexLibrary where
  /-- The expression of a text, or the library's error as it is shown where the generator gives up. -/
  compile : String → Except String Regex

end PacketReinjection.Text
