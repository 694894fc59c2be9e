import PacketReinjection.Text.CharClass

/-!
# `Text.Strings` — lines, white space around a text, and replacement

A line ends at a line feed, and a carriage return right before the line feed belongs to the ending. A
text that ends with a line feed has no empty line after it.

## Contents
- **Lines.** `lines` — the lines without their endings; `joinLines` — lines with a line feed between them.
- **`trim`** — drop the blanks at both ends.
- **Replacement.** `occursIn` — whether a marker occurs in a text; `replaceAll` — every occurrence of a marker
  replaced, from left to right. Occurrences do not overlap, and what was put in is not searched again. The
  empty marker occurs at every place.
-/

namespace PacketReinjection.Text

/-! ## Lines -/

/-- A line from its characters in reverse, without a carriage return at its end. -/
def closeLine : List Char → List Char
  | '\r' :: rest => rest.reverse
  | reversed => reversed.reverse

/-- The lines of a text that goes on from a line begun, whose characters come in reverse. -/
def linesFrom (begun : List Char) : List Char → List (List Char)
  | [] => if begun.isEmpty then [] else [begun.reverse]
  | c :: rest =>
    if c = '\n' then closeLine begun :: linesFrom [] rest else linesFrom (c :: begun) rest

/-- The lines of a text. -/
def lines (text : List Char) : List (List Char) := linesFrom [] text

/-- Lines with a line feed between them. -/
def joinLines (ls : List String) : String := "\n".intercalate ls

/-! ## White space at the ends -/

/-- Drop the blanks at the end. -/
def trimEnd (text : List Char) : List Char := (text.reverse.dropWhile isBlank).reverse

/-- Drop the blanks at both ends. -/
def trim (text : List Char) : List Char := trimEnd (text.dropWhile isBlank)

/-! ## Replacement -/

/-- Whether a marker occurs in a text. -/
def occursIn (marker : List Char) : List Char → Bool
  | [] => marker.isEmpty
  | c :: rest => marker.isPrefixOf (c :: rest) || occursIn marker rest

/-- The text with every occurrence of a nonempty marker replaced, after the first `skipped`
    characters, which belong to an occurrence already replaced. -/
def replaceFrom (marker replacement : List Char) (skipped : Nat) : List Char → List Char
  | [] => []
  | c :: rest =>
    match skipped with
    | skipped + 1 => replaceFrom marker replacement skipped rest
    | 0 =>
      if marker.isPrefixOf (c :: rest) then
        replacement ++ replaceFrom marker replacement (marker.length - 1) rest
      else
        c :: replaceFrom marker replacement 0 rest

/-- The text with every occurrence of a marker replaced. -/
def replaceAll (marker replacement text : List Char) : List Char :=
  if marker.isEmpty then
    replacement ++ text.flatMap fun c => c :: replacement
  else
    replaceFrom marker replacement 0 text

end PacketReinjection.Text
