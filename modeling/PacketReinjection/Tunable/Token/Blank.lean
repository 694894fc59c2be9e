import PacketReinjection.Text.CharClass

/-!
# `Tunable.Token.Blank` — what stands between tokens

Blanks and comments separate tokens. Comments of documentation are no gaps: those that start with three
slashes or with a slash and two stars, and no more of either, or with an exclamation mark in the third
place.

## Contents
- **`isGap`** — the characters that separate tokens.
- **Comments.** `afterLine`, `afterBlock?`, `startsLineComment`, `startsBlockComment`.
- **`skipGap?`** — the text after blanks and comments; a comment that is not closed is refused.
-/

namespace PacketReinjection.Tunable.Token

open Text

/-- Whether a character separates tokens: a blank, or a mark of writing direction. -/
def isGap (c : Char) : Bool :=
  if c.toNat < 0x80 then c = ' ' || (0x09 ≤ c.toNat && c.toNat ≤ 0x0d)
  else isBlank c || c = '\u200e' || c = '\u200f'

/-! ## Comments -/

/-- The text from the end of the line on. -/
def afterLine (text : List Char) : List Char := text.dropWhile (· ≠ '\n')

/-- The text behind a comment between slashes and stars, `depth` comments being open. Such comments
    hold others of their kind. -/
def afterBlock? (depth : Nat) : List Char → Option (List Char)
  | '/' :: '*' :: rest => afterBlock? (depth + 1) rest
  | '*' :: '/' :: rest =>
    match depth with
    | 0 | 1 => some rest
    | depth + 2 => afterBlock? (depth + 1) rest
  | _ :: rest => afterBlock? depth rest
  | [] => none

/-- Whether a text starts with a comment that is no documentation, of one line. -/
def startsLineComment (text : List Char) : Bool :=
  "//".toList.isPrefixOf text && !"//!".toList.isPrefixOf text
    && (!"///".toList.isPrefixOf text || "////".toList.isPrefixOf text)

/-- Whether a text starts with a comment that is no documentation, between slashes and stars. -/
def startsBlockComment (text : List Char) : Bool :=
  "/*".toList.isPrefixOf text && !"/*!".toList.isPrefixOf text
    && (!"/**".toList.isPrefixOf text || "/***".toList.isPrefixOf text
      || "/**/".toList.isPrefixOf text)

/-! ## Gaps -/

/-- The text after the blanks and comments that it starts with. -/
def skipGap? (text : List Char) : Option (List Char) :=
  match text with
  | [] => some []
  | c :: rest =>
    if isGap c then skipGap? rest
    else if startsLineComment (c :: rest) then
      if _h : (afterLine rest).length ≤ rest.length then skipGap? (afterLine rest) else none
    else if startsBlockComment (c :: rest) then
      match afterBlock? 0 (c :: rest) with
      | some after => if _h : after.length ≤ rest.length then skipGap? after else none
      | none => none
    else some (c :: rest)
termination_by text.length
decreasing_by all_goals simp_all; try omega

end PacketReinjection.Tunable.Token
