import PacketReinjection.Text.Unicode.Later
import PacketReinjection.Tunable.Token.Blank

/-!
# `Tunable.Token.Documentation` — comments of documentation

A comment of documentation is read as an attribute that holds its text as a string.

## Contents
- **`Documentation`** — the text, and whether it is about what it stands in.
- **`docComment?`** — the comment of documentation that a text starts with.
- **`Documentation.literal`** — the text as it is written in quotes.
-/

namespace PacketReinjection.Tunable.Token

open Text

/-- A comment of documentation. -/
structure Documentation where
  text : List Char
  /-- It is about what it stands in, not about what follows. -/
  inner : Bool
  deriving DecidableEq

/-! ## Reading -/

/-- Whether every carriage return of a text belongs to the end of a line. -/
def returnsEndLines : List Char → Bool
  | '\r' :: '\n' :: rest => returnsEndLines rest
  | '\r' :: _ => false
  | _ :: rest => returnsEndLines rest
  | [] => true

/-- The text of a line without the carriage return of its ending. -/
def lineText (text : List Char) : List Char :=
  let line := text.takeWhile (· ≠ '\n')
  if (afterLine text).isEmpty || line.getLast? ≠ some '\r' then line else line.dropLast

/-- A comment that takes the rest of a line, behind its sign. -/
def lineComment (inner : Bool) (text : List Char) : Documentation × List Char :=
  (⟨lineText text, inner⟩, afterLine text)

/-- A comment between slashes and stars, with its sign of three characters. -/
def blockComment? (inner : Bool) (text : List Char) : Option (Documentation × List Char) :=
  (afterBlock? 0 text).map fun rest =>
    let whole := text.take (text.length - rest.length)
    (⟨(whole.take (whole.length - 2)).drop 3, inner⟩, rest)

/-- A comment of documentation and the text behind it. A carriage return in it has to end a line. -/
def docComment? (text : List Char) : Option (Documentation × List Char) := do
  let (d, rest) ←
    if "//!".toList.isPrefixOf text then some (lineComment true (text.drop 3))
    else if "/*!".toList.isPrefixOf text then blockComment? true text
    else if "///".toList.isPrefixOf text && !"////".toList.isPrefixOf text then
      some (lineComment false (text.drop 3))
    else if "/**".toList.isPrefixOf text && !"/***".toList.isPrefixOf text
        && !"/**/".toList.isPrefixOf text then blockComment? false text
    else none
  if returnsEndLines d.text then some (d, rest) else none

/-! ## Writing -/

/-- A character by its number. -/
def numberEscape (c : Char) : List Char :=
  "\\u\x7b".toList ++ Nat.toDigits 16 c.toNat ++ ['\x7d']

/-- A character in quotes, `rest` being what follows it. A null character before a digit of base 8 is written
    at full length. -/
def escaped (c : Char) (rest : List Char) : List Char :=
  match c with
  | '\x00' => if rest.head?.any fun d => '0' ≤ d && d ≤ '7' then "\\x00".toList else "\\0".toList
  | '\t' => "\\t".toList
  | '\r' => "\\r".toList
  | '\n' => "\\n".toList
  | '"' => "\\\"".toList
  | '\\' => "\\\\".toList
  | c => if c.toNat < 0x7f && 0x20 ≤ c.toNat || !Unicode.inRanges Unicode.shapeless c then [c] else numberEscape c

/-- A text between quotes. -/
def escapedText : List Char → List Char
  | [] => []
  | c :: rest => escaped c rest ++ escapedText rest

/-- The text as it is written in quotes. -/
def Documentation.literal (d : Documentation) : String :=
  String.ofList ('"' :: escapedText d.text ++ ['"'])

end PacketReinjection.Tunable.Token
