import PacketReinjection.Text.CharClass
import PacketReinjection.Text.Pattern.Fault

/-!
# `Text.Pattern.Cursor` — moving through the text of a pattern

A cursor stands before the part of the text that has not been read. In a verbose pattern blanks and comments
between the signs count for nothing; a comment goes from `#` to the end of its line.

## Contents
- **`Cursor`** — the text left and where it stands.
- **`advance`**, **`skipBlanks`**, **`next`** — moving on.
- **`peek`**, **`peekSpaced`** — the character behind the next.
- **`takeSign?`** — moving past a sign of several characters.
-/

namespace PacketReinjection.Text

/-- A place in the text of a pattern, and what is left from there. -/
structure Cursor where
  rest : List Char
  position : Position
  /-- Blanks and comments count for nothing. -/
  verbose : Bool
  deriving DecidableEq

namespace Cursor

/-- The start of a text. -/
def start (text : List Char) : Cursor := ⟨text, .start, false⟩

/-- The next character. -/
def head? (k : Cursor) : Option Char := k.rest.head?

/-- Whether nothing is left. -/
def atEnd (k : Cursor) : Bool := k.rest.isEmpty

/-- One character further. -/
def advance (k : Cursor) : Cursor :=
  match k.rest with
  | [] => k
  | c :: rest => { k with rest, position := k.position.after c }

/-- Several characters further. -/
def advanceBy (k : Cursor) : Nat → Cursor
  | 0 => k
  | n + 1 => k.advance.advanceBy n

/-- The text behind blanks and comments, and where it starts. -/
def blanksFrom (inComment : Bool) (p : Position) : List Char → List Char × Position
  | [] => ([], p)
  | c :: rest =>
    if inComment then blanksFrom (c ≠ '\n') (p.after c) rest
    else if isBlank c then blanksFrom false (p.after c) rest
    else if c = '#' then blanksFrom true (p.after c) rest
    else (c :: rest, p)

/-- Behind the blanks and comments, if they count for nothing. -/
def skipBlanks (k : Cursor) : Cursor :=
  if k.verbose then
    let r := blanksFrom false k.position k.rest
    { k with rest := r.1, position := r.2 }
  else k

/-- One character further and behind the blanks. -/
def next (k : Cursor) : Cursor := k.advance.skipBlanks

/-- What lies between an earlier place and this one. -/
def since (k : Cursor) (start : Position) : Span := ⟨start, k.position⟩

/-- The place itself. -/
def here (k : Cursor) : Span := .point k.position

/-- The span of the next character. -/
def nextSpan (k : Cursor) : Span :=
  ⟨k.position, (k.head?.map k.position.after).getD k.position⟩

/-- The character behind the next. -/
def peek (k : Cursor) : Option Char := k.advance.head?

/-- The first character behind the next that is no blank, a sign of a comment being passed over. Of a rest
    that is blank it is the first character. -/
def peekSpaced (k : Cursor) : Option Char :=
  if k.verbose then
    let behind := k.advance.rest
    let signs := behind.dropWhile isBlank
    let shown :=
      match signs with
      | '#' :: comment => comment.dropWhile isBlank
      | _ => signs
    shown.head? <|> behind.head?
  else k.peek

/-- Past a sign, if the text goes on with it. -/
def takeSign? (k : Cursor) (sign : String) : Option Cursor :=
  if sign.toList.isPrefixOf k.rest then some (k.advanceBy sign.toList.length) else none

end Cursor

end PacketReinjection.Text
