/-!
# `Text.Pattern.Position` — places in the text of a pattern

## Contents
- **`Position`** — a place between two characters, with its line and column.
- **`Span`** — what lies between two places.
-/

namespace PacketReinjection.Text

/-- A place between two characters of a text. -/
structure Position where
  /-- The number of characters before the place. -/
  offset : Nat
  /-- The line, the first being 1. -/
  line : Nat
  /-- The column of the character after the place, the first being 1. -/
  column : Nat
  deriving DecidableEq

namespace Position

/-- The place before a text. -/
def start : Position := ⟨0, 1, 1⟩

/-- The place behind a character. -/
def after (p : Position) (c : Char) : Position :=
  if c = '\n' then ⟨p.offset + 1, p.line + 1, 1⟩ else ⟨p.offset + 1, p.line, p.column + 1⟩

end Position

/-- What lies between two places of a text. -/
structure Span where
  start : Position
  finish : Position
  deriving DecidableEq

namespace Span

/-- Nothing, at a place. -/
def point (p : Position) : Span := ⟨p, p⟩

/-- Whether both places are on one line. -/
def isOneLine (s : Span) : Bool := s.start.line = s.finish.line

/-- The number of columns that are marked for a span of one line; at least one. -/
def width (s : Span) : Nat := max 1 (s.finish.column - s.start.column)

end Span

end PacketReinjection.Text
