/-!
# `Tunable.Syntax` — libraries for syntax

A declaration is not read from its characters: a library cuts its text into tokens and takes names, punctuation, types
and literals from the front of them. What the declaration's reader does is told for any such library. The one that it
runs with stands in `Tunable.Library`.

## Contents
- **`SyntaxLibrary`** — rows of tokens, and what can be taken from them.
-/

namespace PacketReinjection.Tunable

/-- A library that cuts texts into tokens and takes them one after the other. What it takes comes with the row that is
    left. -/
class SyntaxLibrary where
  /-- A row of tokens, as far as it is left. -/
  Row : Type
  /-- The tokens of a text, if it can be cut into tokens. -/
  row? : String → Option Row
  /-- A name, as it is written out. -/
  name? : Row → Option (String × Row)
  /-- A punctuation character. -/
  mark? : Char → Row → Option Row
  /-- A type, as the text of its tokens. -/
  type? : Row → Option (String × Row)
  /-- A string literal, as what it stands for. -/
  string? : Row → Option (String × Row)
  /-- An integer literal, as the digits of its value in base 10. -/
  integer? : Row → Option (String × Row)
  /-- Whether a punctuation character comes next. -/
  startsWith : Char → Row → Bool
  /-- Whether no token is left. -/
  atEnd : Row → Bool
  /-- Whether no token is left, and none between brackets that have been taken. -/
  finished : Row → Bool

end PacketReinjection.Tunable
