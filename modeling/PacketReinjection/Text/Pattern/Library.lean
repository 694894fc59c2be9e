import PacketReinjection.Text.Pattern.Depth
import PacketReinjection.Text.Pattern.Meaning
import PacketReinjection.Text.Pattern.Reader
import PacketReinjection.Text.Pattern.Room
import PacketReinjection.Text.Pattern.Search

/-!
# `Text.Pattern.Library` — the library for regular expressions that the generator runs with

## Contents
- **`Pattern.read`** — a pattern from its text, by way of the pattern as it is written, with its flags spelt
  out (`Pattern.ofWritten`).
- **`Pattern.toRegex`** — a pattern as a compiled expression.
- The library itself, as an instance.
-/

namespace PacketReinjection.Text

namespace Pattern

/-- What a written pattern means. -/
def ofWritten (w : Written) : Except PatternError Pattern := do
  w.checkDepth 0
  return (← w.meaning .start).1

/-- Read the text of a pattern. Faults of the text come before parts that stand too deep, those before parts
    without a meaning, and those before the room that the pattern takes. -/
def read (text : List Char) : Except PatternError Pattern := do
  let p ← ofWritten (← Written.read text)
  if p.fits then return p else throw (.tooLarge roomLimit)

/-- A pattern as a compiled expression. Its program is written once, however many texts are searched. -/
def toRegex (p : Pattern) : Regex :=
  let code := p.toProgram
  { captures := fun text => (findFrom code (Spot.start text)).map Spot.captures
    capturesIter := fun text =>
      (findAllFrom code (text.length + 1) (Spot.start text)).map Spot.captures }

end Pattern

instance : RegexLibrary where
  compile text :=
    match Pattern.read text.toList with
    | .ok p => .ok p.toRegex
    | .error error => .error (error.render text)

end PacketReinjection.Text
