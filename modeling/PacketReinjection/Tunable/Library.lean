import PacketReinjection.Tunable.Syntax
import PacketReinjection.Tunable.Token.Lexeme
import PacketReinjection.Tunable.TypeForm.Type

/-!
# `Tunable.Library` — the library for syntax that declarations are read with

## Contents
- **`Reading.take?`** — a single token, as the value that there is for it.
- The library itself, as an instance.
-/

namespace PacketReinjection.Tunable

/-- The first token, as the value that `select` has for it. -/
def Reading.take? {α : Type} (select : Token → Option α) (s : Reading) : Option (α × Reading) :=
  match s.rest with
  | t :: rest => (select t).map fun a => (a, { s with rest := rest })
  | [] => none

instance : SyntaxLibrary where
  Row := Reading
  row? text := (Token.ofText? text).map fun tokens => ⟨tokens, "", false⟩
  name? := Reading.take? fun t => if Token.startsName [t] then some t.render else none
  mark? c s := (Grammar.marks c.toString s).map (·.2)
  type? s := (Grammar.captured typeForm s).map fun ((_, text), t) => (text, t)
  string? := Reading.take? fun
    | .literal _ (.text value) => some value
    | _ => none
  integer? := Reading.take? fun
    | .literal _ (.integer value _) => some (toString value)
    | _ => none
  startsWith c s := Token.startsWith c.toString s.rest
  atEnd s := s.rest.isEmpty
  finished s := s.rest.isEmpty && !s.loose

end PacketReinjection.Tunable
