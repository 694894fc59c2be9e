import PacketReinjection.Proofs.Tunable.Pieces
import PacketReinjection.Tunable.Syntax

/-!
# `Proofs.Tunable.Syntax` — libraries that read pieces as what they are

What a library for syntax is taken to do: of a text of pieces that do not run into each other it takes one piece after
the other, whatever white space is around them. A name is taken as it is spelt, a string as its characters, an integer
as its value in base 10, and a type of one word up to the comma behind it. Nothing is taken for granted of other texts,
and a library may refuse these.

## Contents
- **`ReadsAs`** — a row from which pieces are taken.
- **`SyntaxLibrary.Understands`** — a library whose rows are such.
-/

namespace PacketReinjection.Tunable

variable [SyntaxLibrary]

open SyntaxLibrary

/-- What can be taken from a row are these pieces, in their order, and then nothing. -/
def ReadsAs : List Piece → Row → Prop
  | [], s => atEnd s = true ∧ startsWith ',' s = false
  | .word w :: pieces, s => atEnd s = false ∧ startsWith ',' s = false
      ∧ (∀ name t, name? s = some (name, t) → (w.isAscii → name = String.ofList w.chars) ∧ ReadsAs pieces t)
      ∧ ∀ type t, (∃ h rest, pieces = .mark ',' h :: rest) → type? s = some (type, t) → ReadsAs pieces t
  | .mark c _ :: pieces, s => atEnd s = false ∧ startsWith ',' s = decide (c = ',')
      ∧ ∀ t, mark? c s = some t → ReadsAs pieces t
  | .string q :: pieces, s => atEnd s = false ∧ startsWith ',' s = false
      -- In a string, a carriage return in front of a line feed is left out.
      ∧ ∀ value t, string? s = some (value, t) →
          ('\r' ∉ q.chars → value = String.ofList q.chars) ∧ ReadsAs pieces t
  | .number n :: pieces, s => atEnd s = false ∧ startsWith ',' s = false
      ∧ ∀ digits t, integer? s = some (digits, t) → digits = Nat.repr n.value ∧ ReadsAs pieces t

/-- If the library cuts a text of pieces into tokens at all, they are taken as the pieces. -/
def SyntaxLibrary.Understands : Prop :=
  ∀ pieces text row, Piece.Apart pieces → Spaced (pieces.map Piece.chars) text →
    row? (String.ofList text) = some row → ReadsAs pieces row

end PacketReinjection.Tunable
