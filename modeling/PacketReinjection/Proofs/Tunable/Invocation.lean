import PacketReinjection.Proofs.Tunable.Pieces
import PacketReinjection.Text.Pattern.Basic

/-!
# `Proofs.Tunable.Invocation` — declarations in a source text

A declaration stands between the parentheses of an invocation, in any spacing. What is written there has a value, and
its decimal digits have one of their own.

## Contents
- **`Ending`**, **`Invocation`** — the parts of an invocation, with its pieces.
- **`invocation`** — the text around its arguments; `Invocation.WrittenAs` — these, with any white space.
-/

namespace PacketReinjection.Tunable

open Text

/-! ## Invocations -/

/-- The end of an invocation. -/
def closing : List Char := [')', ';']

/-- An invocation with some text between its parentheses. -/
def invocation (gap arguments : List Char) : List Char :=
  "define_env_constant!".toList ++ (gap ++ '(' :: (arguments ++ closing))

/-- What stands behind the default. -/
inductive Ending where
  | bare
  | comma
  | least (n : IntegerSpelling)

namespace Ending

/-- The word of a minimum. -/
def leastWord : Word := .ofAscii 'm' ['i', 'n'] (by decide) (by decide) (by decide)

/-- The pieces of an ending. -/
def pieces : Ending → List Piece
  | bare => []
  | comma => [.mark ',' (by decide)]
  | least n => [.mark ',' (by decide), .word leastWord, .mark '=' (by decide), .number n]

/-- The least value that an ending gives. -/
def value : Ending → Nat
  | least n => n.value
  | bare | comma => 1

/-- The least value that the digits of an ending give. -/
def shown : Ending → Nat
  | least n => n.shown
  | bare | comma => 1

/-- An ending starts with a mark. -/
theorem head_isMark (e : Ending) (p : Piece) (h : e.pieces.head? = some p) : p.isMark := by
  cases e with
  | bare => simp [pieces] at h
  | comma | least n =>
    obtain rfl := Option.some.inj h
    rfl

theorem shown_le (e : Ending) : e.shown ≤ e.value := by
  cases e with
  | bare | comma => exact Nat.le_refl 1
  | least n => exact n.shown_le

end Ending

/-- Capital letters and the underscore. -/
def capitalSet : CharSet := .union (.range 'A' 'Z') (.char '_')

/-- Capital letters, digits and the underscore. -/
def capitalPartSet : CharSet := .union capitalSet (.range '0' '9')

/-- The parts of an invocation. The name has capital letters, the type is one word, and the variable is written
    without quotes and backslashes. -/
structure Invocation where
  name : Word
  capital : capitalSet.contains name.first ∧ ∀ c ∈ name.others, capitalPartSet.contains c
  type : Word
  oneWord : ∀ c ∈ type.chars, isWord c
  setBy : Quotation
  named : setBy.chars ≠ []
  standard : IntegerSpelling
  ending : Ending

namespace Invocation

/-- The word of a variable. -/
def variableWord : Word := .ofAscii 'e' ['n', 'v'] (by decide) (by decide) (by decide)

/-- The word of a default. -/
def standardWord : Word :=
  .ofAscii 'd' ['e', 'f', 'a', 'u', 'l', 't'] (by decide) (by decide) (by decide)

variable (i : Invocation)

/-- The pieces between the parentheses. -/
def pieces : List Piece :=
  [.word i.name, .mark ':' (by decide), .word i.type, .mark ',' (by decide), .word variableWord,
    .mark '=' (by decide), .string i.setBy, .mark ',' (by decide), .word standardWord,
    .mark '=' (by decide), .number i.standard] ++ i.ending.pieces

/-- Whether a text is written as the pieces with white space around them. -/
def WrittenAs (text : List Char) : Prop := Spaced (i.pieces.map Piece.chars) text

/-- The variable that sets the tunable, as it is written. -/
def variableName : String := String.ofList i.setBy.chars

/-- The least value that the header takes. -/
def shownLeast : Nat := if i.standard.plain then i.ending.shown else 1

theorem apart : Piece.Apart i.pieces := by
  cases hending : i.ending <;> simp [pieces, hending, Ending.pieces, Piece.Apart, Piece.isMark]

/-- The minimum that a header takes does not exceed the default that it takes. -/
theorem shownLeast_le {i : Invocation} (h : i.ending.value ≤ i.standard.value) :
    i.shownLeast ≤ max 1 i.standard.shown := by
  unfold shownLeast
  split
  · rename_i hplain
    have hshown := i.standard.shown_of_plain hplain
    have hending := i.ending.shown_le
    omega
  · omega

end Invocation

/-! ## Characters -/

theorem isAsciiWord_of_capitalPart {c : Char} (h : capitalPartSet.contains c) : isAsciiWord c = true := by
  simp only [capitalPartSet, capitalSet, CharSet.contains, Bool.or_eq_true, Bool.and_eq_true,
    decide_eq_true_eq] at h
  rcases h with (⟨hA, hZ⟩ | rfl) | ⟨h0, h9⟩
  · have hletter : c.isAlpha = true := isAlpha_iff.mpr (.inl ⟨hA, hZ⟩)
    simp [isAsciiWord, Char.isAlphanum, hletter]
  · decide
  · exact isAsciiWord_of_isDigit (Char.isDigit_iff_toNat.mpr ⟨h0, h9⟩)

/-- The name of an invocation is one of ASCII. -/
theorem Invocation.isAscii_name (i : Invocation) : i.name.isAscii := by
  refine List.all_eq_true.mpr fun c hc => ?_
  rcases List.mem_cons.mp hc with rfl | hc
  · refine isAsciiWord_of_capitalPart ?_
    rw [capitalPartSet, CharSet.contains, i.capital.1]
    rfl
  · exact isAsciiWord_of_capitalPart (i.capital.2 c hc)

end PacketReinjection.Tunable
