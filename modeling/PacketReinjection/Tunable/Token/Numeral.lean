import PacketReinjection.Text.CharClass
import PacketReinjection.Tunable.Token.Basic
import PacketReinjection.Tunable.Token.Quoted

/-!
# `Tunable.Token.Numeral` — numbers

A number is a natural number in one of four bases or a decimal fraction. Underscores may stand between
the digits, and a name right behind the number is its suffix.

## Contents
- **Suffixes.** `skipSuffix`, and `endsNumber` for what may not follow one.
- **Fractions.** `fraction?` — a number with a point or an exponent.
- **Natural numbers.** `natural?` — a number in its base, with its value.
- **`numeral?`** — either of them, a fraction if it can be one.
- **`fieldNumber?`** — a number that a field can have.
-/

namespace PacketReinjection.Tunable.Token

open Text

/-! ## Suffixes -/

/-- The text behind the name that it starts with, or all of it. -/
def skipSuffix : List Char → List Char
  | c :: rest => if isNameStart c then rest.dropWhile isNamePart else c :: rest
  | [] => []

/-- Whether a number may end before a text: it may not where the text goes on with a part of a name. -/
def endsNumber : List Char → Bool
  | c :: _ => !isNamePart c
  | [] => true

/-- The text behind the suffix of a number, unless a part of a name is left over. -/
def closeNumber? (text : List Char) : Option (List Char) :=
  if endsNumber (skipSuffix text) then some (skipSuffix text) else none

/-! ## Fractions -/

/-- Whether a character is a digit or the underscore between digits. -/
def isDigitOrGap (c : Char) : Bool := c.isDigit || c = '_'

/-- The text behind an exponent's digits, with at most one sign before them; `signed` says whether the
    sign has been read, and `valued` whether a digit has. -/
def afterExponent? (signed valued : Bool) : List Char → Option (List Char)
  | [] => if valued then some [] else none
  | c :: rest =>
    if c.isDigit then afterExponent? signed true rest
    else if c = '_' then afterExponent? signed valued rest
    else if (c = '+' || c = '-') && !valued then
      if signed then none else afterExponent? true valued rest
    else if valued then some (c :: rest) else none

/-- The text behind an exponent's letter, if the text starts with one. -/
def behindLetter? : List Char → Option (List Char)
  | c :: rest => if c = 'e' || c = 'E' then some rest else none
  | [] => none

/-- The text behind the digits of a fraction. What looks like an exponent but has no digits is left
    over where a point makes the number a fraction. -/
def afterFraction? : List Char → Option (List Char)
  | first :: text =>
    if first.isDigit then
      match text.dropWhile isDigitOrGap with
      | '.' :: rest =>
        if rest.head?.any fun c => c = '.' || isNameStart c then none
        else
          let after := rest.dropWhile isDigitOrGap
          match (behindLetter? after).bind (afterExponent? false false) with
          | some behind => some behind
          | none => some after
      | after => (behindLetter? after).bind (afterExponent? false false)
    else none
  | [] => none

/-- The text behind a number with a point or an exponent. -/
def fraction? (text : List Char) : Option (List Char) := (afterFraction? text).bind closeNumber?

/-! ## Natural numbers -/

/-- The base of a number, and its text behind the base's mark. -/
def baseOf : List Char → Nat × List Char
  | '0' :: 'x' :: rest => (16, rest)
  | '0' :: 'o' :: rest => (8, rest)
  | '0' :: 'b' :: rest => (2, rest)
  | text => (10, text)

/-- The value of the digits that a text starts with, `value` being that of the digits before, if there
    were any, and the text behind them. A decimal digit that the base does not have is refused; a letter
    that is no digit starts the suffix. -/
def digitsValue? (base : Nat) (value : Option Nat) : List Char → Option (Nat × List Char)
  | [] => value.map (·, [])
  | c :: rest =>
    if c = '_' then
      if value.isNone && base = 10 then none else digitsValue? base value rest
    else
      match hexValue? c with
      | some d =>
        if d < base then digitsValue? base (some (value.getD 0 * base + d)) rest
        else if c.isDigit then none
        else value.map (·, c :: rest)
      | none => value.map (·, c :: rest)

/-- A natural number, whether it has a suffix, and the text behind it. -/
def natural? (text : List Char) : Option (Nat × Bool × List Char) := do
  let (value, after) ← digitsValue? (baseOf text).1 none (baseOf text).2
  let behind ← closeNumber? after
  return (value, behind.length < after.length, behind)

/-! ## Numbers -/

/-- What a number stands for, and the text behind it. -/
def numeral? (text : List Char) : Option (LiteralValue × List Char) :=
  match fraction? text with
  | some behind => some (.fraction, behind)
  | none => (natural? text).map fun (value, suffixed, behind) => (.integer value suffixed, behind)

/-! ## Numbers of fields -/

/-- The number of a field that a whole text is. -/
def fieldNumber? (text : List Char) : Option Nat :=
  match numeral? text with
  | some (value, []) => value.fieldNumber?
  | _ => none

end PacketReinjection.Tunable.Token
