/-!
# `Text.Number` — reading natural numbers of 64 bits

Digits are those of ASCII, and a single plus sign may stand in front.

## Contents
- **`NumberFault`** — what is wrong with a number.
- **`readNumber`** — the number, or the first fault from the left; of two faults at one character, that
  it is no digit comes before that the number is too large.
-/

namespace PacketReinjection.Text

/-- What is wrong with a number. -/
inductive NumberFault where
  | noDigits
  | invalidDigit
  | tooLarge
  deriving DecidableEq

/-- Numbers lie below this. -/
def numberLimit : Nat := UInt64.size

/-- The value of a digit. -/
def digitValue (c : Char) : Nat := c.toNat - '0'.toNat

/-- Append one digit to a number. -/
def appendDigit (n : Nat) (c : Char) : Except NumberFault Nat :=
  if c.isDigit then
    if n * 10 + digitValue c < numberLimit then .ok (n * 10 + digitValue c) else .error .tooLarge
  else .error .invalidDigit

/-- The number of a text of digits. -/
def readDigits : List Char → Except NumberFault Nat
  | [] => .error .noDigits
  | digits => digits.foldlM appendDigit 0

/-- The number of a text. A plus sign without digits is an invalid digit itself. -/
def readNumber : List Char → Except NumberFault Nat
  | ['+'] => .error .invalidDigit
  | '+' :: digits => readDigits digits
  | digits => readDigits digits

end PacketReinjection.Text
