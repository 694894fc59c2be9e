/-!
# `Tunable.Token.Basic` — the tokens of a declaration

A declaration is read as a forest: what stands between two brackets is one token.

## Contents
- **`Delimiter`** — the three kinds of brackets, with their characters.
- **`LiteralValue`** — what a literal stands for, as far as declarations ask.
- **`Token`** — a token, with `render` (its text) and `count` (how many tokens it holds).
-/

namespace PacketReinjection.Tunable

/-! ## Brackets -/

/-- The kinds of brackets. -/
inductive Delimiter where
  | parenthesis
  | bracket
  | brace
  deriving DecidableEq, Repr

namespace Delimiter

/-- The brackets of each kind, the opening one first. -/
def characters : Delimiter → Char × Char
  | parenthesis => ('(', ')')
  | bracket => ('[', ']')
  | brace => ('\x7b', '\x7d')

/-- All kinds. -/
def all : List Delimiter := [parenthesis, bracket, brace]

/-- The kind that a character opens. -/
def ofOpening? (c : Char) : Option Delimiter := all.find? fun d => d.characters.1 = c

/-- The kind that a character closes. -/
def ofClosing? (c : Char) : Option Delimiter := all.find? fun d => d.characters.2 = c

@[simp] theorem ofOpening?_characters (d : Delimiter) : ofOpening? d.characters.1 = some d := by
  cases d <;> rfl

@[simp] theorem ofClosing?_characters (d : Delimiter) : ofClosing? d.characters.2 = some d := by
  cases d <;> rfl

end Delimiter

/-! ## Tokens -/

/-- What a literal stands for. -/
inductive LiteralValue where
  /-- A string of characters. -/
  | text (value : String)
  /-- A natural number, whatever the base it is written in, and whether it has a suffix. -/
  | integer (value : Nat) (suffixed : Bool)
  /-- A number with a fraction or an exponent. -/
  | fraction
  /-- A single character, a string of bytes, or a literal that is none. -/
  | other
  deriving DecidableEq, Repr

/-- The number of a field, which has 32 bits and no suffix. -/
def LiteralValue.fieldNumber? : LiteralValue → Option Nat
  | .integer value false => if value < UInt32.size then some value else none
  | _ => none

/-- A token. -/
inductive Token where
  /-- A name; a raw one is a name even where its spelling is a keyword. -/
  | name (spelling : String) (raw : Bool)
  | lifetime (spelling : String)
  /-- A punctuation character, and whether another one follows it directly. -/
  | mark (c : Char) (joint : Bool)
  | literal (spelling : String) (value : LiteralValue)
  | group (d : Delimiter) (inner : List Token)
  deriving Repr

namespace Token

mutual

/-- The text of a token, without the blanks between the tokens that it holds. -/
def render : Token → String
  | name spelling raw => (if raw then "r#" else "") ++ spelling
  | lifetime spelling => "'" ++ spelling
  | mark c _ => c.toString
  | literal spelling _ => spelling
  | group d inner => d.characters.1.toString ++ renderAll inner ++ d.characters.2.toString

/-- The text of tokens in a row. -/
def renderAll : List Token → String
  | [] => ""
  | t :: rest => render t ++ renderAll rest

end

mutual

/-- How many tokens there are in a token, itself included. -/
def count : Token → Nat
  | group _ inner => countAll inner + 1
  | _ => 1

/-- How many tokens there are in tokens in a row. -/
def countAll : List Token → Nat
  | [] => 0
  | t :: rest => count t + countAll rest

end

end Token

end PacketReinjection.Tunable
