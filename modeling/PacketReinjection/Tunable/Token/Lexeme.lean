import PacketReinjection.Tunable.Token.Documentation
import PacketReinjection.Tunable.Token.Numeral

/-!
# `Tunable.Token.Lexeme` — from text to tokens

A text is cut into lexemes first, and the brackets among them are matched after that.

## Contents
- **`Lexeme`** — a token without brackets, or one bracket.
- **Leaves.** `quotedLiteral?`, `numberLiteral?`, `lifetime?`, `mark?`, `name?`, and `leaf?`, which takes
  the first of them that fits.
- **`lexemes?`** — the lexemes of a text.
- **`forest?`** — the tokens of a row of lexemes; `forest?_flatten` says that nothing but the brackets of
  each other is matched.
- **`ofText?`** — the tokens of a text.
-/

namespace PacketReinjection.Tunable

open Text

/-- A piece of a text. -/
inductive Lexeme where
  | opening (d : Delimiter)
  | closing (d : Delimiter)
  | token (t : Token)

namespace Token

/-! ## Leaves -/

/-- A token and the text behind it. -/
abbrev Leaf := Token × List Char

/-- The text in front of its own tail `after`. -/
def spelled (text after : List Char) : String := String.ofList (text.take (text.length - after.length))

/-- A literal from its value and the text behind it, where its suffix is skipped. -/
def literalLeaf (text : List Char) (value : LiteralValue) (after : List Char) : Leaf :=
  (.literal (spelled text (skipSuffix after)) value, skipSuffix after)

/-- A string or a single character in quotes, of one of the kinds that the letters in front of it tell. -/
def quotedLiteral? (text : List Char) : Option Leaf :=
  let string (result : Option (List Char × List Char)) : Option Leaf :=
    result.map fun (value, after) => literalLeaf text (.text (String.ofList value)) after
  let bytes (result : Option (List Char × List Char)) : Option Leaf :=
    result.map fun (_, after) => literalLeaf text .other after
  let single (result : Option (List Char)) : Option Leaf :=
    result.map (literalLeaf text .other)
  match text with
  | '"' :: rest => string (quoted? characterRules '"' .plain rest)
  | 'b' :: '"' :: rest => bytes (quoted? byteRules '"' .plain rest)
  | 'b' :: 'r' :: rest => bytes (rawQuoted? byteRules.plain rest)
  | 'c' :: '"' :: rest => bytes (quoted? nullEndedRules '"' .plain rest)
  | 'c' :: 'r' :: rest => bytes (rawQuoted? nullEndedRules.plain rest)
  | 'r' :: rest => string (rawQuoted? characterRules.plain rest)
  | 'b' :: '\'' :: rest => single (singleQuoted? byteRules rest)
  | '\'' :: rest => single (singleQuoted? characterRules rest)
  | _ => none

/-- A number. -/
def numberLiteral? (text : List Char) : Option Leaf :=
  (numeral? text).map fun (value, after) => (.literal (spelled text after) value, after)

/-- The punctuation characters. -/
def markCharacters : List Char := "~!@#$%^&*-=+|;:,<.>/?'".toList

/-- Whether a text starts with a punctuation character and not with a comment. -/
def startsMark : List Char → Bool
  | '/' :: '/' :: _ | '/' :: '*' :: _ => false
  | c :: _ => markCharacters.contains c
  | [] => false

/-- The name that a text starts with, and the text behind it. -/
def plainName? : List Char → Option (List Char × List Char)
  | c :: rest =>
    if isNameStart c then some (c :: rest.takeWhile isNamePart, rest.dropWhile isNamePart) else none
  | [] => none

/-- The words that no raw name is spelled like. -/
def neverRaw : List String := ["_", "super", "self", "Self", "crate"]

/-- The name that a text starts with, whether it is raw, and the text behind it. -/
def anyName? : List Char → Option (String × Bool × List Char)
  | 'r' :: '#' :: rest => do
    let (word, after) ← plainName? rest
    if neverRaw.contains (String.ofList word) then none else some (String.ofList word, true, after)
  | text => (plainName? text).map fun (word, after) => (String.ofList word, false, after)

/-- The starts of texts in quotes, which no name has. -/
def quoteStarts : List (List Char) :=
  ["r\"", "r#\"", "r##", "b\"", "b'", "br\"", "br#", "c\"", "cr\"", "cr#"].map (·.toList)

/-- Whether a text starts like a text in quotes with letters in front of it. -/
def startsQuote (text : List Char) : Bool := quoteStarts.any fun start => start.isPrefixOf text

/-- A lifetime: a name behind a single quote, with no quote behind it. Where the name is the letters in front
    of a text in quotes, the single quote stands alone. -/
def lifetime? : List Char → Option Leaf
  | '\'' :: rest => do
    let (word, raw, after) ← anyName? rest
    if after.head? = some '\'' || (after.head? = some '#' && !raw) then none
    else if startsQuote rest then some (.mark '\'' true, rest)
    else some (.lifetime ((if raw then "r#" else "") ++ word), after)
  | _ => none

/-- A punctuation character. -/
def mark? : List Char → Option Leaf
  | c :: rest =>
    if startsMark (c :: rest) && c ≠ '\'' then some (.mark c (startsMark rest), rest) else none
  | [] => none

/-- A name. -/
def name? (text : List Char) : Option Leaf :=
  if startsQuote text then none
  else (anyName? text).map fun (word, raw, after) => (.name word raw, after)

/-- The token without brackets that a text starts with. -/
def leaf? (text : List Char) : Option Leaf :=
  quotedLiteral? text <|> numberLiteral? text <|> lifetime? text <|> mark? text <|> name? text

/-! ## Lexemes -/

/-- The lexemes of a comment of documentation. -/
def documentation (d : Documentation) : List Lexeme :=
  .token (.mark '#' false) :: (if d.inner then [.token (.mark '!' false)] else [])
    ++ [.opening .bracket, .token (.name "doc" false), .token (.mark '=' false),
      .token (.literal d.literal (.text (String.ofList d.text))), .closing .bracket]

/-- The literal that stands where a literal could not be made. -/
def failedLiteral : String := "(/*ERROR*/)"

/-- What a text starts with, and the text behind it. -/
def lexeme? (text : List Char) : Option (List Lexeme × List Char) :=
  match docComment? text with
  | some (d, after) => some (documentation d, after)
  | none =>
    if failedLiteral.toList.isPrefixOf text then
      some ([.token (.literal failedLiteral .other)], text.drop failedLiteral.length)
    else
      match text with
      | [] => none
      | c :: rest =>
        match Delimiter.ofOpening? c, Delimiter.ofClosing? c with
        | some d, _ => some ([.opening d], rest)
        | none, some d => some ([.closing d], rest)
        | none, none => (leaf? text).map fun (t, after) => ([.token t], after)

/-- The lexemes of a text. Every step takes a character. -/
def lexemes? (text : List Char) : Option (List Lexeme) :=
  match skipGap? text with
  | none => none
  | some [] => some []
  | some (c :: rest) =>
    match lexeme? (c :: rest) with
    | none => none
    | some (ls, after) =>
      if _h : after.length < text.length then (lexemes? after).map (ls ++ ·) else none
termination_by text.length

/-! ## Brackets -/

/-- The tokens of a row of lexemes: `outer` are the brackets that are open, innermost first, each with
    the tokens before it, and `row` the tokens behind the innermost, all in reverse. -/
def forestFrom? (outer : List (Delimiter × List Token)) (row : List Token) :
    List Lexeme → Option (List Token)
  | [] => if outer.isEmpty then some row.reverse else none
  | .token t :: rest => forestFrom? outer (t :: row) rest
  | .opening d :: rest => forestFrom? ((d, row) :: outer) [] rest
  | .closing d :: rest =>
    match outer with
    | (opened, before) :: outer =>
      if opened = d then forestFrom? outer (.group d row.reverse :: before) rest else none
    | [] => none

/-- The tokens of a row of lexemes. -/
def forest? (ls : List Lexeme) : Option (List Token) := forestFrom? [] [] ls

mutual

/-- The lexemes of a token. -/
def flatten : Token → List Lexeme
  | group d inner => .opening d :: (flattenAll inner ++ [.closing d])
  | name spelling raw => [.token (name spelling raw)]
  | lifetime spelling => [.token (lifetime spelling)]
  | mark c joint => [.token (mark c joint)]
  | literal spelling value => [.token (literal spelling value)]

/-- The lexemes of tokens in a row. -/
def flattenAll : List Token → List Lexeme
  | [] => []
  | t :: rest => flatten t ++ flattenAll rest

end

mutual

theorem forestFrom?_flatten (outer : List (Delimiter × List Token)) (row : List Token)
    (rest : List Lexeme) : (t : Token) →
    forestFrom? outer row (flatten t ++ rest) = forestFrom? outer (t :: row) rest
  | group d inner => by
    simp only [flatten, List.cons_append, List.append_assoc, forestFrom?]
    rw [forestFrom?_flattenAll]
    simp [forestFrom?]
  | name .. => rfl
  | lifetime .. => rfl
  | mark .. => rfl
  | literal .. => rfl

theorem forestFrom?_flattenAll (outer : List (Delimiter × List Token)) (row : List Token)
    (rest : List Lexeme) : (ts : List Token) →
    forestFrom? outer row (flattenAll ts ++ rest) = forestFrom? outer (ts.reverse ++ row) rest
  | [] => rfl
  | t :: ts => by
    simp only [flattenAll, List.append_assoc]
    rw [forestFrom?_flatten, forestFrom?_flattenAll]
    simp

end

/-- Tokens are read back from their lexemes. -/
theorem forest?_flatten (ts : List Token) : forest? (flattenAll ts) = some ts := by
  have h := forestFrom?_flattenAll [] [] [] ts
  simpa [forest?, forestFrom?] using h

/-! ## Texts -/

/-- A text without the byte order mark that it may start with. -/
def skipOrderMark : List Char → List Char
  | '\ufeff' :: rest => rest
  | text => text

/-- The tokens of a text. -/
def ofText? (text : String) : Option (List Token) :=
  (lexemes? (skipOrderMark text.toList)).bind forest?

end Token

end PacketReinjection.Tunable
