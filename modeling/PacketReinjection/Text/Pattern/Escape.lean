import PacketReinjection.Text.Pattern.Cursor
import PacketReinjection.Text.Pattern.Written

/-!
# `Text.Pattern.Escape` — signs that start with a backslash

## Contents
- **Characters by number.** `readHexadecimal`.
- **Properties.** `readProperty`.
- **Edges of words.** `readWordEdge?`.
- **Single letters.** `escapedChar?`, `escapedClass?`, `escapedAnchor?`.
- **`readEscape`** — a sign, whatever it is.
-/

namespace PacketReinjection.Text

/-! ## Characters by number -/

/-- The value of a hexadecimal digit. -/
def hexadecimalValue? (c : Char) : Option Nat :=
  if c.isDigit then some (c.toNat - '0'.toNat)
  else if 'a' ≤ c && c ≤ 'f' then some (c.toNat - 'a'.toNat + 10)
  else if 'A' ≤ c && c ≤ 'F' then some (c.toNat - 'A'.toNat + 10)
  else none

/-- The character of a number. -/
def character? (n : Nat) : Option Char :=
  if n.isValidChar then some (Char.ofNat n) else none

/-- The letters in front of a number, and how many digits it then has. -/
def hexadecimalDigits? : Char → Option Nat
  | 'x' => some 2
  | 'u' => some 4
  | 'U' => some 8
  | _ => none

/-- The number of `count` digits, of which the cursor is before the first, `value` being that of the digits
    before. The cursor ends up at the last digit. -/
def readDigitsFrom (value : Nat) : Nat → Cursor → Except PatternError (Nat × Cursor)
  | 0, k => .ok (value, k)
  | count + 1, k =>
    match k.head?.bind hexadecimalValue? with
    | none => fail .hexadecimalDigit k.nextSpan
    | some d =>
      if count = 0 then .ok (value * 16 + d, k)
      else if k.next.atEnd then fail .escapeUnfinished k.next.here
      else readDigitsFrom (value * 16 + d) count k.next

/-- A character by a number of `count` digits. -/
def readHexadecimalDigits (count : Nat) (k : Cursor) : Except PatternError (WrittenChar × Cursor) := do
  let (value, last) ← readDigitsFrom 0 count k
  let rest := last.next
  match character? value with
  | none => fail .hexadecimalNoCharacter (rest.since k.position)
  | some c => .ok (⟨rest.since k.position, c, count = 2⟩, rest)

/-- The digits up to a closing brace, which the cursor then is at. -/
def readBracedDigits (digits : List Nat) : Nat → Cursor → Except PatternError (List Nat × Cursor)
  | 0, k => .ok (digits.reverse, k)
  | fuel + 1, k =>
    match k.head? with
    | none => .ok (digits.reverse, k)
    | some '\x7d' => .ok (digits.reverse, k)
    | some c =>
      match hexadecimalValue? c with
      | none => fail .hexadecimalDigit k.nextSpan
      | some d => readBracedDigits (d :: digits) fuel k.next

/-- A character by a number in braces, of which the cursor is at the opening one. -/
def readBracedHexadecimal (k : Cursor) : Except PatternError (WrittenChar × Cursor) := do
  let start := k.nextSpan.finish
  let (digits, last) ← readBracedDigits [] k.rest.length k.next
  if last.atEnd then fail .escapeUnfinished (last.since k.position)
  else
    let rest := last.next
    if digits.isEmpty then fail .hexadecimalEmpty (rest.since k.position)
    else
      match character? (digits.foldl (fun n d => n * 16 + d) 0) with
      | none => fail .hexadecimalNoCharacter (last.since start)
      | some c => .ok (⟨rest.since start, c, false⟩, rest)

/-- A character by its number, of which the cursor is at the letter in front. -/
def readHexadecimal (count : Nat) (k : Cursor) : Except PatternError (WrittenChar × Cursor) :=
  let digits := k.next
  match digits.head? with
  | none => fail .escapeUnfinished digits.here
  | some '\x7b' => readBracedHexadecimal digits
  | some _ => readHexadecimalDigits count digits

/-! ## Properties -/

/-- The text up to a closing brace, which the cursor then is at. -/
def readBracedName (name : List Char) : Nat → Cursor → List Char × Cursor
  | 0, k => (name.reverse, k)
  | fuel + 1, k =>
    match k.head? with
    | none => (name.reverse, k)
    | some '\x7d' => (name.reverse, k)
    | some c => readBracedName (c :: name) fuel k.next

/-- The two parts of a text around the first occurrence of a sign. -/
def splitAt? (sign : List Char) : List Char → Option (List Char × List Char)
  | [] => none
  | c :: rest =>
    if sign.isPrefixOf (c :: rest) then some ([], (c :: rest).drop sign.length)
    else (splitAt? sign rest).map fun parts => (c :: parts.1, parts.2)

/-- What is asked for between braces, and whether a value is to be another one. -/
def PropertyQuery.ofName (name : List Char) : PropertyQuery × Bool :=
  match splitAt? ['!', '='] name, splitAt? [':'] name, splitAt? ['='] name with
  | some (property, value), _, _ => (.valued property value, true)
  | none, some (property, value), _ => (.valued property value, false)
  | none, none, some (property, value) => (.valued property value, false)
  | none, none, none => (.named name, false)

/-- A class given by a property, of which the cursor is at the letter; a capital negates. -/
def readProperty (start : Position) (negated : Bool) (k : Cursor) :
    Except PatternError (WrittenProperty × Cursor) :=
  let name := k.next
  match name.head? with
  | none => fail .escapeUnfinished name.here
  | some '\x7b' =>
    let (text, last) := readBracedName [] name.rest.length name.next
    if last.atEnd then fail .escapeUnfinished last.here
    else
      let rest := last.advance
      let (query, unequal) := PropertyQuery.ofName text
      .ok (⟨rest.since start, negated != unequal, query⟩, rest)
  | some '\\' => fail .propertyIllFormed name.nextSpan
  | some c => .ok (⟨name.next.since start, negated, .named [c]⟩, name.next)

/-! ## Edges of words -/

/-- The names of the edges. -/
def wordEdgeNames : List (String × WrittenAnchor) :=
  [("start", .wordStart), ("end", .wordEnd), ("start-half", .wordStartHalf), ("end-half", .wordEndHalf)]

/-- Whether a character can be part of the name of an edge. -/
def isWordEdgeLetter (c : Char) : Bool := c.isAlpha || c = '-'

/-- The longest run of such letters. -/
def readWordEdgeName (name : List Char) : Nat → Cursor → List Char × Cursor
  | 0, k => (name.reverse, k)
  | fuel + 1, k =>
    match k.head? with
    | none => (name.reverse, k)
    | some c =>
      if isWordEdgeLetter c then readWordEdgeName (c :: name) fuel k.next else (name.reverse, k)

/-- The name of an edge in braces, of which the cursor is at the opening one. What does not begin like a name
    is left to be read as a count. -/
def readWordEdge? (start : Position) (k : Cursor) :
    Except PatternError (Option (WrittenAnchor × Cursor)) :=
  let contents := k.next
  match contents.head? with
  | none => fail .wordEdgeUnfinished (contents.since start)
  | some c =>
    if isWordEdgeLetter c then
      let (name, last) := readWordEdgeName [] contents.rest.length contents
      if last.head? ≠ some '\x7d' then fail .wordEdgeUnclosed (last.since k.position)
      else
        match wordEdgeNames.find? fun e => e.1.toList = name with
        | some e => .ok (some (e.2, last.advance))
        | none => fail .wordEdgeUnknown (last.since contents.position)
    else .ok none

/-! ## Single letters -/

/-- The character of an escape that stands for a single character. Every sign of ASCII that is neither
    letter nor digit nor angle bracket may be escaped. -/
def escapedChar? : Char → Option Char
  | 'a' => some '\x07'
  | 'f' => some '\x0c'
  | 't' => some '\t'
  | 'n' => some '\n'
  | 'r' => some '\r'
  | 'v' => some '\x0b'
  | c => if c.toNat < 0x80 && !c.isAlphanum && c ≠ '<' && c ≠ '>' then some c else none

/-- The class of an escape that stands for one, and whether it is negated. -/
def escapedClass? : Char → Option (ShortClass × Bool)
  | 'd' => some (.decimal, false)
  | 'D' => some (.decimal, true)
  | 's' => some (.blank, false)
  | 'S' => some (.blank, true)
  | 'w' => some (.word, false)
  | 'W' => some (.word, true)
  | _ => none

/-- The anchor of an escape that stands for one. -/
def escapedAnchor? : Char → Option WrittenAnchor
  | 'A' => some .textStart
  | 'z' => some .textEnd
  | 'b' => some .wordEdge
  | 'B' => some .noWordEdge
  | '<' => some .wordStart
  | '>' => some .wordEnd
  | _ => none

/-! ## Signs -/

/-- A sign of one letter, which the cursor is at; the backslash stands at `start`. -/
def readLetter (start : Position) (c : Char) (k : Cursor) : Except PatternError (Written × Cursor) :=
  let rest := k.advance
  let span := rest.since start
  match escapedClass? c, escapedAnchor? c, escapedChar? c with
  | some (name, negated), _, _ => .ok (.short span name negated, rest)
  | none, some a, _ =>
    if c = 'b' && rest.head? = some '\x7b' then do
      match ← readWordEdge? start rest with
      | some (edge, behind) => return (.anchor (behind.since start) edge, behind)
      | none => return (.anchor span a, rest)
    else .ok (.anchor span a, rest)
  | none, none, some d => .ok (.char ⟨span, d, false⟩, rest)
  | none, none, none => fail .escapeUnknown span

/-- A sign that starts with a backslash, which the cursor is at. -/
def readEscape (k : Cursor) : Except PatternError (Written × Cursor) :=
  let start := k.position
  let letter := k.advance
  match letter.head? with
  | none => fail .escapeUnfinished (letter.since start)
  | some c =>
    if c.isDigit then fail .backReference ⟨start, letter.nextSpan.finish⟩
    else if c = 'p' || c = 'P' then do
      let (property, rest) ← readProperty start (c = 'P') letter
      return (.property property, rest)
    else
      match hexadecimalDigits? c with
      | some count => do
        let (char, rest) ← readHexadecimal count letter
        return (.char { char with span := ⟨start, char.span.finish⟩ }, rest)
      | none => readLetter start c letter

end PacketReinjection.Text
