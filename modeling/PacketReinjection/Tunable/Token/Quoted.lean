/-!
# `Tunable.Token.Quoted` — texts in quotes

Strings of characters, of bytes and of bytes with a null character at their end are written in the same
way and differ in what they hold. A backslash introduces an escape; a raw string has none, and as many
number signs around its quotes as it takes to tell its end.

## Contents
- **`QuoteRules`** — what a text in quotes may hold: `characterRules`, `byteRules`, `nullEndedRules`.
- **Escapes.** `QuoteState.step` reads one character of a text in quotes.
- **`quoted?`** — a text up to its closing quote: its value and what follows.
- **`raw?`** — the same for a raw string.
-/

namespace PacketReinjection.Tunable.Token

/-! ## Rules -/

/-- What a text in quotes may hold. -/
structure QuoteRules where
  /-- The characters that stand for themselves. -/
  plain : Char → Bool
  /-- The values of escapes of two hexadecimal digits lie below this. -/
  hexLimit : Nat
  /-- Whether there are escapes for any character by its number. -/
  unicode : Bool
  /-- Whether the null character can be escaped. -/
  null : Bool

/-- The rules for characters. -/
def characterRules : QuoteRules := ⟨fun _ => true, 0x80, true, true⟩

/-- The rules for bytes. -/
def byteRules : QuoteRules := ⟨fun c => c.toNat < 0x80, 0x100, false, true⟩

/-- The rules for bytes with a null character at their end. -/
def nullEndedRules : QuoteRules := ⟨fun c => c ≠ '\x00', 0x100, true, false⟩

/-! ## Escapes -/

/-- The value of a hexadecimal digit. -/
def hexValue? (c : Char) : Option Nat :=
  if c.isDigit then some (c.toNat - '0'.toNat)
  else if 'a' ≤ c ∧ c ≤ 'f' then some (c.toNat - 'a'.toNat + 10)
  else if 'A' ≤ c ∧ c ≤ 'F' then some (c.toNat - 'A'.toNat + 10)
  else none

/-- The character that an escape of one letter stands for. -/
def letterEscape? : Char → Option Char
  | 'n' => some '\n'
  | 'r' => some '\r'
  | 't' => some '\t'
  | '\\' => some '\\'
  | '\'' => some '\''
  | '"' => some '"'
  | '0' => some '\x00'
  | _ => none

/-- Where the reader of a text in quotes is. -/
inductive QuoteState where
  | plain
  /-- Behind a carriage return, which must belong to the end of a line. -/
  | lineEnd
  /-- Behind a backslash. -/
  | escape
  /-- In an escape of two hexadecimal digits. -/
  | hexFirst
  | hexSecond (value : Nat)
  /-- In an escape of a character by its number, of which `digits` digits are read. -/
  | numberOpen
  | number (value digits : Nat)
  /-- In the blanks behind an escaped end of line, which are left out. -/
  | leaveOut
  | leaveOutLineEnd
  deriving DecidableEq

/-- What a character of a text in quotes does. -/
inductive QuoteStep where
  | refuse
  | close
  /-- Go on, with at most one character more. -/
  | next (value : Option Char) (state : QuoteState)

namespace QuoteState

/-- Go on with one character more, which may be the null character only if the rules say so. -/
def emit (rules : QuoteRules) (c : Char) : QuoteStep :=
  if c = '\x00' && !rules.null then .refuse else .next (some c) plain

/-- Read a character that no escape is open for. -/
def stepPlain (rules : QuoteRules) (quote c : Char) : QuoteStep :=
  if c = quote then .close
  else if c = '\r' then .next none lineEnd
  else if c = '\\' then .next none escape
  else if rules.plain c then .next (some c) plain
  else .refuse

/-- Read the character behind a backslash. -/
def stepEscape (rules : QuoteRules) (c : Char) : QuoteStep :=
  if c = 'x' then .next none hexFirst
  else if c = 'u' then if rules.unicode then .next none numberOpen else .refuse
  else if c = '\n' then .next none leaveOut
  else if c = '\r' then .next none leaveOutLineEnd
  else match letterEscape? c with
    | some value => emit rules value
    | none => .refuse

/-- Read a character of an escape by number. Underscores behind the first digit do not count. -/
def stepNumber (rules : QuoteRules) (value digits : Nat) (c : Char) : QuoteStep :=
  if c = '_' && digits ≠ 0 then .next none (number value digits)
  else if c = '\x7d' && digits ≠ 0 then
    if value.isValidChar then emit rules (Char.ofNat value) else .refuse
  else match hexValue? c with
    | some d => if digits = 6 then .refuse else .next none (number (value * 16 + d) (digits + 1))
    | none => .refuse

/-- Read a character of a text up to `quote`. -/
def step (rules : QuoteRules) (quote c : Char) : QuoteState → QuoteStep
  | plain => stepPlain rules quote c
  | lineEnd => if c = '\n' then .next (some '\n') plain else .refuse
  | escape => stepEscape rules c
  | hexFirst =>
    match hexValue? c with
    | some d => .next none (hexSecond d)
    | none => .refuse
  | hexSecond value =>
    match hexValue? c with
    | some d =>
      if value * 16 + d < rules.hexLimit then emit rules (Char.ofNat (value * 16 + d)) else .refuse
    | none => .refuse
  | numberOpen => if c = '\x7b' then .next none (number 0 0) else .refuse
  | number value digits => stepNumber rules value digits c
  | leaveOut =>
    if c = ' ' || c = '\t' || c = '\n' then .next none leaveOut
    else if c = '\r' then .next none leaveOutLineEnd
    else stepPlain rules quote c
  | leaveOutLineEnd => if c = '\n' then .next none leaveOut else .refuse

end QuoteState

/-! ## Texts in quotes -/

/-- The value of a text up to its closing quote, and what follows the quote. -/
def quoted? (rules : QuoteRules) (quote : Char) (state : QuoteState) :
    List Char → Option (List Char × List Char)
  | [] => none
  | c :: rest =>
    match state.step rules quote c with
    | .refuse => none
    | .close => some ([], rest)
    | .next value state => do
      let (values, after) ← quoted? rules quote state rest
      return (value.toList ++ values, after)

/-- What follows the end of an escape. -/
def afterEscape? (rules : QuoteRules) (state : QuoteState) : List Char → Option (List Char)
  | [] => none
  | c :: rest =>
    match state.step rules '\'' c with
    | .next (some _) _ => some rest
    | .next none .leaveOut | .next none .leaveOutLineEnd => none
    | .next none state => afterEscape? rules state rest
    | _ => none

/-- What follows a single character in single quotes, the opening quote aside. Any character but a
    backslash stands for itself, and a backslash introduces one escape. -/
def singleQuoted? (rules : QuoteRules) (text : List Char) : Option (List Char) :=
  let closing : Option (List Char) :=
    match text with
    | '\\' :: rest => afterEscape? rules .escape rest
    | c :: rest => if rules.plain c then some rest else none
    | [] => none
  match closing with
  | some ('\'' :: rest) => some rest
  | _ => none

/-- The value of a raw string up to its closing quote, and what follows the number signs behind that.
    Carriage returns stand at the end of a line only. -/
def raw? (plain : Char → Bool) (signs : Nat) : List Char → Option (List Char × List Char)
  | [] => none
  | '\r' :: '\n' :: rest => do
    let (values, after) ← raw? plain signs rest
    return ('\r' :: '\n' :: values, after)
  | c :: rest =>
    if c = '"' && (List.replicate signs '#').isPrefixOf rest then some ([], rest.drop signs)
    else if c = '\r' || !plain c then none
    else do
      let (values, after) ← raw? plain signs rest
      return (c :: values, after)

/-- A raw string from its number signs on. There are at most 255 of them. -/
def rawQuoted? (plain : Char → Bool) (text : List Char) : Option (List Char × List Char) :=
  let signs := (text.takeWhile (· = '#')).length
  match text.dropWhile (· = '#') with
  | '"' :: rest => if signs ≤ 255 then raw? plain signs rest else none
  | _ => none

end PacketReinjection.Tunable.Token
