import PacketReinjection.Text.Pattern.Cursor
import PacketReinjection.Text.Pattern.Written
import PacketReinjection.Text.Unicode.Later

/-!
# `Text.Pattern.Group` — how a group opens

An opening parenthesis starts a group that is remembered, by a number and perhaps a name, or a group with flags
of its own, or it only sets flags for what follows.

## Contents
- **Flags.** `readFlags`.
- **Names.** `readGroupName`.
- **`Opening`** — what a parenthesis opens; `readOpeningParenthesis`.
-/

namespace PacketReinjection.Text

/-! ## Flags -/

/-- The letters of the flags. -/
def flag? : Char → Option Flag
  | 'i' => some .caseless
  | 'm' => some .multiLine
  | 's' => some .dotAll
  | 'U' => some .swapGreed
  | 'u' => some .unicode
  | 'R' => some .crlf
  | 'x' => some .verbose
  | _ => none

/-- A flag, or nothing for the dash before flags that are taken away, and where it stands. -/
abbrev FlagSign := Option Flag × Span

/-- What the signs, in their order, set. -/
def flagSettings (on : Bool) : List FlagSign → List (Flag × Bool)
  | [] => []
  | (none, _) :: rest => flagSettings false rest
  | (some f, _) :: rest => (f, on) :: flagSettings on rest

/-- The signs up to a colon or a closing parenthesis, which the cursor then is at; `signs` are those before,
    newest first. None may come twice, and the dash not last. -/
def readFlags (signs : List FlagSign) : Nat → Cursor → Except PatternError (List FlagSign × Cursor)
  | 0, k => .ok (signs.reverse, k)
  | fuel + 1, k =>
    match k.head? with
    | none => .ok (signs.reverse, k)
    | some c =>
      if c = ':' || c = ')' then
        match signs with
        | (none, span) :: _ => fail .flagNegationDangling span
        | _ => .ok (signs.reverse, k)
      else if c ≠ '-' && (flag? c).isNone then fail .flagUnknown k.nextSpan
      else
        let sign := if c = '-' then none else flag? c
        match signs.find? fun s => s.1 = sign with
        | some s => failTwice (if sign.isNone then .flagNegatedTwice else .flagTwice) k.nextSpan s.2
        | none =>
          if k.advance.atEnd then fail .flagUnfinished k.advance.here
          else readFlags ((sign, k.nextSpan) :: signs) fuel k.advance

/-! ## Names -/

/-- Whether a character can stand in the name of a group. -/
def isGroupNameChar (first : Bool) (c : Char) : Bool :=
  if first then c = '_' || Unicode.inRanges Unicode.groupNameStarts c
  else ['_', '.', '[', ']'].contains c || Unicode.inRanges Unicode.groupNameParts c

/-- The name up to an angle bracket, which the cursor then is at unless the text is at its end. -/
def readNameChars (name : List Char) : Nat → Cursor → Except PatternError (List Char × Cursor)
  | 0, k => .ok (name.reverse, k)
  | fuel + 1, k =>
    match k.head? with
    | none => .ok (name.reverse, k)
    | some c =>
      if c = '>' then .ok (name.reverse, k)
      else if isGroupNameChar name.isEmpty c then readNameChars (c :: name) fuel k.advance
      else fail .groupNameInvalid k.nextSpan

/-- The name of a group, which is to be another one than those before it. -/
def readGroupName (names : List (List Char × Span)) (k : Cursor) :
    Except PatternError (List Char × Span × Cursor) := do
  let (name, last) ← readNameChars [] k.rest.length k
  if last.atEnd then fail .groupNameUnfinished last.here
  else if name.isEmpty then fail .groupNameEmpty k.here
  else
    match names.find? fun n => n.1 = name with
    | some n => failTwice .groupNameTaken (last.since k.position) n.2
    | none => return (name, last.since k.position, last.advance)

/-! ## Parentheses -/

/-- What a parenthesis opens. -/
inductive Opening where
  /-- A group that is remembered, by a name if it has one. -/
  | numbered (name : Option (List Char × Span))
  /-- A group with flags of its own. -/
  | flagged (settings : List (Flag × Bool))
  /-- Nothing, but flags are set for what follows. -/
  | flagsOnly (settings : List (Flag × Bool))

/-- Past the signs of a look around, which no pattern has. -/
def takeLookAround? (k : Cursor) : Option Cursor :=
  k.takeSign? "?=" <|> k.takeSign? "?!" <|> k.takeSign? "?<=" <|> k.takeSign? "?<!"

/-- What a parenthesis with flags opens; the cursor is behind the question mark, which stands at `inner`. -/
def readFlagGroup (opened inner : Span) (k : Cursor) : Except PatternError (Opening × Cursor) := do
  if k.atEnd then fail .groupUnclosed opened
  let (signs, last) ← readFlags [] k.rest.length k
  if last.head? = some ')' then
    if signs.isEmpty then fail .nothingToRepeat inner
    else return (.flagsOnly (flagSettings true signs), last.advance)
  else return (.flagged (flagSettings true signs), last.advance)

/-- What a parenthesis opens, which the cursor is at. -/
def readOpeningParenthesis (names : List (List Char × Span)) (k : Cursor) :
    Except PatternError (Opening × Cursor) :=
  let inner := k.next
  match takeLookAround? inner with
  | some behind => fail .lookAround (behind.since k.position)
  | none =>
    match inner.takeSign? "?P<" <|> inner.takeSign? "?<" with
    | some name => do
      let (text, span, rest) ← readGroupName names name
      return (.numbered (some (text, span)), rest)
    | none =>
      match inner.takeSign? "?" with
      | some flags => readFlagGroup k.nextSpan inner.here flags
      | none => .ok (.numbered none, inner)

end PacketReinjection.Text
