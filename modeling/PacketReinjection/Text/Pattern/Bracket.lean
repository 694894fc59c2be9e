import PacketReinjection.Text.Pattern.Escape

/-!
# `Text.Pattern.Bracket` — classes in brackets

A class lists characters, ranges, escapes and classes of ASCII by name. Classes stand within each other, and
`&&`, `--` and `~~` combine what is on their two sides, the leftmost first.

## Contents
- **`ItemRun`** — items one after the other.
- **`OpenSet`** — what is open around the items that are being read.
- **Items.** `readAsciiClass?`, `readItem`, `readRange`.
- **`readBracket`** — a class from its opening bracket to its closing one.
-/

namespace PacketReinjection.Text

/-! ## State -/

/-- Items one after the other, newest first, and where they stand. -/
structure ItemRun where
  span : Span
  items : List WrittenSet

namespace ItemRun

/-- No items, at a place. -/
def start (p : Position) : ItemRun := ⟨.point p, []⟩

/-- Append an item. -/
def push (r : ItemRun) (item : WrittenSet) : ItemRun :=
  ⟨⟨if r.items.isEmpty then item.span.start else r.span.start, item.span.finish⟩, item :: r.items⟩

/-- The items as one set. -/
def close (r : ItemRun) : WrittenSet :=
  match r.items with
  | [] => .empty r.span
  | [item] => item
  | items => .union r.span items.reverse

end ItemRun

/-- What is open around the items that are being read. -/
inductive OpenSet where
  /-- A bracket, with the signs behind it that open it, and the items before it. -/
  | bracket (span : Span) (negated : Bool) (before : ItemRun)
  /-- The left side of an operation. -/
  | operation (o : SetOperation) (left : WrittenSet)

/-- The fault that the innermost bracket is not closed. -/
def failUnclosed {α : Type} : List OpenSet → Except PatternError α
  | [] => fail .classUnclosed (.point .start)
  | .bracket span _ _ :: _ => fail .classUnclosed span
  | .operation _ _ :: rest => failUnclosed rest

/-- Put a right side to the operation that waits for one, if any does. -/
def applyOperation (right : WrittenSet) : List OpenSet → WrittenSet × List OpenSet
  | .operation o left :: rest => (.combined ⟨left.span.start, right.span.finish⟩ o left right, rest)
  | stack => (right, stack)

/-! ## Items -/

/-- The text up to a colon, and the cursor there. -/
def readToColon (name : List Char) : Nat → Cursor → List Char × Cursor
  | 0, k => (name.reverse, k)
  | fuel + 1, k =>
    match k.head? with
    | none => (name.reverse, k)
    | some c => if c = ':' then (name.reverse, k) else readToColon (c :: name) fuel k.advance

/-- A class of ASCII by its name between `[:` and `:]`; a circumflex in front of the name negates. What is not
    written like that is left to be read as a class. -/
def readAsciiClass? (k : Cursor) : Option (WrittenSet × Cursor) := do
  let colon := k.advance
  if colon.head? ≠ some ':' then none
  let sign := colon.advance
  if sign.atEnd then none
  let negated := sign.head? = some '^'
  let start := if negated then sign.advance else sign
  let (name, last) := readToColon [] start.rest.length start
  let rest ← last.takeSign? ":]"
  let entry ← asciiClassNames.find? fun e => e.1.toList = name
  return (.ascii (rest.since k.position) entry.2 negated, rest)

/-- A character or an escape. -/
def readItem (k : Cursor) : Except PatternError (Written × Cursor) :=
  match k.head? with
  | some '\\' => readEscape k
  | some c => .ok (.char ⟨k.nextSpan, c, false⟩, k.advance)
  | none => .ok (.empty k.here, k)

/-- An item of a class as a set. -/
def Written.asItem : Written → Except PatternError WrittenSet
  | .char c => .ok (.char c)
  | .short span name negated => .ok (.short span name negated)
  | .property p => .ok (.property p)
  | w => fail .classEscapeUnknown w.span

/-- An item of a class as the end of a range. -/
def Written.asBoundary : Written → Except PatternError WrittenChar
  | .char c => .ok c
  | w => fail .classRangeNotLiteral w.span

/-- An item, or a range from one item to another. A dash makes a range unless a closing bracket or a second
    dash follows it. -/
def readRange (stack : List OpenSet) (k : Cursor) : Except PatternError (WrittenSet × Cursor) := do
  let (first, rest) ← readItem k
  let dash := rest.skipBlanks
  if dash.atEnd then failUnclosed stack
  else if dash.head? ≠ some '-' || dash.peekSpaced = some ']' || dash.peekSpaced = some '-' then
    return (← first.asItem, dash)
  else if dash.next.atEnd then failUnclosed stack
  else
    let (last, behind) ← readItem dash.next
    let low ← first.asBoundary
    let high ← last.asBoundary
    if low.value ≤ high.value then return (.range low high, behind)
    else fail .classRangeReversed ⟨low.span.start, high.span.finish⟩

/-! ## Brackets -/

/-- The dashes that open a class, each standing for itself. -/
def readDashes (start : Position) (run : ItemRun) : Nat → Cursor →
    Except PatternError (ItemRun × Cursor)
  | 0, k => .ok (run, k)
  | fuel + 1, k =>
    if k.head? = some '-' then
      if k.next.atEnd then fail .classUnclosed (.point start)
      else readDashes start (run.push (.char ⟨k.nextSpan, '-', false⟩)) fuel k.next
    else .ok (run, k)

/-- The signs that open a class: a circumflex, dashes, or a closing bracket that stands for itself. -/
def readOpening (k : Cursor) : Except PatternError (Span × Bool × ItemRun × Cursor) := do
  let start := k.position
  let sign := k.next
  if sign.atEnd then fail .classUnclosed (sign.since start)
  let negated := sign.head? = some '^'
  let first := if negated then sign.next else sign
  if first.atEnd then fail .classUnclosed (first.since start)
  let (dashes, behind) ← readDashes start (.start first.position) first.rest.length first
  if dashes.items.isEmpty && behind.head? = some ']' then
    if behind.next.atEnd then fail .classUnclosed (behind.next.since start)
    return (behind.next.since start, negated, dashes.push (.char ⟨behind.nextSpan, ']', false⟩),
      behind.next)
  return (behind.since start, negated, dashes, behind)

/-- The operation that the text goes on with. -/
def operation? (k : Cursor) : Option SetOperation :=
  match k.head?, k.peek with
  | some '&', some '&' => some .intersection
  | some '-', some '-' => some .difference
  | some '~', some '~' => some .symmetricDifference
  | _, _ => none

/-- Open a bracket within others. -/
def openBracket (stack : List OpenSet) (run : ItemRun) (k : Cursor) :
    Except PatternError (List OpenSet × ItemRun × Cursor) := do
  let (span, negated, first, rest) ← readOpening k
  return (.bracket span negated run :: stack, first, rest)

/-- Read on up to the end of the outermost bracket. -/
def readBracketFrom (stack : List OpenSet) (run : ItemRun) : Nat → Cursor →
    Except PatternError (Written × Cursor)
  | 0, _ => failUnclosed stack
  | fuel + 1, k =>
    let k := k.skipBlanks
    match k.head?, operation? k with
    | none, _ => failUnclosed stack
    | some '[', _ =>
      match if stack.isEmpty then none else readAsciiClass? k with
      | some (set, rest) => readBracketFrom stack (run.push set) fuel rest
      | none => do
        let (stack, run, rest) ← openBracket stack run k
        readBracketFrom stack run fuel rest
    | some ']', _ =>
      match applyOperation run.close stack with
      | (set, .bracket span negated before :: rest) =>
        let span := ⟨span.start, k.advance.position⟩
        if rest.isEmpty then .ok (.bracketed span negated set, k.advance)
        else readBracketFrom rest (before.push (.bracketed span negated set)) fuel k.advance
      | (_, rest) => failUnclosed rest
    | some _, some o =>
      let (left, rest) := applyOperation run.close stack
      let behind := k.advanceBy 2
      readBracketFrom (.operation o left :: rest) (.start behind.position) fuel behind
    | some _, none => do
      let (item, rest) ← readRange stack k
      readBracketFrom stack (run.push item) fuel rest

/-- A class, of which the cursor is at the opening bracket. -/
def readBracket (k : Cursor) : Except PatternError (Written × Cursor) :=
  readBracketFrom [] (.start k.position) (k.rest.length + 1) k

end PacketReinjection.Text
