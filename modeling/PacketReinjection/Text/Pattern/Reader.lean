import PacketReinjection.Text.Pattern.Bracket
import PacketReinjection.Text.Pattern.Group

/-!
# `Text.Pattern.Reader` — reading the text of a pattern

The reader takes one item at a time — a character, an escape, a class, a quantifier, a bar or a parenthesis —
and keeps what it has read so far as its state.

## Contents
- **State.** `Level` (a group that is being read), `OpenGroup`, `Reader`.
- **Quantifiers.** `readCount`, `Reader.repeatLast`.
- **Groups.** `Reader.openGroup`, `Reader.closeGroup`.
- **`Reader.step`**, **`Reader.run`** — one item, and all of them.
- **`Written.read`** — a whole text.
-/

namespace PacketReinjection.Text

/-! ## State -/

/-- What has been read of a group, or of the whole pattern. -/
structure Level where
  /-- Where what follows the last bar starts. -/
  start : Position
  /-- What follows the last bar, newest first. -/
  items : List Written
  /-- Where the first alternative starts, and the alternatives before the last bar, newest first. -/
  earlier : Option (Position × List Written)

namespace Level

/-- Nothing has been read. -/
def empty (start : Position) : Level := ⟨start, [], none⟩

/-- Append one item. -/
def push (l : Level) (w : Written) : Level := { l with items := w :: l.items }

/-- What follows the last bar. -/
def lastAlternative (l : Level) (finish : Position) : Written :=
  .ofSequence ⟨l.start, finish⟩ l.items.reverse

/-- All of it, up to a place. -/
def close (l : Level) (finish : Position) : Written :=
  match l.earlier with
  | none => l.lastAlternative finish
  | some (start, alternatives) =>
    .ofAlternatives ⟨start, finish⟩ (l.lastAlternative finish :: alternatives).reverse

/-- A bar at `bar` with the next alternative starting at `next`. -/
def divide (l : Level) (bar next : Position) : Level where
  start := next
  items := []
  earlier :=
    match l.earlier with
    | none => some (l.start, [l.lastAlternative bar])
    | some (start, alternatives) => some (start, l.lastAlternative bar :: alternatives)

end Level

/-- A group that has been opened. -/
structure OpenGroup where
  /-- Its parenthesis. -/
  span : Span
  index : Option Nat
  settings : List (Flag × Bool)
  /-- Whether blanks count for nothing around it. -/
  outerVerbose : Bool

/-- What has been read of a pattern. -/
structure Reader where
  cursor : Cursor
  /-- The number of remembered groups opened so far. -/
  groups : Nat
  /-- The names of groups so far. -/
  names : List (List Char × Span)
  current : Level
  /-- The groups that are open, each with what has been read around it, nearest first. -/
  outer : List (OpenGroup × Level)

namespace Reader

/-- Nothing has been read. -/
def start (text : List Char) : Reader := ⟨.start text, 0, [], .empty .start, []⟩

/-- Append an item that ends at a cursor. -/
def push (r : Reader) (w : Written) (cursor : Cursor) : Reader :=
  { r with cursor, current := r.current.push w }

end Reader

/-! ## Quantifiers -/

/-- Whether an item can be repeated; nothing at all, or what only sets flags, cannot. -/
def Written.isRepeatable : Written → Bool
  | .empty _ | .flags _ _ => false
  | _ => true

/-- Behind blanks, whether they count or not. -/
def skipWhite (thenNext : Cursor → Cursor) : Nat → Cursor → Cursor
  | 0, k => k
  | fuel + 1, k => if k.head?.any isBlank then skipWhite thenNext fuel (thenNext k) else k

/-- The longest run of digits. -/
def readDigitRun (digits : List Char) : Nat → Cursor → List Char × Cursor
  | 0, k => (digits.reverse, k)
  | fuel + 1, k =>
    match k.head? with
    | none => (digits.reverse, k)
    | some c => if c.isDigit then readDigitRun (c :: digits) fuel k.next else (digits.reverse, k)

/-- A number of 32 bits with blanks around it, and the cursor behind. -/
def readCount (k : Cursor) : Except PatternError Nat × Cursor :=
  let first := skipWhite Cursor.advance k.rest.length k
  let (digits, last) := readDigitRun [] first.rest.length first
  let rest := skipWhite Cursor.next last.rest.length last
  let value := digits.foldl (fun n d => n * 10 + (d.toNat - '0'.toNat)) 0
  if digits.isEmpty then (fail .countNotDecimal (last.since first.position), rest)
  else if value < UInt32.size then (.ok value, rest)
  else (fail .countTooLarge (last.since first.position), rest)

/-- A question mark that makes a quantifier rarely repeat. -/
def readLazy (k : Cursor) : Bool × Cursor :=
  if k.head? = some '?' then (false, k.advance) else (true, k)

/-- The numbers of a quantifier in braces, of which the cursor is at the opening one, and the cursor at the
    closing one. -/
def readCounts (k : Cursor) : Except PatternError (Nat × Option Nat × Cursor) := do
  let (least, rest) := readCount k.next
  if k.next.atEnd || rest.atEnd then fail .countUnclosed (rest.since k.position)
  else if rest.head? ≠ some ',' then
    let exact ← least
    return (exact, some exact, rest)
  else if rest.next.atEnd then fail .countUnclosed (rest.next.since k.position)
  else if rest.next.head? = some '\x7d' then
    return (← least, none, rest.next)
  else
    let low ← least
    let (high, behind) := readCount rest.next
    return (low, some (← high), behind)

/-- A quantifier in braces, of which the cursor is at the opening one: the numbers, whether it repeats as often
    as possible, and the cursor behind it. -/
def readBraces (k : Cursor) : Except PatternError (Nat × Option Nat × Bool × Cursor) := do
  let (least, most, close) ← readCounts k
  if close.head? ≠ some '\x7d' then fail .countUnclosed (close.since k.position)
  let (greedy, rest) := readLazy close.next
  if most.any (· < least) then fail .countReversed (rest.since k.position)
  return (least, most, greedy, rest)

namespace Reader

/-- The last item and the reader without it. -/
def takeLast (r : Reader) : Except PatternError (Written × Reader) :=
  match r.current.items with
  | w :: rest =>
    if w.isRepeatable then .ok (w, { r with current := { r.current with items := rest } })
    else fail .nothingToRepeat r.cursor.here
  | [] => fail .nothingToRepeat r.cursor.here

/-- Put the last item under a quantifier. -/
def repeatLast (r : Reader) (least : Nat) (most : Option Nat) : Except PatternError Reader := do
  let (w, r) ← r.takeLast
  let (greedy, rest) := readLazy r.cursor.advance
  return r.push (.repeated ⟨w.span.start, rest.position⟩ least most greedy w) rest

/-- Put the last item under a quantifier in braces. -/
def repeatCounted (r : Reader) : Except PatternError Reader := do
  let (w, r) ← r.takeLast
  let (least, most, greedy, rest) ← readBraces r.cursor
  return r.push (.repeated ⟨w.span.start, rest.position⟩ least most greedy w) rest

/-! ## Groups -/

/-- Whether blanks count for nothing once flags are set. -/
def verboseAfter (settings : List (Flag × Bool)) (verbose : Bool) : Bool :=
  ((settings.find? fun s => s.1 = .verbose).map (·.2)).getD verbose

/-- Start reading inside a group. -/
def enter (r : Reader) (index : Option Nat) (settings : List (Flag × Bool)) (rest : Cursor) : Reader :=
  { r with cursor := { rest with verbose := verboseAfter settings rest.verbose },
           current := .empty rest.position,
           outer := (⟨r.cursor.nextSpan, index, settings, rest.verbose⟩, r.current) :: r.outer }

/-- An opening parenthesis. -/
def openGroup (r : Reader) : Except PatternError Reader := do
  let (opening, rest) ← readOpeningParenthesis r.names r.cursor
  match opening with
  | .flagsOnly settings =>
    return r.push (.flags (rest.since r.cursor.position) settings)
      { rest with verbose := verboseAfter settings rest.verbose }
  | .flagged settings => return r.enter none settings rest
  | .numbered name =>
    return { r with groups := r.groups + 1, names := name.toList ++ r.names }.enter
      (some (r.groups + 1)) [] rest

/-- A closing parenthesis. -/
def closeGroup (r : Reader) : Except PatternError Reader :=
  match r.outer with
  | [] => fail .groupUnopened r.cursor.nextSpan
  | (group, level) :: outer =>
    let rest := r.cursor.advance
    let body := r.current.close r.cursor.position
    .ok { r with cursor := { rest with verbose := group.outerVerbose }, outer,
                 current := level.push (.group ⟨group.span.start, rest.position⟩ group.index
                   group.settings body) }

/-! ## Items -/

/-- Take one item, of which `c` is the first character. -/
def item (r : Reader) (c : Char) : Except PatternError Reader :=
  let k := r.cursor
  match c with
  | '(' => r.openGroup
  | ')' => r.closeGroup
  | '|' =>
    .ok { r with cursor := k.advance, current := r.current.divide k.position k.advance.position }
  | '[' => do
    let (w, rest) ← readBracket k
    return r.push w rest
  | '?' => r.repeatLast 0 (some 1)
  | '*' => r.repeatLast 0 none
  | '+' => r.repeatLast 1 none
  | '\x7b' => r.repeatCounted
  | '\\' => do
    let (w, rest) ← readEscape k
    return r.push w rest
  | '.' => .ok (r.push (.dot k.nextSpan) k.advance)
  | '^' => .ok (r.push (.anchor k.nextSpan .lineStart) k.advance)
  | '$' => .ok (r.push (.anchor k.nextSpan .lineEnd) k.advance)
  | c => .ok (r.push (.char ⟨k.nextSpan, c, false⟩) k.advance)

/-- Take one item behind blanks that count for nothing; at the end of the text, do nothing. -/
def step (r : Reader) : Except PatternError Reader :=
  let r := { r with cursor := r.cursor.skipBlanks }
  match r.cursor.head? with
  | none => .ok r
  | some c => r.item c

/-- Take `n` items. -/
def run : Nat → Reader → Except PatternError Reader
  | 0, r => .ok r
  | n + 1, r => do run n (← r.step)

/-- The pattern, once its whole text has been read. -/
def finish (r : Reader) : Except PatternError Written :=
  match r.outer with
  | [] => .ok (r.current.close r.cursor.position)
  | (group, _) :: _ => fail .groupUnclosed group.span

end Reader

/-- Read the text of a pattern. There are no more items than characters. -/
def Written.read (text : List Char) : Except PatternError Written := do
  (← (Reader.start text).run text.length).finish

end PacketReinjection.Text
