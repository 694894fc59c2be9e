import PacketReinjection.Text.Pattern.Normal
import PacketReinjection.Text.Pattern.Words

/-!
# `Text.Pattern.Room` — how much room a pattern takes

A pattern is laid out as states, over bytes, once to be followed forwards and once backwards, and there is a
limit to the bytes that the states of each layout take. Counted repetitions lay their body out anew for each
turn, which is how a short text can take much room.

## Contents
- **`Layout`** — what laying out a part does to the room taken so far, which never goes beyond `roomLimit`.
- **`CharSet.layout`**, **`repeatedLayout`**, **`choiceLayout`** — the layouts of parts.
- **`Pattern.layout`** — the layout of a pattern, and `wholeLayout`, with what a search adds to it.
- **`Pattern.fits`** — whether there is room for a pattern.
-/

namespace PacketReinjection.Text

/-! ## Layouts -/

/-- The bytes that a layout may take. -/
def roomLimit : Nat := 10485760

/-- The room after a part is laid out, if there is enough, from the room before it. -/
abbrev Layout := Room → Option Room

namespace Layout

/-- Keep to the limit. -/
def within (r : Room) : Option Room := if r.bytes ≤ roomLimit then some r else none

/-- Take some room. -/
def take (room : Room) : Layout := fun r => within (r + room)

/-- One part after the other. -/
def next (a b : Layout) : Layout := fun r => (a r).bind b

/-- Several parts one after the other. -/
def all : List Layout → Layout
  | [] => some
  | a :: rest => a.next (all rest)

/-- A part several times. -/
def times (a : Layout) : Nat → Layout
  | 0, r => some r
  | n + 1, r =>
    match a r with
    | some r => times a n r
    | none => none

/-- One state. -/
def state : Layout := take ⟨1, 0⟩

/-- A state from which `n` ways lead on. -/
def fork (n : Nat) : Layout := take ⟨1, 4 * n⟩

end Layout

/-- The direction that a layout is followed in. -/
inductive Direction where
  | forwards
  | backwards
  deriving DecidableEq

/-- One part and then another, in the direction that they are followed in. -/
def Direction.next (d : Direction) (a b : Layout) : Layout :=
  match d with
  | forwards => a.next b
  | backwards => b.next a

open Layout

/-! ## Sets -/

/-- The layout of a set. A single character is laid out byte by byte, and a set within ASCII as one state with
    its ranges and one behind it. -/
def CharSet.layout (d : Direction) (s : CharSet) : Layout :=
  let r := s.toRanges
  if r.all (·.2 < 0x80) then
    match s with
    | .char _ => state
    | _ => take ⟨2, 8 * r.length⟩
  else
    match s with
    | .char c => take ⟨(utf8Bytes c.toNat).length, 0⟩
    | _ => beyondAscii d (byteRuns r)
where
  /-- The layout of a set beyond ASCII by its runs of bytes. -/
  beyondAscii (d : Direction) (runs : List ByteRun) : Layout := fun room =>
    within (match d with
      | .forwards => forwardRuns runs room
      | .backwards => backwardRuns runs room)

/-! ## Repetitions -/

/-- A part a number of times, which is one state if that is none. -/
def exactLayout (turn : Layout) (n : Nat) : Layout := if n = 0 then state else turn.times n

/-- The layout of a repetition; `moves` says whether every turn takes in a character. -/
def repeatedLayout (turn : Layout) (moves : Bool) (least : Nat) (most : Option Nat) : Layout :=
  match least, most with
  | 0, some 1 => all [fork 2, turn, state]
  | 0, none => if moves then all [fork 2, turn] else all [turn, fork 2, fork 2, state]
  | least, none => all [turn.times least, fork 2]
  | least, some most =>
    if least = most then exactLayout turn least
    else all [exactLayout turn least, state, ((fork 2).next turn).times (most - least)]

/-! ## Choices -/

/-- The layout of a choice: two alternatives, a fork and the state where all of them meet, and then the other
    alternatives. -/
def choiceLayout (alternatives : List Layout) : Layout :=
  match alternatives with
  | [a] => a
  | alternatives =>
    all (alternatives.take 2 ++ fork alternatives.length :: state :: alternatives.drop 2)

namespace Pattern

/-- The bytes of a word, if the pattern is one. -/
def word? (p : Pattern) : Option (List Nat) :=
  match p.parts.mapM char? with
  | some (c :: rest) => some ((c :: rest).flatMap fun c => utf8Bytes c.toNat)
  | _ => none

/-- The words that a pattern is a choice of, if it is one of several words. -/
def words? (p : Pattern) : Option (List (List Nat)) :=
  match p.alternatives with
  | [_] => none
  | ps => ps.mapM word?

/-- The layout of a pattern with the given layouts of its alternatives. -/
def withAlternatives (d : Direction) (p : Pattern) (alternatives : List Layout) : Layout :=
  match p.words?, d with
  | some words, .forwards => take (wordRoom words)
  | some words, .backwards => take (wordRoom (words.map List.reverse))
  | none, _ => choiceLayout alternatives

/-! ## Patterns -/

/-- The least number of characters that a pattern takes in, if it can match at all. -/
def leastLength? : Pattern → Option Nat
  | empty | anchor _ => some 0
  | one s => if s = .ranges [] then none else some 1
  | seq p q => do return (← p.leastLength?) + (← q.leastLength?)
  | alt p q => do return min (← p.leastLength?) (← q.leastLength?)
  | repeated p least _ _ => p.leastLength?.map (least * ·)
  | group _ p => p.leastLength?

/-- The layouts of the alternatives of a pattern. -/
def layouts (d : Direction) : Pattern → List Layout
  | empty | anchor _ => [state]
  | one s => [s.layout d]
  | seq p q => [d.next (p.withAlternatives d (p.layouts d)) (q.withAlternatives d (q.layouts d))]
  | alt p q => p.layouts d ++ q.layouts d
  | repeated p least most _ =>
    [repeatedLayout (p.withAlternatives d (p.layouts d)) (p.leastLength?.any (0 < ·)) least most]
  | group _ p =>
    let body := p.withAlternatives d (p.layouts d)
    [match d with
    | .forwards => all [state, body, state]
    | .backwards => body]

/-- The layout of a pattern. -/
def layout (d : Direction) (p : Pattern) : Layout := p.withAlternatives d (p.layouts d)

/-! ## Searches -/

/-- Whether a match can only begin at the start of a text. -/
def isAtStart : Pattern → Bool
  | anchor a => a = .textStart
  | seq p q => p.isAtStart || p.isZeroWidth && q.isAtStart
  | alt p q => p.isAtStart && q.isAtStart
  | repeated p least _ _ => 0 < least && p.isAtStart
  | group _ p => p.isAtStart
  | _ => false

/-- Whether a match can only end at the end of a text. -/
def isAtEnd : Pattern → Bool
  | anchor a => a = .textEnd
  | seq p q => q.isAtEnd || q.isZeroWidth && p.isAtEnd
  | alt p q => p.isAtEnd && q.isAtEnd
  | repeated p least _ _ => 0 < least && p.isAtEnd
  | group _ p => p.isAtEnd
  | _ => false

/-- The layout of a pattern and of the search for the place where a match begins, which is one state where that
    place is known. -/
def wholeLayout (d : Direction) (p : Pattern) : Layout :=
  let search (known : Bool) : Layout := if known then state else take ⟨3, 16⟩
  match d with
  | .forwards => all [search p.isAtStart, state, p.layout d, state, state]
  | .backwards => all [search p.isAtEnd, p.layout d, state]

/-- Whether there is room for a pattern. -/
def fits (p : Pattern) : Bool :=
  [Direction.forwards, .backwards].all fun d => (p.wholeLayout d ⟨0, 0⟩).isSome

end Pattern

end PacketReinjection.Text
