import PacketReinjection.Text.CharClass
import PacketReinjection.Text.Regex
import PacketReinjection.Text.Unicode.Case

/-!
# `Text.Pattern.Basic` — patterns and all their matches

A pattern describes stretches of a text. Where several stretches match from one place, the pattern
itself says which is preferred: the left of two alternatives, the longer repetition if it is greedy and
the shorter one if it is not. The meaning of a pattern is therefore the *list* of places where a match
can end, the preferred one first.

## Contents
- **`CharSet`**, **`Anchor`**, **`Pattern`** — the syntax, with abbreviations for common shapes.
- **`Spot`** — a place in a text and what was marked on the way there.
- **`Pattern.results`** — every match from a spot, in order of preference.
- **`Pattern.leftmost?`** — the match that a search of a text comes to.
-/

namespace PacketReinjection.Text

/-! ## Sets of characters -/

/-- A set of characters. -/
inductive CharSet where
  | char (c : Char)
  | range (first last : Char)
  | any
  | blank
  | decimal
  | word
  | ranges (r : Unicode.Ranges)
  | complement (s : CharSet)
  | union (s t : CharSet)
  | intersection (s t : CharSet)
  /-- What differs in case only from a character of the set. -/
  | caseless (s : CharSet)
  /-- The same for letters of ASCII alone. -/
  | asciiCaseless (s : CharSet)
  /-- The set, looked at as one of bytes. -/
  | bytes (s : CharSet)
  deriving DecidableEq

namespace CharSet

/-- Whether a character belongs to a set. -/
def contains : CharSet → Char → Bool
  | char d, c => c = d
  | range first last, c => first ≤ c && c ≤ last
  | any, _ => true
  | blank, c => isBlank c
  | decimal, c => isDecimal c
  | word, c => isWord c
  | ranges r, c => Unicode.inRanges r c
  | complement s, c => !s.contains c
  | union s t, c => s.contains c || t.contains c
  | intersection s t, c => s.contains c && t.contains c
  | caseless s, c => s.contains c || (Unicode.caseVariants c).any s.contains
  | asciiCaseless s, c => s.contains c || s.contains c.toLower || s.contains c.toUpper
  | bytes s, c => s.contains c

/-- Every character but the line feed. -/
def inLine : CharSet := complement (char '\n')

/-- What is in one of several sets. -/
def unionAll : List CharSet → CharSet
  | [] => ranges []
  | [s] => s
  | s :: rest => union s (unionAll rest)

end CharSet

/-! ## Anchors -/

/-- Where a place is within a word. -/
inductive WordPlace where
  /-- Exactly one of the two neighbours is part of a word. -/
  | edge
  /-- Both neighbours are part of a word, or neither. -/
  | noEdge
  | start
  | finish
  /-- What is before the place is not part of a word. -/
  | startHalf
  /-- What is behind the place is not part of a word. -/
  | finishHalf
  deriving DecidableEq

/-- Whether a place is as it should be, from whether the neighbours are part of a word. -/
def WordPlace.holds (before after : Bool) : WordPlace → Bool
  | edge => before != after
  | noEdge => before == after
  | start => !before && after
  | finish => before && !after
  | startHalf => !before
  | finishHalf => !after

/-- A condition on the place between two characters. -/
inductive Anchor where
  | textStart
  | textEnd
  | lineStart
  | lineEnd
  /-- Lines end with a carriage return, a line feed or both. -/
  | crlfLineStart
  | crlfLineEnd
  | word (place : WordPlace)
  /-- Only ASCII counts as part of words. -/
  | asciiWord (place : WordPlace)
  deriving DecidableEq

/-- Whether an anchor holds between the characters before a place, nearest first, and those after it. -/
def Anchor.holds (before after : List Char) : Anchor → Bool
  | textStart => before.isEmpty
  | textEnd => after.isEmpty
  | lineStart => before.head?.all (· = '\n')
  | lineEnd => after.head?.all (· = '\n')
  | crlfLineStart =>
    before.head?.all fun c => c = '\n' || (c = '\r' && after.head? ≠ some '\n')
  | crlfLineEnd =>
    after.head?.all fun c => c = '\r' || (c = '\n' && before.head? ≠ some '\r')
  | word place => place.holds (before.head?.any isWord) (after.head?.any isWord)
  | asciiWord place => place.holds (before.head?.any isAsciiWord) (after.head?.any isAsciiWord)

/-! ## Patterns -/

/-- A description of stretches of text. -/
inductive Pattern where
  | empty
  | one (s : CharSet)
  | anchor (a : Anchor)
  | seq (p q : Pattern)
  | alt (p q : Pattern)
  /-- At least `least` and at most `most` times in a row; as often as possible if `greedy`, and as
      rarely as possible if not. -/
  | repeated (p : Pattern) (least : Nat) (most : Option Nat) (greedy : Bool)
  /-- What `p` matches is remembered under a number. -/
  | group (index : Nat) (p : Pattern)
  deriving DecidableEq

namespace Pattern

/-- One after the other. -/
def sequence (ps : List Pattern) : Pattern := ps.foldr seq empty

/-- The characters of a text, each standing for itself. -/
def literal (s : String) : Pattern := sequence (s.toList.map fun c => one (.char c))

/-- Any number of characters of a set, as many as possible. -/
def many (s : CharSet) : Pattern := repeated (one s) 0 none true

/-- One or more characters of a set, as many as possible. -/
def many1 (s : CharSet) : Pattern := repeated (one s) 1 none true

/-- Any number of characters of a set, as few as possible. -/
def few (s : CharSet) : Pattern := repeated (one s) 0 none false

/-- A pattern or nothing, rather the pattern. -/
def optional (p : Pattern) : Pattern := repeated p 0 (some 1) true

/-- White space or nothing. -/
def blanks : Pattern := many .blank

end Pattern

/-! ## Places in a text -/

/-- A mark that is left on the way through a text. -/
inductive Mark where
  /-- Group `index` begins, with the text from here on. -/
  | opened (index offset : Nat) (onward : List Char)
  /-- Group `index` ends. -/
  | closed (index offset : Nat)
  deriving DecidableEq

/-- A place in a text, and what was marked on the way there. -/
structure Spot where
  /-- The number of characters before the place. -/
  offset : Nat
  /-- The characters before the place, nearest first. -/
  before : List Char
  /-- The characters after the place. -/
  after : List Char
  /-- The number of characters before the place where the way began. -/
  origin : Nat
  /-- The marks, the latest first. -/
  marks : List Mark
  deriving DecidableEq

namespace Spot

/-- The start of a text. -/
def start (text : List Char) : Spot := ⟨0, [], text, 0, []⟩

/-- One character further. -/
def advance (s : Spot) (c : Char) (rest : List Char) : Spot :=
  { s with offset := s.offset + 1, before := c :: s.before, after := rest }

/-- Whether an anchor holds at the place. -/
def satisfies (s : Spot) (a : Anchor) : Bool := a.holds s.before s.after

/-- Mark that a group begins. -/
def openGroup (s : Spot) (index : Nat) : Spot :=
  { s with marks := .opened index s.offset s.after :: s.marks }

/-- Mark that a group ends. -/
def closeGroup (s : Spot) (index : Nat) : Spot :=
  { s with marks := .closed index s.offset :: s.marks }

/-- Where a group begins, by its latest mark. -/
def groupStart? (s : Spot) (index : Nat) : Option (Nat × List Char) :=
  s.marks.findSome? fun
    | .opened i offset onward => if i = index then some (offset, onward) else none
    | .closed _ _ => none

/-- Where a group ends, by its latest mark. -/
def groupEnd? (s : Spot) (index : Nat) : Option Nat :=
  s.marks.findSome? fun
    | .opened _ _ _ => none
    | .closed i offset => if i = index then some offset else none

/-- What a group matched last, if it matched at all. -/
def group? (s : Spot) (index : Nat) : Option (List Char) := do
  let (first, onward) ← s.groupStart? index
  let last ← s.groupEnd? index
  return onward.take (last - first)

/-- What a match that ends at the spot leaves. -/
def captures (s : Spot) : Captures
  | 0 => some (s.before.take (s.offset - s.origin)).reverse
  | index + 1 => s.group? (index + 1)

end Spot

/-! ## Matches -/

namespace Pattern

/-- The places after exactly `n` turns of a step. -/
def exactly (step : Spot → List Spot) : Nat → Spot → List Spot
  | 0, s => [s]
  | n + 1, s => (step s).flatMap (exactly step n)

/-- Rather what comes of further turns than the place itself, or the other way round. -/
def inOrder (greedy : Bool) (further : List Spot) (s : Spot) : List Spot :=
  if greedy then further ++ [s] else s :: further

/-- The places after at most `n` turns of a step. -/
def atMost (step : Spot → List Spot) (greedy : Bool) : Nat → Spot → List Spot
  | 0, s => [s]
  | n + 1, s => inOrder greedy ((step s).flatMap (atMost step greedy n)) s

/-- The places after at most `n` turns of a step, each of which has to move on. -/
def onward (step : Spot → List Spot) (greedy : Bool) : Nat → Spot → List Spot
  | 0, s => [s]
  | n + 1, s =>
    inOrder greedy
      ((step s).flatMap fun t => if s.offset < t.offset then onward step greedy n t else []) s

/-- The places after any number of turns beyond those that had to be. Every turn moves on, so no more are worth
    trying than there are characters left. -/
def further (step : Spot → List Spot) (greedy : Bool) (s : Spot) : List Spot :=
  onward step greedy s.after.length s

/-- The places where a match from a spot can end, the preferred one first. -/
def results : Pattern → Spot → List Spot
  | empty, s => [s]
  | one set, s =>
    match s.after with
    | [] => []
    | c :: rest => if set.contains c then [s.advance c rest] else []
  | anchor a, s => if s.satisfies a then [s] else []
  | seq p q, s => (p.results s).flatMap q.results
  | alt p q, s => p.results s ++ q.results s
  | repeated p least (some most) greedy, s =>
    (exactly p.results least s).flatMap (atMost p.results greedy (most - least))
  | repeated p 0 none greedy, s =>
    inOrder greedy ((p.results s).flatMap (further p.results greedy)) s
  | repeated p (least + 1) none greedy, s =>
    (exactly p.results (least + 1) s).flatMap (further p.results greedy)
  | group index p, s => (p.results (s.openGroup index)).map (·.closeGroup index)

/-! ## Searching -/

/-- The spots of a text from a place on, at each of which a match can begin. -/
def spotsFrom (offset : Nat) (before : List Char) : List Char → List Spot
  | [] => [⟨offset, before, [], offset, []⟩]
  | c :: rest => ⟨offset, before, c :: rest, offset, []⟩ :: spotsFrom (offset + 1) (c :: before) rest

/-- Where the leftmost match at or behind a place ends: of the places that a match begins at the first counts,
    and of the matches that begin there the preferred one. -/
def leftmost? (p : Pattern) (s : Spot) : Option Spot :=
  ((spotsFrom s.offset s.before s.after).flatMap p.results).head?

end Pattern

end PacketReinjection.Text
