import PacketReinjection.Text.Pattern.Position

/-!
# `Text.Pattern.Written` — patterns as they are written

What a pattern means depends on the flags in force, so what has been read is kept as it is written, each part
with the stretch of the text that it stands on.

## Contents
- **Parts.** `WrittenChar`, `ShortClass`, `AsciiClass`, `PropertyQuery`, `WrittenAnchor`, `Flag`.
- **`WrittenSet`** — what stands between the brackets of a class.
- **`Written`** — a pattern.
-/

namespace PacketReinjection.Text

/-! ## Parts -/

/-- A character of a pattern. -/
structure WrittenChar where
  span : Span
  value : Char
  /-- It is written as two hexadecimal digits, and so as a byte where Unicode is off. -/
  isByte : Bool
  deriving DecidableEq

/-- A class with a letter of its own. -/
inductive ShortClass where
  | decimal
  | blank
  | word
  deriving DecidableEq

/-- A class of ASCII with a name of its own. -/
inductive AsciiClass where
  | alnum
  | alpha
  | ascii
  | blank
  | cntrl
  | digit
  | graph
  | lower
  | print
  | punct
  | space
  | upper
  | word
  | xdigit
  deriving DecidableEq

/-- The names of the classes of ASCII. -/
def asciiClassNames : List (String × AsciiClass) :=
  [("alnum", .alnum), ("alpha", .alpha), ("ascii", .ascii), ("blank", .blank), ("cntrl", .cntrl),
    ("digit", .digit), ("graph", .graph), ("lower", .lower), ("print", .print), ("punct", .punct),
    ("space", .space), ("upper", .upper), ("word", .word), ("xdigit", .xdigit)]

/-- How a property is asked for. -/
inductive PropertyQuery where
  | named (name : List Char)
  | valued (property value : List Char)
  deriving DecidableEq

/-- A class given by a property. -/
structure WrittenProperty where
  span : Span
  negated : Bool
  query : PropertyQuery
  deriving DecidableEq

/-- A condition on a place. -/
inductive WrittenAnchor where
  | lineStart
  | lineEnd
  | textStart
  | textEnd
  | wordEdge
  | noWordEdge
  | wordStart
  | wordEnd
  | wordStartHalf
  | wordEndHalf
  deriving DecidableEq

/-- What can be set for a part of a pattern. -/
inductive Flag where
  | caseless
  | multiLine
  | dotAll
  | swapGreed
  | unicode
  | crlf
  | verbose
  deriving DecidableEq

/-- How two sets are combined. -/
inductive SetOperation where
  | intersection
  | difference
  | symmetricDifference
  deriving DecidableEq

/-! ## Sets -/

/-- What stands between the brackets of a class. -/
inductive WrittenSet where
  | empty (span : Span)
  | char (c : WrittenChar)
  | range (first last : WrittenChar)
  | ascii (span : Span) (name : AsciiClass) (negated : Bool)
  | property (p : WrittenProperty)
  | short (span : Span) (name : ShortClass) (negated : Bool)
  | bracketed (span : Span) (negated : Bool) (inner : WrittenSet)
  | union (span : Span) (items : List WrittenSet)
  | combined (span : Span) (operation : SetOperation) (left right : WrittenSet)

/-- Where a set stands. -/
def WrittenSet.span : WrittenSet → Span
  | empty span | ascii span _ _ | short span _ _ | bracketed span _ _ | union span _
  | combined span _ _ _ => span
  | char c => c.span
  | range first last => ⟨first.span.start, last.span.finish⟩
  | property p => p.span

/-! ## Patterns -/

/-- A pattern as it is written. -/
inductive Written where
  | empty (span : Span)
  /-- Flags for what follows. -/
  | flags (span : Span) (settings : List (Flag × Bool))
  | char (c : WrittenChar)
  | dot (span : Span)
  | anchor (span : Span) (a : WrittenAnchor)
  | property (p : WrittenProperty)
  | short (span : Span) (name : ShortClass) (negated : Bool)
  | bracketed (span : Span) (negated : Bool) (set : WrittenSet)
  | repeated (span : Span) (least : Nat) (most : Option Nat) (greedy : Bool) (body : Written)
  /-- A group, remembered under a number if it has one, with flags of its own. -/
  | group (span : Span) (index : Option Nat) (settings : List (Flag × Bool)) (body : Written)
  | sequence (span : Span) (items : List Written)
  | alternatives (span : Span) (items : List Written)

namespace Written

/-- Where a pattern stands. -/
def span : Written → Span
  | empty span | flags span _ | dot span | anchor span _ | short span _ _ | bracketed span _ _
  | repeated span _ _ _ _ | group span _ _ _ | sequence span _ | alternatives span _ => span
  | char c => c.span
  | property p => p.span

/-- Items one after the other. -/
def ofSequence (span : Span) : List Written → Written
  | [] => empty span
  | [w] => w
  | ws => sequence span ws

/-- Items of which one is taken. -/
def ofAlternatives (span : Span) : List Written → Written
  | [] => empty span
  | [w] => w
  | ws => alternatives span ws

end Written

end PacketReinjection.Text
