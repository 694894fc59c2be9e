import PacketReinjection.Text.Pattern.Position
import PacketReinjection.Text.Strings

/-!
# `Text.Pattern.Fault` — what is wrong with the text of a pattern

## Contents
- **`Fault`** — the causes, with their wording.
- **`PatternError`** — a fault and the stretch of the text that it is about, or that the pattern is too large.
- **`PatternError.render`** — the text with the faulty stretch marked. A text of one line is indented; the
  lines of a longer one are numbered and stand between dividers.
-/

namespace PacketReinjection.Text

/-! ## Causes -/

/-- What is wrong with the text of a pattern. -/
inductive Fault where
  | groupUnclosed
  | groupUnopened
  | groupNameUnfinished
  | groupNameEmpty
  | groupNameInvalid
  | groupNameTaken
  | nothingToRepeat
  | countNotDecimal
  | countTooLarge
  | countUnclosed
  | countReversed
  | classUnclosed
  | classRangeReversed
  | classRangeNotLiteral
  | classEscapeUnknown
  | escapeUnfinished
  | escapeUnknown
  | hexadecimalEmpty
  | hexadecimalDigit
  | hexadecimalNoCharacter
  | propertyIllFormed
  | wordEdgeUnfinished
  | wordEdgeUnclosed
  | wordEdgeUnknown
  | backReference
  | lookAround
  | flagUnknown
  | flagUnfinished
  | flagTwice
  | flagNegatedTwice
  | flagNegationDangling
  /-- Groups, classes and their like stand within each other deeper than the limit. -/
  | tooDeep (limit : Nat)
  | propertyUnknown
  | propertyValueUnknown
  /-- A character outside ASCII where only ASCII is looked at. -/
  | beyondAscii
  /-- A match could end within a character. -/
  | splitsCharacter
  deriving DecidableEq

/-- The words for a fault. -/
def Fault.message : Fault → String
  | groupUnclosed => "unclosed group"
  | groupUnopened => "unopened group"
  | groupNameUnfinished => "unclosed capture group name"
  | groupNameEmpty => "empty capture group name"
  | groupNameInvalid => "invalid capture group character"
  | groupNameTaken => "duplicate capture group name"
  | nothingToRepeat => "repetition operator missing expression"
  | countNotDecimal => "repetition quantifier expects a valid decimal"
  | countTooLarge => "decimal literal invalid"
  | countUnclosed => "unclosed counted repetition"
  | countReversed => "invalid repetition count range, the start must be <= the end"
  | classUnclosed => "unclosed character class"
  | classRangeReversed => "invalid character class range, the start must be <= the end"
  | classRangeNotLiteral => "invalid range boundary, must be a literal"
  | classEscapeUnknown => "invalid escape sequence found in character class"
  | escapeUnfinished => "incomplete escape sequence, reached end of pattern prematurely"
  | escapeUnknown => "unrecognized escape sequence"
  | hexadecimalEmpty => "hexadecimal literal empty"
  | hexadecimalDigit => "invalid hexadecimal digit"
  | hexadecimalNoCharacter => "hexadecimal literal is not a Unicode scalar value"
  | propertyIllFormed => "invalid Unicode character class"
  | wordEdgeUnfinished =>
    "found either the beginning of a special word boundary or a bounded repetition on a \\b with an opening brace, but no closing brace"
  | wordEdgeUnclosed =>
    "special word boundary assertion is either unclosed or contains an invalid character"
  | wordEdgeUnknown =>
    "unrecognized special word boundary assertion, valid choices are: start, end, start-half or end-half"
  | backReference => "backreferences are not supported"
  | lookAround => "look-around, including look-ahead and look-behind, is not supported"
  | flagUnknown => "unrecognized flag"
  | flagUnfinished => "expected flag but got end of regex"
  | flagTwice => "duplicate flag"
  | flagNegatedTwice => "flag negation operator repeated"
  | flagNegationDangling => "dangling flag negation operator"
  | tooDeep limit => s!"exceed the maximum number of nested parentheses/brackets ({limit})"
  | propertyUnknown => "Unicode property not found"
  | propertyValueUnknown => "Unicode property value not found"
  | beyondAscii => "Unicode not allowed here"
  | splitsCharacter => "pattern can match invalid UTF-8"

/-- Why a text makes no pattern. -/
inductive PatternError where
  /-- A fault at a stretch of the text; `earlier` is a stretch before it that it is in conflict with. -/
  | illFormed (fault : Fault) (span : Span) (earlier : Option Span)
  /-- The pattern takes more room than there is. -/
  | tooLarge (limit : Nat)
  deriving DecidableEq

/-- The fault at a stretch of the text. -/
def fail {α : Type} (fault : Fault) (span : Span) : Except PatternError α :=
  .error (.illFormed fault span none)

/-- The fault at a stretch of the text that is in conflict with an earlier one. -/
def failTwice {α : Type} (fault : Fault) (span earlier : Span) : Except PatternError α :=
  .error (.illFormed fault span (some earlier))

/-! ## Marked texts -/

/-- A line of carets under spans of one line that come in their order, from a column on. -/
def caretsFrom (column : Nat) : List Span → List Char
  | [] => []
  | s :: rest =>
    List.replicate (s.start.column - column) ' ' ++ List.replicate s.width '^'
      ++ caretsFrom (max column s.start.column + s.width) rest

/-- A line of the text behind its margin, and the carets under it if a span is on it. -/
def markedLine (margin : List Char) (number : Nat) (spans : List Span) (line : List Char) :
    List (List Char) :=
  let here := spans.filter fun s => s.isOneLine && s.start.line = number
  (margin ++ line)
    :: if here.isEmpty then [] else [List.replicate margin.length ' ' ++ caretsFrom 1 here]

/-- The number of a line, filled with blanks on the left to a width, and a colon. -/
def numberMargin (width number : Nat) : List Char :=
  let digits := (toString number).toList
  List.replicate (width - digits.length) ' ' ++ digits ++ [':', ' ']

/-- The lines of a text with the spans marked. The lines of a text of several are numbered. -/
def markedLines (spans : List Span) (text : List Char) : List (List Char) :=
  let count := (lines text).length + (if text.getLast? = some '\n' then 1 else 0)
  let width := (toString count).length
  ((lines text).zipIdx 1).flatMap fun (line, number) =>
    markedLine (if count ≤ 1 then List.replicate 4 ' ' else numberMargin width number) number spans line

/-- Where a span of several lines begins and ends. -/
def Span.extent (s : Span) : String :=
  s!"on line {s.start.line} (column {s.start.column}) through line {s.finish.line} "
    ++ s!"(column {s.finish.column - 1})"

/-- A line of tildes. -/
def tildes : String := String.ofList (List.replicate 79 '~')

/-- A fault and its text with the spans marked. -/
def renderFault (fault : Fault) (span : Span) (earlier : Option Span) (text : List Char) : String :=
  let spans := earlier.toList ++ [span]
  let marked := (markedLines spans text).map String.ofList
  let divider := if text.contains '\n' then [tildes] else []
  let extents := ((spans.filter (!·.isOneLine)).map Span.extent).filter fun _ => text.contains '\n'
  joinLines (["regex parse error:"] ++ divider ++ marked ++ divider ++ extents
    ++ ["error: " ++ fault.message])

/-- The error as text for people. -/
def PatternError.render (error : PatternError) (text : String) : String :=
  match error with
  | illFormed fault span earlier =>
    "Syntax(\n" ++ tildes ++ "\n" ++ renderFault fault span earlier text.toList ++ "\n" ++ tildes
      ++ "\n)"
  | tooLarge limit => s!"CompiledTooBig({limit})"

end PacketReinjection.Text
