import PacketReinjection.Tunable.TypeForm.Bound
import PacketReinjection.Tunable.TypeForm.Expression
import PacketReinjection.Tunable.TypeForm.FunctionType

/-!
# `Tunable.TypeForm.Type` — types

## Contents
- **Parentheses.** `parenthesised` tells tuples, types in parentheses and bounds in parentheses apart.
- **Paths.** `pathType` — a path, a path with bounds added, or a path applied to tokens.
- **`typeRule`** — a type of any kind.
- **`Rules.upTo`** — the rules tied together, to a depth.
- **`typeForm`** — a type, as deep as the row that is left.
-/

namespace PacketReinjection.Tunable

open Grammar Token

namespace Rules

variable (r : Rules)

/-! ## Parentheses -/

/-- What stands in parentheses. -/
inductive Parenthesised where
  /-- Nothing, several types, or bounds: a type with nothing to add. -/
  | whole
  /-- A relaxed bound, to which bounds can always be added. -/
  | relaxed
  /-- One type. -/
  | single (form : Form)

/-- The inside of parentheses. -/
def parenthesisedBody : Grammar Parenthesised := do
  if ← atEnd then
    return .whole
  if ← ahead startsLifetime then
    r.bounds true startsBound
    return .whole
  if ← ahead (startsWith "?") then
    r.traitBound
    return .relaxed
  let form ← r.type true
  if ← optionalMarks "," then
    commaList do let _ ← r.type true
    return .whole
  return .single form

/-- The text of a bound in two pairs of parentheses, without one of them. -/
def withoutOuterPair (text : String) : String := String.ofList (text.toList.drop 1).dropLast

/-- A type that starts with parentheses. A bound has one pair of them at most. -/
def parenthesised (plus : Bool) : Grammar Form := do
  let (inside, text) ← captured (inGroup .parenthesis r.parenthesisedBody)
  let added ← ahead (startsWith "+")
  match inside with
  | .whole =>
    write text
    return .other
  | .relaxed =>
    write text
    repeatWhile r.boundAfterPlus
    return if added then .other else .enclosedBound
  | .single form =>
    if plus && added && form ≠ .other then
      write (if form = .enclosedBound then withoutOuterPair text else text)
      repeatWhile r.boundAfterPlus
    else
      write text
    return .other

/-! ## Paths -/

/-- A path as a type. Bounds are added to it where that is allowed; `brought` is the text of parameters that it
    brings, which a path applied to tokens does without. -/
def pathType (plus : Bool) (brought : String) : Grammar Form := do
  let ((qualified, p), text) ← captured (r.anyPath false)
  if !qualified && p.isBare && (← ahead startsBang) then
    write text
    bangArguments
    return .other
  write (brought ++ text)
  if qualified then
    return .other
  if plus && (← ahead (startsWith "+")) then
    let _ ← r.moreBounds startsBound
    return .other
  return if brought.isEmpty then .path p else .bound

/-! ## Types -/

/-- A type behind a star. -/
def pointerType : Grammar Unit := do
  marks "*"
  one (startsWordOf ["const", "mut"])
  let _ ← r.type false

/-- A type behind an ampersand. -/
def referenceType : Grammar Unit := do
  marks "&"
  let _ ← optionalOne startsLifetime
  let _ ← optionalWord "mut"
  let _ ← r.type false

/-- The inside of brackets: the type of the elements, and their number if it is fixed. -/
def sliceBody : Grammar Unit := do
  let _ ← r.type true
  if ← optionalMarks ";" then
    r.expression

/-- Bounds behind the word for a type of which only they are known. Behind a star they are kept as they
    stand. Where the type is a single unnamed one, brackets behind a plus sign count as the start of a bound. -/
def boundType (plus : Bool) : Grammar Unit := do
  if ← ahead fun row => startsWord "dyn" row && startsWith "*" (row.drop 1) then
    verbatim do
      accept 2
      r.bounds plus startsBound
  else if ← optionalWord "impl" then
    r.bounds plus fun row => startsBound row || startsGroup .bracket row
  else
    word "dyn"
    r.bounds plus startsBound

/-- Whether a row starts with the type of a function. -/
def startsFunction (row : List Token) : Bool := startsWordOf ["fn", "unsafe", "extern"] row

/-- A type that brings parameters. -/
def broughtType (plus : Bool) : Grammar Form := do
  let (_, brought) ← captured r.broughtParameters
  if ← ahead startsFunction then
    write brought
    r.functionType
    return .other
  require fun row => startsName row || startsWordOf ["super", "self", "Self", "crate"] row
  r.pathType plus brought

/-- A type of any kind; `plus` says whether bounds may be added. -/
def typeRule (plus : Bool) : Grammar Form := do
  let row := (← get).rest
  if startsWord "for" row then
    r.broughtType plus
  else if startsGroup .parenthesis row then
    r.parenthesised plus
  else if startsPath row then
    r.pathType plus ""
  else do
    if startsFunction row then
      r.functionType
    else if startsWordOf ["dyn", "impl"] row then
      r.boundType plus
    else if startsGroup .bracket row then
      inGroup .bracket r.sliceBody
    else if startsWith "*" row then
      r.pointerType
    else if startsWith "&" row then
      r.referenceType
    else if startsLifetime row then
      r.bounds true startsBound
    else
      one fun row => startsWith "!" row || startsWord "_" row
    return .other

/-! ## The rules together -/

/-- The rules, for types, bounds and expressions that hold each other `depth` times at most. -/
def upTo : (depth : Nat) → Rules
  | 0 => ⟨fun _ => failure, failure, failure⟩
  | depth + 1 => ⟨(upTo depth).typeRule, (upTo depth).boundRule, (upTo depth).expressionRule⟩

end Rules

/-- A type. Every type, bound or expression within another takes at least one token less, so the rules need
    not reach deeper than there are tokens. -/
def typeForm : Grammar Form := do
  (Rules.upTo (countAll (← get).rest + 1)).type true

end PacketReinjection.Tunable
