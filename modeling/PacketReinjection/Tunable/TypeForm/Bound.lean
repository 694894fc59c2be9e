import PacketReinjection.Tunable.TypeForm.Attribute

/-!
# `Tunable.TypeForm.Bound` — bounds

A bound is a lifetime or a trait, which may bring parameters of its own or be relaxed by a question mark, but
not both.

## Contents
- **Parameters.** `parameter`, and `broughtParameters`, those that a type or a bound brings.
- **`boundRule`**, **`bounds`** — one bound, and several with plus signs between them.
-/

namespace PacketReinjection.Tunable

open Grammar Token

namespace Rules

variable (r : Rules)

/-! ## Parameters -/

/-- What a parameter is bound by, behind a colon. The colon is left out of the text where nothing follows. -/
def optionalBounds (bounds : Grammar Unit) : Grammar Unit := do
  if ← ahead (startsWith ":") then
    skip 1
    let (_, text) ← captured bounds
    if !text.isEmpty then
      write (":" ++ text)

/-- The lifetimes that a lifetime outlives; a plus sign may stand behind the last. -/
def outlived : Grammar Unit := repeatWhile do
  if ← ahead startsLifetime then
    accept 1
    optionalMarks "+"
  else
    return false

/-- The name of a type, what it is bound by, and the type that it is by default. -/
def typeParameter : Grammar Unit := do
  one startsName
  optionalBounds (r.boundsUntil fun row =>
    row.isEmpty || startsWith "," row || startsWith ">" row || startsWith "=" row)
  if ← optionalMarks "=" then
    let _ ← r.type true

/-- The name of a constant, its type, and its value by default. -/
def constantParameter : Grammar Unit := do
  word "const"
  one startsName
  marks ":"
  let _ ← r.type true
  if ← optionalMarks "=" then
    r.constant

/-- One parameter with its attributes. -/
def parameter : Grammar Unit := do
  r.attributes
  if ← ahead startsLifetime then
    accept 1
    optionalBounds outlived
  else if ← ahead startsName then
    r.typeParameter
  else
    r.constantParameter

/-- One of a list of parameters with the comma behind it. -/
def listedParameter : Grammar Bool := do
  if ← ahead (startsWith ">") then
    return false
  r.parameter
  if !(← ahead (startsWith ">")) then
    marks ","
  return true

/-- Parameters that a type or a bound brings. -/
def broughtParameters : Grammar Unit := do
  word "for"
  marks "<"
  repeatWhile r.listedParameter
  marks ">"

/-- Parameters that a bound brings, if it brings any. -/
def optionalParameters : Grammar Bool := do
  if ← ahead (startsWord "for") then
    r.broughtParameters
    return true
  return false

/-! ## Bounds -/

/-- The text of a path without the angle brackets at its end, and the double colons before them. -/
def withoutBrackets (text : String) : String :=
  let cs := text.toList.reverse.drop 2
  String.ofList (if "::".toList.isPrefixOf cs then cs.drop 2 else cs).reverse

/-- A trait. Angle brackets with nothing between them are left out of the text where arguments in parentheses
    follow. -/
def traitBound : Grammar Unit := do
  let brought ← r.optionalParameters
  let relaxed ← optionalMarks "?"
  require fun row => !relaxed || !brought && !startsWord "for" row
  let (p, text) ← captured (r.path false)
  if p.endsBare && (← ahead startsParenthesised) then
    write (if p.endsVacant then withoutBrackets text else text)
    r.callArguments
  else
    write text

/-- One bound. The answer says whether it is a trait. -/
def boundRule : Grammar Bool := do
  if ← ahead startsLifetime then
    accept 1
    return false
  if ← ahead (startsGroup .parenthesis) then
    inGroup .parenthesis r.traitBound
  else
    r.traitBound
  return true

/-- Whether a row starts with a bound. -/
def startsBound (row : List Token) : Bool :=
  startsAnyName row || startsWith "::" row || startsWith "?" row || startsLifetime row
    || startsGroup .parenthesis row

/-- One more bound behind a plus sign. The answer says whether it is a trait; nothing where there is no
    plus sign, or behind it nothing that `starts` a bound. -/
def nextBound (starts : List Token → Bool) : Grammar (Option Bool) := do
  if ← optionalMarks "+" then
    if ← ahead starts then
      return some (← r.boundRule)
  return none

/-- The bounds behind the first. -/
def moreBounds (starts : List Token → Bool) : Grammar (List Bool) := gather (r.nextBound starts)

/-- Bounds, more than one only if `plus` allows it. At least one of them is a trait. -/
def bounds (plus : Bool) (starts : List Token → Bool) : Grammar Unit := do
  let first ← r.boundRule
  let more ← if plus then r.moreBounds starts else pure []
  if first || more.any id then pure () else failure

/-- A bound behind every plus sign. -/
def boundAfterPlus : Grammar Bool := do
  if ← optionalMarks "+" then
    let _ ← r.boundRule
    return true
  return false

end Rules

end PacketReinjection.Tunable
