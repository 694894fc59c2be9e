import PacketReinjection.Tunable.TypeForm.Path

/-!
# `Tunable.TypeForm.Attribute` — attributes

An attribute stands in brackets behind a number sign: a path, alone, with tokens in brackets, or with a value.

## Contents
- **`attributeBody`** — what stands in the brackets.
- **`attributes`** — any number of attributes.
-/

namespace PacketReinjection.Tunable

open Grammar Token

namespace Rules

variable (r : Rules)

/-- Whether a row is a single literal. -/
def isLiteral (row : List Token) : Bool :=
  startsLiteral row && (row.drop (if startsWith "-" row then 2 else 1)).isEmpty

/-- The value of an attribute: an expression, but no attribute. -/
def attributeValue : Grammar Unit := do
  if ← ahead isLiteral then
    literal
  else
    require fun row => !(startsWith "#" row && startsGroup .bracket (row.drop 1))
    r.expression

/-- What stands in the brackets of an attribute. -/
def attributeBody : Grammar Unit := do
  if !(← optionalWord "unsafe") then
    plainPath
  if ← optionalOne fun row => Delimiter.all.any fun d => startsGroup d row then
    return
  if ← optionalMarks "=" then
    r.attributeValue

/-- Any number of attributes. -/
def attributes : Grammar Unit := repeatWhile do
  if ← optionalMarks "#" then
    inGroup .bracket r.attributeBody
    return true
  return false

end Rules

end PacketReinjection.Tunable
