import PacketReinjection.Tunable.TypeForm.Attribute

/-!
# `Tunable.TypeForm.FunctionType` — the types of functions

## Contents
- **`functionArgument`** — an argument, which may have a name.
- **`functionType`** — a function's type: how it is called, what it takes, what it gives.
-/

namespace PacketReinjection.Tunable

open Grammar Token

namespace Rules

variable (r : Rules)

/-- Whether a row starts with a colon that does not begin a double one. -/
def startsColon (row : List Token) : Bool := startsWith ":" row && !startsWith "::" row

/-- Whether a row starts with a name for an argument. Only the first argument can be `self`. -/
def startsArgumentName (first : Bool) (row : List Token) : Bool :=
  (startsName row || startsWord "_" row || first && startsWord "self" row) && startsColon (row.drop 1)

/-- Whether a row starts with a receiver that can be changed. -/
def startsMutableSelf (row : List Token) : Bool :=
  startsWord "mut" row && startsWord "self" (row.drop 1)

/-- Whether a row starts with the points for any number of arguments, named or not. -/
def startsVariadic (row : List Token) : Bool :=
  startsWith "..." row
    || (startsName row || startsWord "_" row) && startsWith ":" (row.drop 1)
      && startsWith "..." (row.drop 2)

/-- A receiver that can be changed, with its type if it has one. -/
def mutableSelf : Grammar Unit := verbatim do
  accept 2
  if ← ahead startsColon then
    marks ":"
    let _ ← r.type true

/-- One argument. -/
def functionArgument (first : Bool) : Grammar Unit := do
  if first && (← ahead startsMutableSelf) then
    r.mutableSelf
  else
    let isSelf ← ahead (startsWord "self")
    if ← ahead (startsArgumentName first) then
      accept 2
    if first && !isSelf && (← ahead startsMutableSelf) then
      accept 2
    else
      let _ ← r.type true

/-- Any number of arguments, which come last. -/
def variadicArguments : Grammar Unit := do
  if !(← ahead (startsWith "...")) then
    accept 2
  marks "..."
  let _ ← optionalMarks ","

/-- One of a list of arguments with its attributes and the comma behind it. -/
def listedFunctionArgument (first : Bool) : Grammar Bool := do
  if ← atEnd then
    return false
  r.attributes
  if ← ahead startsVariadic then
    variadicArguments
    return false
  r.functionArgument first
  if ← atEnd then
    return false
  marks ","
  return true

/-- All arguments. -/
def functionArguments : Grammar Unit := do
  if ← r.listedFunctionArgument true then
    repeatWhile (r.listedFunctionArgument false)

/-- The convention by which a function is called, if it is not the usual one. -/
def callingConvention : Grammar Unit := do
  if ← optionalWord "extern" then
    let _ ← optionalOne fun
      | .literal _ (.text _) :: _ => true
      | _ => false

/-- The type of a function. -/
def functionType : Grammar Unit := do
  let _ ← optionalWord "unsafe"
  callingConvention
  word "fn"
  inGroup .parenthesis r.functionArguments
  r.result

end Rules

end PacketReinjection.Tunable
