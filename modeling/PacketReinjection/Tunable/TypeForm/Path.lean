import PacketReinjection.Tunable.TypeForm.Rules

/-!
# `Tunable.TypeForm.Path` — paths

A path is a row of words with double colons between them. A word may have arguments in angle brackets, and
the first word may stand behind a type in angle brackets. Where a path names a trait, its last word may have
arguments in parentheses.

## Contents
- **Arguments.** `genericArgument`, `angledArguments`, `parenthesisedArguments`.
- **Words.** `segment`, `pathTail`.
- **Paths.** `path`, `qualifiedPath`, `anyPath`, `plainPath`.
-/

namespace PacketReinjection.Tunable

open Grammar Token

namespace Rules

variable (r : Rules)

/-! ## Arguments -/

/-- The type of a result, if there is one. -/
def result : Grammar Unit := do
  if ← optionalMarks "->" then
    let _ ← r.type false

/-- Types in parentheses, and the type of a result. -/
def parenthesisedArguments : Grammar Unit := do
  inGroup .parenthesis (commaList do let _ ← r.type true)
  r.result

/-- Whether a row starts with something constant: a literal or an expression in braces. -/
def startsConstant (row : List Token) : Bool := startsLiteral row || startsGroup .brace row

/-- A literal, a name, or an expression in braces, which is kept as it stands. -/
def constant : Grammar Unit := do
  if ← ahead startsLiteral then
    literal
  else if ← ahead startsName then
    accept 1
  else
    verbatim (inGroup .brace r.expression)

/-- Bounds with plus signs between them up to a row of some form; a plus sign may stand behind the last. -/
def boundsUntil (stop : List Token → Bool) : Grammar Unit := repeatWhile do
  if ← ahead stop then
    return false
  let _ ← r.bound
  optionalMarks "+"

/-- What stands behind the name of an associated item: what it is, or what it is bound by. -/
def associated : Grammar Unit := do
  if ← optionalMarks "=" then
    if ← ahead startsConstant then
      r.constant
    else
      let _ ← r.type true
  else
    marks ":"
    r.boundsUntil fun row => startsWith "," row || startsWith ">" row

/-- One argument in angle brackets. The answer says whether it is a lifetime. -/
def genericArgument : Grammar Bool := do
  if ← ahead fun row => startsLifetime row && !startsWith "+" (row.drop 1) then
    accept 1
    return true
  if ← ahead startsConstant then
    r.constant
    return false
  match ← r.type true with
  | .path p =>
    if p.isSingle && (← ahead fun row => startsWith "=" row || startsWith ":" row) then
      r.associated
    return false
  | _ => return false

/-- An argument in angle brackets as it is written out. -/
structure WrittenArgument where
  isLifetime : Bool
  text : String
  /-- Whether a comma follows. -/
  comma : Bool

/-- The text of an argument with its comma. -/
def WrittenArgument.render (a : WrittenArgument) : String := a.text ++ if a.comma then "," else ""

/-- Arguments from the first that is no lifetime on; `separated` says whether a comma, or nothing at all,
    stands before it. -/
def renderRest : Bool → List WrittenArgument → String
  | _, [] => ""
  | separated, a :: rest => (if separated then "" else ",") ++ a.render ++ renderRest a.comma rest

/-- The text of arguments. Lifetimes come first wherever they stand in the source. -/
def renderArguments (arguments : List WrittenArgument) : String :=
  let lifetimes := arguments.filter (·.isLifetime)
  String.join (lifetimes.map (·.render))
    ++ renderRest ((lifetimes.getLast?.map (·.comma)).getD true) (arguments.filter (!·.isLifetime))

/-- One of a list of arguments, with the comma behind it; nothing at the closing bracket. -/
def listedArgument : Grammar (Option WrittenArgument) := do
  if ← ahead (startsWith ">") then
    return none
  let (isLifetime, text) ← captured r.genericArgument
  if ← ahead (startsWith ">") then
    return some ⟨isLifetime, text, false⟩
  require (startsWith ",")
  skip 1
  return some ⟨isLifetime, text, true⟩

/-- Arguments in angle brackets, which may stand behind double colons. -/
def angledArguments : Grammar ArgumentForm := do
  let _ ← optionalMarks "::"
  marks "<"
  let arguments ← gather r.listedArgument
  write (renderArguments arguments)
  marks ">"
  return if arguments.isEmpty then .vacant else .angled

/-! ## Words -/

/-- The words that begin a path of their own. -/
def pathWords : List String := ["super", "self", "crate"]

/-- Whether arguments in angle brackets follow. In an expression they need double colons, since an angle
    bracket may stand for a comparison there. -/
def startsAngled (inExpression : Bool) (row : List Token) : Bool :=
  !inExpression && startsWith "<" row && !startsWith "<=" row && !startsWith "<<=" row
    || startsWith "::" row && startsWith "<" (row.drop 2)

/-- One word of a path and its arguments in angle brackets. -/
def segment (inExpression : Bool) : Grammar ArgumentForm := do
  if ← optionalOne (startsWordOf pathWords) then
    return .none
  one fun row => startsName row || startsWord "Self" row
  if ← ahead (startsAngled inExpression) then
    return ← r.angledArguments
  return .none

/-- One more word of a path, if there is one. -/
def nextSegment (inExpression : Bool) : Grammar (Option ArgumentForm) := do
  if ← ahead fun row => startsWith "::" row && !startsGroup .parenthesis (row.drop 2) then
    marks "::"
    return some (← r.segment inExpression)
  return none

/-- The words of a path behind the first. -/
def pathTail (inExpression : Bool) : Grammar (List ArgumentForm) :=
  gather (r.nextSegment inExpression)

/-! ## Paths -/

/-- A path. -/
def path (inExpression : Bool) : Grammar PathForm := do
  let rooted ← optionalMarks "::"
  let first ← r.segment inExpression
  return ⟨rooted, first :: (← r.pathTail inExpression)⟩

/-- One more word of a path behind a type, if there is one. -/
def nextQualified (inExpression : Bool) : Grammar (Option ArgumentForm) := do
  if ← optionalMarks "::" then
    return some (← r.segment inExpression)
  return none

/-- A path behind a type in angle brackets, which may be taken as another. -/
def qualifiedPath (inExpression : Bool) : Grammar PathForm := do
  marks "<"
  let _ ← r.type true
  if ← optionalWord "as" then
    let _ ← r.path false
  marks ">"
  marks "::"
  let first ← r.segment inExpression
  return ⟨false, first :: (← gather (r.nextQualified inExpression))⟩

/-- A path, and whether it stands behind a type. -/
def anyPath (inExpression : Bool) : Grammar (Bool × PathForm) := do
  if ← ahead (startsWith "<") then
    return (true, ← r.qualifiedPath inExpression)
  else
    return (false, ← r.path inExpression)

/-- Whether arguments in parentheses follow, behind double colons or not. -/
def startsParenthesised (row : List Token) : Bool :=
  startsGroup .parenthesis row || startsWith "::" row && startsGroup .parenthesis (row.drop 2)

/-- Arguments in parentheses. Double colons in front of them are left out of the text. -/
def callArguments : Grammar Unit := do
  if ← ahead (startsWith "::") then
    skip 2
  r.parenthesisedArguments

/-- One word of a path without arguments. -/
def plainWord : Grammar Unit := one fun row =>
  startsName row || startsWordOf ["super", "self", "Self", "crate"] row

/-- A path without arguments. -/
def plainPath : Grammar Unit := do
  let _ ← optionalMarks "::"
  plainWord
  repeatWhile do
    if ← optionalMarks "::" then
      plainWord
      return true
    return false

end Rules

end PacketReinjection.Tunable
