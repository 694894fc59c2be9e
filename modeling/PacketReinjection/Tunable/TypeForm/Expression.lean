import PacketReinjection.Tunable.Token.Numeral
import PacketReinjection.Tunable.TypeForm.Attribute

/-!
# `Tunable.TypeForm.Expression` — expressions

The length of an array is an expression: operands with operators around and between them. Which of two
operators binds closer matters only in so far as a comparison is no operand of another one.

## Contents
- **Fields.** `optionalFieldNumber` and `optionalFieldNumbers` write their numbers in base 10.
- **Operands.** `atom`, with `structureBody` for the fields of a structure.
- **Trailers.** Calls, fields, methods and indices behind an operand.
- **`expressionRule`** — operands with operators between them.
-/

namespace PacketReinjection.Tunable

open Grammar Token

namespace Rules

variable (r : Rules)

/-! ## Fields -/

/-- Take the number of a field, if the row starts with a natural number; it is written in base 10. -/
def optionalFieldNumber : Grammar Bool := do
  match (← get).rest with
  | .literal _ (.integer value suffixed) :: _ =>
    match (LiteralValue.integer value suffixed).fieldNumber? with
    | some n =>
      skip 1
      write (toString n)
      return true
    | none => failure
  | _ => return false

/-- The numbers of fields with points between them that read like one fraction, and whether a point stands
    behind the last. -/
def fieldNumbers? (spelling : String) : Option (List Nat × Bool) := do
  let parts := spelling.splitOn "."
  let waiting := parts.getLast? = some ""
  let numbers ← (if waiting then parts.dropLast else parts).mapM fun part => fieldNumber? part.toList
  return (numbers, waiting)

/-- Take the numbers of fields, if the row starts with a fraction. The answer says whether there were any and
    no point stands behind the last. -/
def optionalFieldNumbers : Grammar Bool := do
  match (← get).rest with
  | .literal spelling .fraction :: _ =>
    match fieldNumbers? spelling with
    | some (numbers, waiting) =>
      skip 1
      write (".".intercalate (numbers.map toString) ++ if waiting then "." else "")
      return !waiting
    | none => failure
  | _ => return false

/-! ## Operands -/

/-- The name or number of a field of a structure and its value, which a name may stand for as well. Its
    attributes are left out of the text. -/
def fieldValue : Grammar Unit := do
  let _ ← captured r.attributes
  if ← optionalFieldNumber then
    marks ":"
    r.expression
  else
    one startsName
    if ← optionalMarks ":" then
      r.expression

/-- One field of a structure and the comma behind it, if there is one. Two points and what the other
    fields are taken from come last. -/
def listedField : Grammar Bool := do
  if ← atEnd then
    return false
  if ← optionalMarks ".." then
    if !(← atEnd) then
      r.expression
    return false
  r.fieldValue
  if !(← atEnd) then
    marks ","
  return true

/-- The fields of a structure. -/
def structureBody : Grammar Unit := repeatWhile r.listedField

/-- Whether a row starts with an exclamation mark that is no inequality. -/
def startsBang (row : List Token) : Bool := startsWith "!" row && !startsWith "!=" row

/-- The tokens in the brackets behind an exclamation mark, whatever they are. -/
def bangArguments : Grammar Unit := do
  marks "!"
  one fun row => Delimiter.all.any fun d => startsGroup d row

/-- A path and what it is the start of. -/
def pathOperand : Grammar Unit := do
  let (qualified, p) ← r.anyPath true
  if !qualified && p.isBare && (← ahead startsBang) then
    bangArguments
  else if ← ahead (startsGroup .brace) then
    inGroup .brace r.structureBody

/-- Whether a row starts with a path. -/
def startsPath (row : List Token) : Bool :=
  startsName row || startsWordOf ["super", "self", "Self", "crate"] row || startsWith "::" row
    || startsWith "<" row

/-- An expression up to the end of the row. -/
def wholeExpression : Grammar Unit := do
  r.expression
  require List.isEmpty

/-- An operand without operators. -/
def atom : Grammar Unit := do
  if ← ahead startsLiteral then
    literal
  else if ← ahead (startsGroup .parenthesis) then
    inGroup .parenthesis (commaList r.expression)
  else if ← ahead startsPath then
    r.pathOperand
  else
    verbatim (inGroup .brace r.wholeExpression)

/-! ## Trailers -/

/-- A field behind a point, or a method with its arguments. -/
def member : Grammar Unit := do
  marks "."
  if !(← optionalFieldNumbers) && !(← optionalFieldNumber) then
    one startsName
    if ← ahead (startsWith "::") then
      let _ ← r.angledArguments
      require (startsGroup .parenthesis)

/-- Whether a row starts with a point that is no range and waits for nothing. -/
def startsMember (row : List Token) : Bool :=
  startsWith "." row && !startsWith ".." row && !startsWord "await" (row.drop 1)

/-- One trailer, if there is one. -/
def trailer : Grammar Bool := do
  if ← ahead (startsGroup .parenthesis) then
    inGroup .parenthesis (commaList r.expression)
    return true
  if ← ahead startsMember then
    r.member
    return true
  if ← ahead (startsGroup .bracket) then
    inGroup .bracket r.expression
    return true
  return false

/-! ## Operators -/

/-- One operator in front of an operand, if there is one. -/
def unaryOperator : Grammar Bool := do
  if ← optionalMarks "&" then
    let _ ← optionalWord "mut"
    return true
  optionalOne fun row => startsWith "*" row || startsWith "!" row || startsWith "-" row

/-- An operand with the operators in front of it and the trailers behind it. -/
def operand : Grammar Unit := do
  repeatWhile unaryOperator
  r.atom
  repeatWhile r.trailer

/-- The operators between operands, the longer before those that they start with. -/
def binaryOperators : List String :=
  ["<<=", ">>=", "+=", "-=", "*=", "/=", "%=", "^=", "&=", "|=", "&&", "||", "<<", ">>", "==", "<=",
    "!=", ">=", "+", "-", "*", "/", "%", "^", "&", "|", "<", ">"]

/-- The operators that compare. No two of them stand side by side. -/
def comparisons : List String := ["==", "<=", "!=", ">=", "<", ">"]

/-- Whether an operator binds less than a comparison. -/
def bindsLess (o : String) : Bool :=
  ["&&", "||", "+=", "-=", "*=", "/=", "%=", "^=", "&=", "|=", "<<=", ">>="].contains o

/-- Whether a row starts with what would be a trailer of an operand. Behind a type nothing of the kind may
    stand. -/
def startsTrailer (row : List Token) : Bool :=
  startsWith "." row && !startsWith ".." row || startsWith "?" row || startsGroup .bracket row
    || startsGroup .parenthesis row

/-- Operators and operands, or types behind their word, `n` times at most; `compared` says whether a
    comparison comes before them that nothing binding less has closed. -/
def operations (compared : Bool) : Nat → Grammar Unit
  | 0 => return
  | n + 1 => do
    let row := (← get).rest
    match binaryOperators.find? fun o => startsWith o row with
    | some o =>
      require fun _ => !(compared && comparisons.contains o)
      marks o
      r.operand
      operations (comparisons.contains o || compared && !bindsLess o) n
    | none =>
      if ← optionalWord "as" then
        let _ ← r.type false
        require (!startsTrailer ·)
        operations compared n

/-- Operands with operators between them. -/
def expressionRule : Grammar Unit := do
  r.operand
  r.operations false ((← get).rest.length + 1)

end Rules

end PacketReinjection.Tunable
