import PacketReinjection.Text.Number
import PacketReinjection.Tunable.Environment
import PacketReinjection.Tunable.Library

/-!
# `Tunable.Declaration` — declarations of tunables

A declaration gives a tunable's name and type, the variable that it is set by, its default, and the least
value that it can be set to, which is 1 where none is given:

    QUEUE_SLOTS: usize, env = "QUEUE_SLOTS", default = 256, min = 2

## Contents
- **`Declaration`**, **`DeclarationError`** — what is read, or why it cannot be.
- **`DeclarationReader`** — what a library takes, with errors.
- **`Declaration.ofText`** — the declaration of a text.
- **`Declaration.value`** — the tunable's value.
-/

namespace PacketReinjection.Tunable

/-- A tunable as it is declared. -/
structure Declaration where
  name : String
  /-- The type's tokens, without blanks. -/
  type : String
  /-- The variable that the tunable is set by. -/
  setBy : String
  /-- The value where the variable does not set one. -/
  standard : Nat
  /-- The least value that the variable can set. -/
  least : Nat
  deriving DecidableEq, Repr

/-- Why a text is no declaration. -/
inductive DeclarationError where
  /-- The tokens do not have the form of a declaration. -/
  | illFormed
  /-- Another name stands where a key is due. -/
  | keyExpected (key : String)
  /-- The default is less than what the variable could set. -/
  | belowLeast (standard least : Nat)
  deriving DecidableEq, Repr

namespace DeclarationError

/-- The error as text for people, if it is about the arguments and not about their form. -/
def message? : DeclarationError → Option String
  | illFormed => none
  | keyExpected key => some ("expected `" ++ key ++ "`")
  | belowLeast standard least => some s!"default {standard} is below the minimum {least}"

end DeclarationError

section Reading

variable [SyntaxLibrary]

/-! ## Reading -/

/-- Rules that tell why they refuse a row. -/
abbrev DeclarationReader := StateT SyntaxLibrary.Row (Except DeclarationError)

namespace DeclarationReader

variable {α : Type}

/-- What the library takes. Its refusal is a matter of form. -/
def take (taken : SyntaxLibrary.Row → Option (α × SyntaxLibrary.Row)) : DeclarationReader α := fun s =>
  match taken s with
  | some result => .ok result
  | none => .error .illFormed

/-- Take a punctuation character. -/
def mark (c : Char) : DeclarationReader Unit := take fun s => (SyntaxLibrary.mark? c s).map ((), ·)

/-- Take a key and the equals sign behind it. -/
def key (k : String) : DeclarationReader Unit := do
  if (← take SyntaxLibrary.name?) ≠ k then
    throw (.keyExpected k)
  mark '='

/-- Take a natural number of 64 bits. -/
def number : DeclarationReader Nat := do
  match Text.readNumber (← take SyntaxLibrary.integer?).toList with
  | .ok n => return n
  | .error _ => throw .illFormed

/-- Take the least value, if one is given. A comma may stand there without one. -/
def leastValue : DeclarationReader Nat := do
  if SyntaxLibrary.startsWith ',' (← get) then
    mark ','
    if !SyntaxLibrary.atEnd (← get) then
      key "min"
      return ← number
  return 1

/-- Take a declaration. That the default is too small is found before what stands behind it is seen. -/
def declaration : DeclarationReader Declaration := do
  let name ← take SyntaxLibrary.name?
  mark ':'
  let type ← take SyntaxLibrary.type?
  mark ','
  key "env"
  let setBy ← take SyntaxLibrary.string?
  mark ','
  key "default"
  let standard ← number
  let least ← leastValue
  if standard < least then
    throw (.belowLeast standard least)
  return ⟨name, String.ofList (type.toList.filter (!Text.isBlank ·)), setBy, standard, least⟩

end DeclarationReader

/-! ## Declarations -/

namespace Declaration

/-- The declaration that a row of tokens makes up. -/
def ofRow (row : SyntaxLibrary.Row) : Except DeclarationError Declaration := do
  let (d, rest) ← DeclarationReader.declaration.run row
  if !SyntaxLibrary.finished rest then
    throw .illFormed
  return d

/-- The declaration that a text makes up. -/
def ofText (text : String) : Except DeclarationError Declaration :=
  match SyntaxLibrary.row? text with
  | some row => ofRow row
  | none => .error .illFormed

omit [SyntaxLibrary]

/-- The value of the tunable, its variable holding `value`. A variable of a name that cannot be set
    holds nothing. -/
def value (d : Declaration) (value : Option String) : Nat :=
  resolve (if canBeSet d.setBy then value else none) d.standard d.least

end Declaration

end Reading

end PacketReinjection.Tunable
