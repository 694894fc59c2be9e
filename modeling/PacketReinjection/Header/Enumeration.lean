import PacketReinjection.Header.GenerationError
import PacketReinjection.Text.Regex
import PacketReinjection.Text.Strings

/-!
# `Header.Enumeration` — the enumerations of a source text

An enumeration runs from its name to the first closing brace. A member is a line of its own with a name
and a number; the documentation lines right above it belong to it.

## Contents
- **`EnumMember`** — name, value as it is spelt, documentation.
- **Expressions.** `compiled`, `groupOf`: what the generator makes of a library's answers.
- **Lines.** `memberPatternText`, `docPatternText`, and `membersOf`, which reads a body.
- **`enumeration`** — the members of the enumeration of a given name.
-/

namespace PacketReinjection.Header

open Text

/-- A member of an enumeration. -/
structure EnumMember where
  name : String
  /-- The value as it is spelt in the source. -/
  value : String
  /-- The documentation lines, joined by single spaces, if there are any. -/
  doc : Option String
  deriving DecidableEq

section Scanning

variable [RegexLibrary]

/-! ## Expressions -/

/-- An expression from its text. The generator does not go on without it. -/
def compiled (text : String) : Except GenerationError Regex :=
  (RegexLibrary.compile text).mapError .badPattern

/-- The text of a group that every match is taken to have. -/
def groupOf (found : Captures) (index : Nat) : Except GenerationError (List Char) :=
  match found index with
  | some text => .ok text
  | none => .error .groupMissing

/-! ## Lines -/

/-- A line that is a member: a name, an equals sign and a number, with a comma after it or not. -/
def memberPatternText : String :=
  "^\\s*([A-Za-z_][A-Za-z0-9_]*)\\s*=\\s*(-?(?:0x[0-9A-Fa-f]+|\\d+))\\s*,?\\s*$"

/-- A line of documentation. -/
def docPatternText : String := "^\\s*///\\s?(.*)$"

/-- What a line of a body is. -/
inductive BodyLine where
  | doc (text : List Char)
  | member (name value : List Char)
  | other
  deriving DecidableEq

/-- Tell what a line of a body is, by the expressions for members and for documentation. -/
def BodyLine.ofLine (member doc : Regex) (line : List Char) : Except GenerationError BodyLine := do
  match doc.captures line with
  | some found => return .doc (trim (← groupOf found 1))
  | none =>
    match member.captures line with
    | some found => return .member (← groupOf found 1) (← groupOf found 2)
    | none => return .other

/-- Documentation lines as one text, or nothing if there are none. -/
def joinDoc (docs : List (List Char)) : Option String :=
  if docs.isEmpty then none else some (" ".intercalate (docs.map String.ofList))

/-- The members among lines, `docs` being the documentation lines right above the first of them. Any
    line but documentation puts an end to the documentation above it. -/
def membersFrom (docs : List (List Char)) : List BodyLine → List EnumMember
  | [] => []
  | .doc text :: rest => membersFrom (docs ++ [text]) rest
  | .member name value :: rest =>
    ⟨String.ofList name, String.ofList value, joinDoc docs⟩ :: membersFrom [] rest
  | .other :: rest => membersFrom [] rest

/-- The members in the body of an enumeration. -/
def membersOf (member doc : Regex) (body : List Char) : Except GenerationError (List EnumMember) := do
  return membersFrom [] (← (lines body).mapM (BodyLine.ofLine member doc))

/-! ## Enumerations -/

/-- The text of the pattern that finds an enumeration by its name. Its first group is the body, up to
    the first closing brace. The name stands in it as it is, so it may be a pattern itself. -/
def enumerationPatternText (name : String) : String :=
  "(?s)\\bpub\\s+enum\\s+" ++ name ++ "\\s*\\\x7b(.*?)\\\x7d"

/-- The members of the enumeration `name` in the text of the file `path`. -/
def enumeration (text name path : String) : Except GenerationError (List EnumMember) := do
  let head ← compiled (enumerationPatternText name)
  match head.captures text.toList with
  | none => throw (.enumerationMissing name path)
  | some found =>
    let body ← groupOf found 1
    let member ← compiled memberPatternText
    let doc ← compiled docPatternText
    let members ← membersOf member doc body
    if members.isEmpty then throw (.noMembers name path)
    return members

end Scanning

end PacketReinjection.Header
