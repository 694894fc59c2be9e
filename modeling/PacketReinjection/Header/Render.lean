import PacketReinjection.Header.Tunables
import PacketReinjection.Text.Strings

/-!
# `Header.Render` — enumerations and tunables as C declarations

## Contents
- **Names.** `screamingSnake` writes the words of a name in capitals with underscores between them.
- **Comments.** `sanitizeComment` keeps a text from ending the comment that it stands in.
- **Declarations.** `renderEnumeration`, `renderDefines`.
- **Templates.** `inject`.
-/

namespace PacketReinjection.Header

open Text

/-! ## Names -/

/-- The characters of a name in capitals; a capital after something smaller begins a word, and
    characters other than letters and digits of ASCII are dropped. -/
def snakeFrom (afterSmall : Bool) : List Char → List Char
  | [] => []
  | c :: rest =>
    if c.isUpper then
      (if afterSmall then ['_', c] else [c]) ++ snakeFrom false rest
    else if c.isAlphanum then
      c.toUpper :: snakeFrom true rest
    else
      snakeFrom afterSmall rest

/-- The words of a name in capitals with underscores between them; a name of no usable character is
    unknown. -/
def screamingSnake (name : String) : String :=
  let snake := snakeFrom false name.toList
  if snake.isEmpty then "UNKNOWN" else String.ofList snake

/-! ## Comments -/

/-- A text that may stand in a comment: a space goes into every end of a comment. -/
def sanitizeComment (text : String) : String :=
  String.ofList (replaceAll "*/".toList "* /".toList text.toList)

/-! ## Declarations -/

/-- The lines of one member: its documentation as a comment, and the enumerator. -/
def memberLines (namePrefix : String) (m : EnumMember) : List String :=
  (m.doc.map fun doc => "  /* " ++ sanitizeComment doc ++ " */").toList
    ++ ["  " ++ namePrefix ++ screamingSnake m.name ++ " = " ++ m.value ++ ","]

/-- An enumeration as a C type. -/
def renderEnumeration (typeName namePrefix : String) (members : List EnumMember) : String :=
  joinLines (["typedef enum " ++ typeName ++ " \x7b"]
    ++ members.flatMap (memberLines namePrefix) ++ ["\x7d " ++ typeName ++ ";"])

/-- Tunables as C constants. -/
def renderDefines (values : List TunableValue) : String :=
  joinLines (values.map fun t =>
    "#define REINJECTOR_" ++ t.name ++ " " ++ toString t.value ++ "u")

/-! ## Templates -/

/-- Put a text in the place of a marker of the template that the file `path` holds. -/
def inject (template : Option String) (path marker text : String) : Except GenerationError String :=
  match template with
  | none => .error (.templateMissing path)
  | some t =>
    if occursIn marker.toList t.toList then
      .ok (String.ofList (replaceAll marker.toList text.toList t.toList))
    else
      .error (.markerMissing path marker)

end PacketReinjection.Header
