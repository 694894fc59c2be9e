import PacketReinjection.Text.Number
import PacketReinjection.Text.Strings

/-!
# `Tunable.Environment` — build-time settings

A tunable takes its value from an environment variable if that holds a number that is large enough, and
its default otherwise.

## Contents
- **`Environment`** — variables and their values, with `lookup?`.
- **`resolve`** — the value of a tunable.
-/

namespace PacketReinjection.Tunable

/-- Variables and their values. A variable is kept as one text, its name, an equals sign and its value. -/
abbrev Environment := List (String × String)

/-- Whether a variable of this name can be set: the name is not empty and holds neither an equals sign
    nor a null character. -/
def canBeSet (name : String) : Bool :=
  !name.isEmpty && name.toList.all fun c => c ≠ '=' && c ≠ '\x00'

/-- What follows a name and an equals sign in the text of a variable. A name with equals signs in it finds a
    variable whose value goes on like the name. -/
def valueBehind? (name : String) (entry : String × String) : Option String :=
  let start := name.toList ++ ['=']
  let text := entry.1.toList ++ '=' :: entry.2.toList
  if start.isPrefixOf text then some (String.ofList (text.drop start.length)) else none

/-- The value of a variable, if it is set. No variable has an empty name or one with a null character. -/
def Environment.lookup? (env : Environment) (name : String) : Option String :=
  if name.isEmpty || name.toList.contains '\x00' then none
  else (env.filter fun entry => canBeSet entry.1).findSome? (valueBehind? name)

/-- The number that a variable holds, blanks around it aside. -/
def numberOf? (value : String) : Option Nat :=
  (Text.readNumber (Text.trim value.toList)).toOption

/-- The value of a tunable: the number in its variable if there is one and it reaches the minimum, its
    default otherwise. -/
def resolve (value : Option String) (standard least : Nat) : Nat :=
  match value.bind numberOf? with
  | some n => if least ≤ n then n else standard
  | none => standard

end PacketReinjection.Tunable
