import PacketReinjection.Header.Enumeration
import PacketReinjection.Tunable.Environment

/-!
# `Header.Tunables` — the tunables of a source text

A tunable is found wherever its declaration stands, and takes its value from the environment in the same
way as where it is declared.

## Contents
- **`TunableValue`** — a tunable's name and value.
- **`tunablePatternText`** — the shape of a declaration.
- **`tunableVariablesOf`** — the variables that a text's tunables are set by.
- **`tunables`** — the tunables of a text, in their order.
-/

namespace PacketReinjection.Header

open Text

/-- A tunable's name and value. -/
structure TunableValue where
  name : String
  value : Nat
  deriving DecidableEq

section Scanning

variable [RegexLibrary]

/-- The shape of a declaration: name (group 1), type of one word, variable (group 2), default
    (group 3), and a minimum (group 4) if there is one. -/
def tunablePatternText : String :=
  "(?s)define_env_constant!\\s*\\(\\s*([A-Z_][A-Z0-9_]*)\\s*:\\s*\\w+\\s*,\\s*env\\s*=\\s*\"([^\"]+)\"\\s*,"
    ++ "\\s*default\\s*=\\s*(\\d+)(?:\\s*,\\s*min\\s*=\\s*(\\d+))?"

/-- The variables of the tunables declared in a text. -/
def tunableVariablesOf (text : String) : List String :=
  match RegexLibrary.compile tunablePatternText with
  | .ok re => (re.capturesIter text.toList).map fun found => String.ofList ((found 2).getD [])
  | .error _ => []

/-- A number of a declaration. -/
def declaredNumber (digits : List Char) : Except GenerationError Nat :=
  (readNumber digits).mapError .badNumber

/-- The tunable of one declaration. The minimum is 1 where none is declared. -/
def tunableAt (env : Tunable.Environment) (found : Captures) : Except GenerationError TunableValue := do
  let name ← groupOf found 1
  let setBy ← groupOf found 2
  let standard ← declaredNumber (← groupOf found 3)
  let least ← match found 4 with
    | some digits => declaredNumber digits
    | none => pure 1
  return { name := String.ofList name,
           value := Tunable.resolve (env.lookup? (String.ofList setBy)) standard least }

/-- The tunables declared in the text of the file `path`. -/
def tunables (text path : String) (env : Tunable.Environment) :
    Except GenerationError (List TunableValue) := do
  let re ← compiled tunablePatternText
  let found ← (re.capturesIter text.toList).mapM (tunableAt env)
  if found.isEmpty then throw (.noTunables path)
  return found

end Scanning

end PacketReinjection.Header
