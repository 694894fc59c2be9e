import PacketReinjection.Text.Number

/-!
# `Header.GenerationError` — why no header is generated

## Contents
- **`GenerationError`** — the causes, with their wording.
-/

namespace PacketReinjection.Header

/-- Why no header is generated. -/
inductive GenerationError where
  /-- A source file is missing. -/
  | sourceMissing (path : String)
  /-- The template file is missing. -/
  | templateMissing (path : String)
  /-- An expression does not compile. -/
  | badPattern (description : String)
  /-- A source file has no enumeration of this name. -/
  | enumerationMissing (name path : String)
  /-- A match leaves no text of a group that it is taken to have. -/
  | groupMissing
  /-- An enumeration has no member with a value. -/
  | noMembers (name path : String)
  /-- A default or a minimum is no 64-bit number. -/
  | badNumber (fault : Text.NumberFault)
  /-- A source file declares no tunable. -/
  | noTunables (path : String)
  /-- The template does not hold the marker. -/
  | markerMissing (path marker : String)
  deriving DecidableEq

/-- The name of a number's fault. -/
def numberFaultName : Text.NumberFault → String
  | .noDigits => "Empty"
  | .invalidDigit => "InvalidDigit"
  | .tooLarge => "PosOverflow"

/-- The error as text for people. -/
def GenerationError.message : GenerationError → String
  | sourceMissing path => s!"failed to read {path}: No such file or directory (os error 2)"
  | templateMissing path =>
    s!"read template {path} failed: No such file or directory (os error 2)"
  | badPattern description => "regex compile failed: " ++ description
  | enumerationMissing name path =>
    "could not find `pub enum " ++ name ++ " \x7b ... \x7d` in " ++ path
  | groupMissing => "called `Option::unwrap()` on a `None` value"
  | noMembers name path =>
    name ++ " enum found, but no explicit `Variant = <int>` members were parsed in " ++ path
  | badNumber fault =>
    "called `Result::unwrap()` on an `Err` value: ParseIntError \x7b kind: "
      ++ numberFaultName fault ++ " \x7d"
  | noTunables path => "no define_env_constant! invocations found in " ++ path
  | markerMissing path marker => s!"template {path} is missing marker: {marker}"

end PacketReinjection.Header
