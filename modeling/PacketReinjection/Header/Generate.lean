import PacketReinjection.Header.Render
import PacketReinjection.Text.Pattern.Library

/-!
# `Header.Generate` — the header of the C interface

The header is a template in which the result codes, sub-commands, packet classes, status codes and
tunables of the sources stand in the place of a marker. Generation also tells the build tool what the
header depends on.

## Contents
- **`Sources`** — the files that are read, each as its text if it is there.
- **`Generation`** — the lines for the build tool, the header, and why there is none.
- **`generate`** — all of it.
-/

namespace PacketReinjection.Header

/-- The files that are read. -/
structure Sources where
  /-- Declares the result codes. -/
  codes : Option String
  /-- Declares the sub-commands, the packet classes and the tunables. -/
  config : Option String
  /-- Declares the status codes. -/
  entries : Option String
  template : Option String

/-- What a run of the generator did. -/
structure Generation where
  /-- The lines printed for the build tool. -/
  lines : List String
  header : Option String
  error : Option GenerationError

/-- The variables that tunables take their values from. -/
def tunableVariables : List String := ["REINJECTOR_PKT_QUEUE_SIZE", "REINJECTOR_TICK_PERIOD_US"]

/-- The variable that, set to anything, keeps the header from being generated. -/
def skipVariable : String := "REINJECTOR_RS_SKIP_ENUMGEN"

/-- The place of the generated declarations in the template. -/
def templateMarker : String := "/* \x7b\x7bAUTOGEN:ENUMS\x7d\x7d */"

/-- The paths of the files below a directory. -/
structure SourcePaths where
  codes : String
  config : String
  entries : String
  template : String

/-- Where the files lie below a directory. -/
def SourcePaths.below (directory : String) : SourcePaths where
  codes := directory ++ "/src/lib.rs"
  config := directory ++ "/src/config.rs"
  entries := directory ++ "/src/c_api.rs"
  template := directory ++ "/header_templates/reinjector.h.txt"

/-- Where the header is written, below a directory. -/
def headerFolder (directory : String) : String := directory ++ "/C-Headers"

/-- The header's name in its folder. -/
def headerName : String := "reinjector.h"

/-- The text of a file, or the error that it is missing. -/
def readSource (path : String) (text : Option String) : Except GenerationError String :=
  match text with
  | some t => .ok t
  | none => .error (.sourceMissing path)

section Generating

variable [Text.RegexLibrary]

/-- The header from the sources. All files but the template are read before any is looked into. -/
def headerText (sources : Sources) (paths : SourcePaths) (env : Tunable.Environment) :
    Except GenerationError String := do
  let codes ← readSource paths.codes sources.codes
  let config ← readSource paths.config sources.config
  let entries ← readSource paths.entries sources.entries
  let resultCodes ← enumeration codes "ResultCode" paths.codes
  let subCommands ← enumeration config "SubCommand" paths.config
  let packetClasses ← enumeration config "PacketType" paths.config
  let statuses ← enumeration entries "ReinjectorStatus" paths.entries
  let values ← tunables config paths.config env
  let enumerations := "\n\n".intercalate
    [renderEnumeration "ReinjectorResultCode" "REINJECTOR_RC_" resultCodes,
      renderEnumeration "ReinjectorSubCommand" "REINJECTOR_CMD_" subCommands,
      renderEnumeration "ReinjectorPacketType" "REINJECTOR_PKT_" packetClasses,
      renderEnumeration "ReinjectorStatus" "REINJECTOR_" statuses]
  inject sources.template paths.template templateMarker
    (renderDefines values ++ "\n\n" ++ enumerations ++ "\n")

/-- Generate the header from the files below a directory. -/
def generate (sources : Sources) (directory : String) (env : Tunable.Environment) : Generation :=
  let environmentLines := (tunableVariables ++ [skipVariable]).map ("cargo:rerun-if-env-changed=" ++ ·)
  if (env.lookup? skipVariable).isSome then
    { lines := environmentLines ++
        ["cargo:warning=Skipping enum generation (REINJECTOR_RS_SKIP_ENUMGEN set)"]
      header := none
      error := none }
  else
    let paths := SourcePaths.below directory
    let files := [paths.codes, paths.config, paths.entries, paths.template].map
      ("cargo:rerun-if-changed=" ++ ·)
    match headerText sources paths env with
    | .ok header => { lines := environmentLines ++ files, header := some header, error := none }
    | .error error => { lines := environmentLines ++ files, header := none, error := some error }

end Generating

end PacketReinjection.Header
