import PacketReinjection.Header.Generate

/-!
# `Main` — the header generator's command

The build tool runs it with the directory of the sources in a variable. It prints the lines for the build
tool, writes the header, and fails with the reason if there is none.

## Contents
- **Inputs.** `readText?`, `readVariables`.
- **`generateHeader`**, **`main`**.
-/

namespace PacketReinjection

/-! ## Inputs -/

/-- The variable that holds the directory of the sources. -/
def directoryVariable : String := "CARGO_MANIFEST_DIR"

/-- The text of a file, if it can be read. -/
def readText? (path : String) : IO (Option String) := do
  try
    return some (← IO.FS.readFile path)
  catch _ =>
    return none

/-- The variables of some names that are set, with their values. -/
def readVariables (names : List String) : IO Tunable.Environment := do
  let values ← names.mapM fun name => return (name, ← IO.getEnv name)
  return values.filterMap fun (name, value) => value.map (name, ·)

/-! ## The command -/

/-- Generate the header of the sources below a directory. The answer is the command's exit code. -/
def generateHeader (directory : String) : IO UInt32 := do
  let paths := Header.SourcePaths.below directory
  let sources : Header.Sources :=
    ⟨← readText? paths.codes, ← readText? paths.config, ← readText? paths.entries,
      ← readText? paths.template⟩
  let names := Header.tunableVariablesOf (sources.config.getD "")
  let g := Header.generate sources directory (← readVariables (Header.skipVariable :: names))
  g.lines.forM IO.println
  if let some header := g.header then
    let folder := Header.headerFolder directory
    IO.FS.createDirAll folder
    IO.FS.writeFile (folder ++ "/" ++ Header.headerName) header
  match g.error with
  | some error =>
    IO.eprintln error.message
    return 101
  | none => return 0

end PacketReinjection

/-- Generate the header below the directory that its variable names. -/
def main : IO UInt32 := do
  match ← IO.getEnv PacketReinjection.directoryVariable with
  | some directory => PacketReinjection.generateHeader directory
  | none =>
    IO.eprintln (PacketReinjection.directoryVariable ++ ": NotPresent")
    return 101
