import LayeredLint.CommandLine

/-!
# The program

The command line over the shipped layers, in the current directory. What a command may read is read
before it runs, so that the command itself works on data.
-/

namespace LayeredLint.CommandLine

/-- The variables of the environment that commands look at. -/
def variableNames : List String :=
  [SettingsFile.commandVariable, "NODE_ENV"]

/-- The variables that are set. -/
def readVariables : IO (Table String String) := do
  let assignments ← variableNames.filterMapM fun name => do
    let value ← IO.getEnv name
    return value.map (name, ·)
  return .ofList assignments

/-- The paths of the files that a line of arguments may make a command read. -/
def wantedFiles (line : List String) : List Path :=
  match Invocation.ofArguments line with
  | .ok ⟨_, .verify _ path root⟩ =>
    let directory := Path.ofString (root.getD ".")
    [.ofString path, directory.join (.ofString SettingsFile.fileName)]
  | _ => []

/-- A workspace with a file of the disk, if it is there and can be read. -/
def addFromDisk (w : Workspace) (p : Path) : IO Workspace := do
  try
    let bytes ← IO.FS.readBinFile p.toString
    return w.withFile p bytes.toList
  catch _ => return w

/-- A host without programs, on which the linter is never found. -/
def bareHost : Host where
  locate _ := none
  run _ := { status := 127 }

/-- Run a command, print what it shows, and return its exit status. -/
def program (line : List String) : IO UInt32 := do
  let directory ← IO.currentDir
  let env ← readVariables
  let workspace ← (wantedFiles line).foldlM addFromDisk { root := .ofString directory.toString }
  let surroundings : Surroundings :=
    { layers := Catalog.shipped.layers, host := bareHost, env := env }
  let (outcome, _) := run surroundings line { workspace := workspace }
  IO.print outcome.text
  return outcome.status.toUInt32

end LayeredLint.CommandLine

/-- The entry point of the program. -/
def main (line : List String) : IO UInt32 :=
  LayeredLint.CommandLine.program line
