import LayeredLint.EngineSettings
import LayeredLint.FlatConfig
import LayeredLint.Report
import LayeredLint.Verification
import LayeredLint.Workspace

/-!
# The linter as an engine

The linter is a program. For each source it is launched once, with the configuration in a file of
its own that is gone afterwards.

- `Launch`, `Completed`: how the program is launched, and how it ended.
- `Host`: where programs are found, what keeps them from being started, and what they do.
- `World`: the workspace, with the launches so far.
- `linterEngine`: the engine that launches the linter.
-/

namespace LayeredLint

/-- How a program is launched. -/
structure Launch where
  arguments : List String
  directory : Path
  input : String
  /-- The file with the configuration. -/
  configuration : Path
  /-- The files that the program finds. -/
  workspace : Workspace
  deriving DecidableEq

/-- How a program ended. What it wrote are texts: it is supposed that its output can be decoded. -/
structure Completed where
  status : Int := 0
  stdout : String := "[]"
  stderr : String := ""
  deriving DecidableEq, Repr

/-- Where programs are found by their names, and what they do. A program that is found may still not
be started: a path need not lead to a program. It is supposed that the input can be encoded for a
program, that its output can be decoded, and that it leaves the files of the workspace alone: all that
it does is to end. -/
structure Host where
  locate : String → Option String
  run : Launch → Completed
  /-- What keeps a program from being started, if anything does. -/
  obstacle : Launch → Option Fault := fun _ => none

/-- The workspace, and every launch so far. -/
structure World where
  workspace : Workspace
  launches : List Launch := []
  deriving DecidableEq

namespace Linter

/-! ## Launching -/

/-- A command whose program is given by its path. -/
def resolveCommand (host : Host) : List String → Except Failure (List String)
  | [] => .error (.engine { message := notFound "" })
  | head :: rest =>
    if (Path.ofString head).isAbsolute then .ok (head :: rest)
    else
      match host.locate head with
      | some path => .ok (path :: rest)
      | none => .error (.engine { message := notFound head })
where
  /-- The wording for a program that is not found. -/
  notFound (head : String) : String := "Executable '" ++ head ++ "' was not found on PATH"

/-- The arguments after the command. Comments in the source do not count as configuration. -/
def arguments (settings : EngineSettings) (configuration : Path) (filename : String) :
    List String :=
  ["--config", configuration.toString, "--format", "json", "--no-inline-config", "--stdin",
    "--stdin-filename", filename] ++ settings.extraArguments

/-- The report of a program that ended with a status for "no problems" or "some problems". -/
def reportOf (completed : Completed) : Except Failure (List Diagnostic) :=
  if completed.status = 0 ∨ completed.status = 1 then readReport completed.stdout
  else
    .error (.engine
      { message := "analysis engine failed with exit status " ++ toString completed.status
        status := some completed.status
        stderr := completed.stderr })

/-- Launch the linter for a source, where its program is found. -/
def launch (host : Host) (settings : EngineSettings) (directory configuration : Path)
    (call : Call) (world : World) : Except Failure (List Diagnostic) × World :=
  match resolveCommand host settings.command with
  | .error failure => (.error failure, world)
  | .ok command =>
    let launched : Launch :=
      { arguments := command ++ arguments settings configuration call.filename
        directory := directory
        input := call.source
        configuration := configuration
        workspace := world.workspace }
    match host.obstacle launched with
    | some fault => (.error (.fault fault), world)
    | none => (reportOf (host.run launched), { world with launches := world.launches ++ [launched] })

/-- The configuration file: how its name starts, and how it ends. -/
def fileNameParts : String × String := (".lintpresets-", ".config.mjs")

/-- Write the configuration, launch the linter, and remove the configuration. -/
def analyze (host : Host) (settings : EngineSettings) (root : Path) (call : Call) (world : World) :
    Except Failure (List Diagnostic) × World :=
  let prepared := do
    let directory ← settings.resolvedDirectory root
    let text ← renderModule call.configuration.fragments
    return (directory, text)
  match prepared with
  | .error failure => (.error failure, world)
  | .ok (directory, text) =>
    let (start, ending) := fileNameParts
    match world.workspace.addFile directory start ending (Utf8.encode text.toList) with
    | .error fault => (.error (.fault fault), world)
    | .ok (configuration, workspace) =>
      let (result, after) :=
        launch host settings directory configuration call { world with workspace := workspace }
      (result, { after with workspace := after.workspace.removeFile configuration })

end Linter

/-- The engine that launches the linter for a project. -/
def linterEngine (host : Host) (settings : EngineSettings) (root : Path) : Engine World where
  analyze := Linter.analyze host settings root

end LayeredLint
