import LayeredLint.CommandLine.Invocation
import LayeredLint.Preset
import LayeredLint.Project
import LayeredLint.Text.Lines

/-!
# The command line

- `CommandLine.Surroundings`: the layers a command works on, and what there is around it.
- `CommandLine.Ending`: how a command ends.
- `CommandLine.runCommand`: what a command shows, how it ends, and what it does to the world.
- `CommandLine.Outcome`, `CommandLine.run`: the text and the exit status of a whole line.
-/

namespace LayeredLint.CommandLine

/-- The layers a command works on, and its surroundings. -/
structure Surroundings where
  layers : LayerSet
  host : Host
  env : Table String String := .empty

/-- How a command ends. -/
inductive Ending where
  | done
  /-- The line asks for what cannot be done at all. -/
  | misused
  /-- A result that counts as a failure, with its message and exit status. -/
  | reported (message : String) (status : Nat)
  | failed (failure : Failure)

/-- What a command shows and how it ends. -/
abbrev Run := List Output × Ending

/-- The run of a step that may fail before anything is shown. -/
def attempt {α : Type} (step : Except Failure α) (next : α → Run) : Run :=
  match step with
  | .ok a => next a
  | .error failure => ([], .failed failure)

/-! ## Layers, rules and presets -/

/-- List the layers with their sizes. -/
def runLayers (layers : LayerSet) : Run :=
  attempt (layersTable layers Layer.all) fun table => ([.table table], .done)

/-- The plugins of a configuration on one line. -/
def pluginsLine (c : EffectiveConfiguration) : String :=
  "plugins: " ++ commaSeparated (c.plugins.entries.map fun e =>
    e.1.display ++ " (" ++ e.2.describe ++ ")")

/-- Show the rules of a layer, or every assignment of one. -/
def runRules (layers : LayerSet) (name : String) (trace includeOff : Bool) : Run :=
  attempt (Layer.ofName name) fun layer =>
    if trace then
      attempt (traceRules (layers.items layer)) fun assignments =>
        attempt (traceTable assignments (layer.name ++ " provenance")) fun table =>
          ([.table table], .done)
    else
      attempt (layers.configuration layer) fun c =>
        ([.table (rulesTable c (layer.name ++ " rules") includeOff),
          .message .info (pluginsLine c)], .done)

/-- Print a layer for the linter, or as data. -/
def runExport (layers : LayerSet) (name format : String) : Run :=
  attempt (Layer.ofName name) fun layer =>
    if format = "js" then
      attempt (uncheckedFragments (layers.items layer)) fun fragments =>
        attempt (renderModule fragments) fun text => ([.plain text], .done)
    else if format = "json" then
      attempt (layers.configuration layer) fun c =>
        attempt (snapshot c) fun v => printed v
    else ([], .reported ("unsupported export format '" ++ format ++ "'") 2)
where
  /-- A value over several lines. -/
  printed (v : Value) : Run :=
    match Json.indented? v with
    | some text => ([.plain (text ++ "\n")], .done)
    | none => ([], .failed (.fault .unserialisable))

/-- Print a preset as data. -/
def runPreset (directory : Path) (env : Table String String) (name : String) : Run :=
  attempt (Preset.ofName name) fun preset =>
    attempt (preset.payload directory env) runExport.printed

/-! ## Checking -/

/-- The conflicts of all layers, one layer after another. -/
def layerConflicts (layers : LayerSet) : Except Failure (List Conflict) := do
  let conflicts ← Layer.all.mapM fun layer => do
    let fragments ← uncheckedFragments (layers.items layer)
    return pluginConflicts fragments
  return conflicts.flatten

/-- How many findings and conflicts count as failures: a strict check takes all of them. -/
def failureCount (strict : Bool) (findings : List Finding) (conflicts : List Conflict) : Nat :=
  if strict then findings.length + conflicts.length else (findings.filter Finding.fatal).length

/-- Warn of findings and conflicts, and say whether the check failed. -/
def checkReport (strict : Bool) (findings : List Finding) (conflicts : List Conflict) : Run :=
  let warnings := findings.map Finding.describe ++ conflicts.map Conflict.describe
  let shown := warnings.map (Output.message .warn)
  let failures := failureCount strict findings conflicts
  if failures = 0 then (shown ++ [.message .ok "every layer extends its parent"], .done)
  else (shown, .reported (toString failures ++ " layer check(s) failed") 1)

/-- Check that each layer extends its parent. -/
def runCheck (layers : LayerSet) (strict : Bool) : Run :=
  let (shown, ending) :=
    attempt (layers.checkExtension Layer.all false) fun findings =>
      attempt (layerConflicts layers) fun conflicts => checkReport strict findings conflicts
  (.heading "Extension invariant" :: shown, ending)

/-! ## Verifying -/

/-- The file that an argument names. What ends in a slash names a directory. -/
def fileOfArgument? (w : Workspace) (argument : String) : Option (List UInt8) :=
  match (Path.splitChars '/' argument.toList).getLast? with
  | none | some [] | some ['.'] => none
  | some _ => w.readFile? (.ofString argument)

/-- The source in the bytes of a file. -/
def sourceOf (bytes : List UInt8) : Except Failure String :=
  match Utf8.decode? bytes with
  | some cs => .ok (String.ofList (Text.universalNewlines cs))
  | none => impossible .undecodable

/-- The rules that diagnostics name, sorted, or a dash for none. -/
def reportedRules (diagnostics : List Diagnostic) : String :=
  let rules := commaSeparated (Text.sortedSet (Diagnostic.ruleIds diagnostics))
  if rules = "" then "-" else rules

/-- Show the diagnostics of a file. Errors among them count as a failure. -/
def verifyReport (name : String) (diagnostics : List Diagnostic) : Run :=
  if diagnostics.isEmpty then ([.message .ok (name ++ ": no diagnostics")], .done)
  else
    let errors := diagnostics.filter fun d => d.severity = .error
    let shown : List Output :=
      [.table (diagnosticsTable diagnostics name),
        .message .info ("rules reported: " ++ reportedRules diagnostics)]
    if errors.isEmpty then (shown, .done)
    else
      (shown, .reported (toString errors.length ++ " error(s) reported for " ++ name) 1)

/-- What verifying a file needs: the engine, the source, and the configuration. -/
def verifyInputs (s : Surroundings) (w : Workspace) (name : String) (root : Path)
    (bytes : List UInt8) : Except Failure (Engine World × String × EffectiveConfiguration) := do
  let layer ← Layer.ofName name
  let c ← s.layers.configuration layer
  let engine ← projectEngine s.host s.env root w
  let source ← sourceOf bytes
  return (engine, source, c)

/-- Verify a file under a layer. -/
def runVerify (s : Surroundings) (name argument : String) (root : Option String) (world : World) :
    Run × World :=
  match fileOfArgument? world.workspace argument with
  | none => (([], .misused), world)
  | some bytes =>
    let root := (root.map Path.ofString).getD world.workspace.root
    match verifyInputs s world.workspace name root bytes with
    | .error failure => (([], .failed failure), world)
    | .ok (engine, source, c) =>
      let filename := (Path.ofString argument).name
      match verify engine c source filename world with
      | (.error failure, world) => (([], .failed failure), world)
      | (.ok diagnostics, world) => (verifyReport filename diagnostics, world)

/-! ## Any command -/

/-- How the program is used. -/
def usage : List String :=
  ["usage: [--no-color] [--no-emoji] [-v] COMMAND", "  layers",
   "  show LAYER [--trace] [--include-off]", "  check [--strict]",
   "  export LAYER [--format js|json]", "  verify LAYER PATH [--root DIRECTORY]", "  preset NAME"]

/-- What a command shows, how it ends, and what it does to the world. -/
def runCommand (s : Surroundings) (command : Command) (world : World) : Run × World :=
  match command with
  | .layers => (runLayers s.layers, world)
  | .rules layer trace includeOff => (runRules s.layers layer trace includeOff, world)
  | .check strict => (runCheck s.layers strict, world)
  | .export layer format => (runExport s.layers layer format, world)
  | .verify layer path root => runVerify s layer path root world
  | .preset name => (runPreset world.workspace.root s.env name, world)
  | .help => (([.plain (String.join (usage.map (· ++ "\n")))], .done), world)

/-! ## Outcomes -/

/-- What a line leaves on the console: its text and exit status, and the failure that no command
expects, if there was one. -/
structure Outcome where
  text : String := ""
  status : Nat := 0
  unexpected : Option Failure := none

/-- The message and the exit status of an expected failure. A list of layers expects none. -/
def reportOf? (command : Command) : Failure → Option (String × Nat)
  | .configuration cause =>
    if command = .layers then none else some ("configuration error: " ++ cause.message, 2)
  | .engine e =>
    let detail := Text.stripText e.stderr
    some (e.message ++ (if detail = "" then "" else ": " ++ detail), 3)
  | _ => none

/-- The last piece of output, the exit status, and an unexpected failure. -/
def conclusion (command : Command) : Ending → List Output × Nat × Option Failure
  | .done => ([], 0, none)
  | .misused => ([], 2, none)
  | .reported message status => ([.message .fail message], status, none)
  | .failed failure =>
    match reportOf? command failure with
    | some (message, status) => ([.message .fail message], status, none)
    | none => ([], 1, some failure)

/-- The text of pieces up to the first that cannot be shown, and why that one cannot. -/
def shownText (look : Look) : List Output → String × Option Failure
  | [] => ("", none)
  | piece :: rest =>
    match piece.text look with
    | .error failure => ("", some failure)
    | .ok text =>
      let (others, failure) := shownText look rest
      (text ++ others, failure)

/-- The outcome of what a command shows and how it ends. -/
def outcomeOf (look : Look) (command : Command) (run : Run) : Outcome :=
  let (last, status, unexpected) := conclusion command run.2
  match shownText look (run.1 ++ last) with
  | (text, none) => { text := text, status := status, unexpected := unexpected }
  | (text, some failure) => { text := text, status := 1, unexpected := some failure }

/-- The outcome of a line of arguments. -/
def run (s : Surroundings) (line : List String) (world : World) : Outcome × World :=
  match Invocation.ofArguments line with
  | .error .unknown => ({ status := 2 }, world)
  | .error .nullInPath =>
    ({ status := 1, unexpected := some (.fault .nullInPath) }, world)
  | .ok invocation =>
    let (result, world) := runCommand s invocation.command world
    (outcomeOf invocation.look invocation.command result, world)

end LayeredLint.CommandLine
