import LayeredLint.LinterEngine
import LayeredLint.SettingsFile

/-!
# Verification in a project

The linter of a project is launched the way its settings say.

- `projectEngine`: the engine with the settings of the project at a root.
- `verifyInProject`, `verifyManyInProject`: verification with that engine, whose settings are loaded
  once the configuration is known to be good.
-/

namespace LayeredLint

/-- The engine with the settings of the project at a root, seen from the current directory. -/
def projectEngine (host : Host) (env : Table String String) (root : Path) (w : Workspace) :
    Except Failure (Engine World) := do
  let settings ← loadSettings w root env
  let place ← (w.root.join root).resolved
  return linterEngine host settings place

/-- Verify sources with the engine of the project at the current directory. -/
def verifyManyInProject (host : Host) (env : Table String String)
    (c : EffectiveConfiguration) (snippets : List (String × String)) (world : World) :
    Except Failure (List (List Diagnostic)) × World :=
  let prepared := do
    let sanitized ← prepare (snippets.map Prod.snd) c
    let engine ← projectEngine host env world.workspace.root world.workspace
    return (engine, sanitized)
  match prepared with
  | .error failure => (.error failure, world)
  | .ok (engine, sanitized) => engine.analyzeAll sanitized snippets world

/-- Verify a source with the engine of the project at the current directory. -/
def verifyInProject (host : Host) (env : Table String String) (c : EffectiveConfiguration)
    (source filename : String) (world : World) : Except Failure (List Diagnostic) × World :=
  match verifyManyInProject host env c [(source, filename)] world with
  | (.error failure, world) => (.error failure, world)
  | (.ok results, world) => (.ok results.flatten, world)

end LayeredLint
