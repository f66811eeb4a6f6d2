import LayeredLint.LinterEngine

/-!
# Runs of the linter

The engine writes a configuration, launches the linter once, removes the configuration, and passes on
what the linter reports. Each of these steps can fail, and those after it are then not taken.

- `Linter.written`: the configuration for a call, written into a workspace.
- `Linter.Launches`: how the linter is to be launched for a call.
- `World.recorded`, `World.cleared`: what a launch adds to the world, and what is removed after it.
- `Linter.Ends`: how a run can end, and what it leaves; `Linter.analyze_ends`: **every run ends so**.
- `Ran`: a launch is on record afterwards. `Linter.report_of_ran`, `report_of_ran_verify`: then the
  answer is what the linter reports.
-/

namespace LayeredLint

/-- A world from which a configuration is removed. -/
def World.cleared (world : World) (configuration : Path) : World :=
  { world with workspace := world.workspace.removeFile configuration }

/-- The world that a launch finds, with the launch on record. -/
def World.recorded (world : World) (launched : Launch) : World where
  workspace := launched.workspace
  launches := world.launches ++ [launched]

namespace Linter

/-- For a call, the configuration is rendered and written as a new file into the directory of the
linter: the directory, the file, and what there is then. -/
def written (settings : EngineSettings) (root : Path) (call : Call) (w : Workspace) :
    Except Failure (Path × Path × Workspace) := do
  let directory ← settings.resolvedDirectory root
  let text ← renderModule call.configuration.fragments
  (w.addFile directory fileNameParts.1 fileNameParts.2 (Utf8.encode text.toList)).mapError .fault
    |>.map fun (configuration, workspace) => (directory, configuration, workspace)

/-- For a call, the linter is to be launched with the source as its input, where its configuration
is written and its program is found. -/
structure Launches (host : Host) (settings : EngineSettings) (root : Path) (call : Call)
    (w : Workspace) (launched : Launch) : Prop where
  written : written settings root call w =
    .ok (launched.directory, launched.configuration, launched.workspace)
  command : ∃ command, resolveCommand host settings.command = .ok command ∧
    launched.arguments = command ++ arguments settings launched.configuration call.filename
  input : launched.input = call.source

/-- How a run can end, with its answer and what it leaves. -/
inductive Ends (host : Host) (settings : EngineSettings) (root : Path) (call : Call)
    (world : World) : Except Failure (List Diagnostic) × World → Prop where
  /-- The configuration cannot be written. -/
  | unwritten {failure : Failure}
      (unwritten : written settings root call world.workspace = .error failure) :
      Ends host settings root call world (.error failure, world)
  /-- The configuration is written, but the program is not found. -/
  | unlocated {failure : Failure} {directory configuration : Path} {workspace : Workspace}
      (written : written settings root call world.workspace =
        .ok (directory, configuration, workspace))
      (unlocated : resolveCommand host settings.command = .error failure) :
      Ends host settings root call world
        (.error failure, { world with workspace := workspace }.cleared configuration)
  /-- The program is found, but cannot be started. -/
  | unstarted {launched : Launch} {fault : Fault}
      (launches : Launches host settings root call world.workspace launched)
      (obstacle : host.obstacle launched = some fault) :
      Ends host settings root call world
        (.error (.fault fault),
          { world with workspace := launched.workspace }.cleared launched.configuration)
  /-- The program is launched. -/
  | launched {launched : Launch}
      (launches : Launches host settings root call world.workspace launched)
      (started : host.obstacle launched = none) :
      Ends host settings root call world
        (reportOf (host.run launched), (world.recorded launched).cleared launched.configuration)

/-! ## Every run -/

/-- The configuration is written, the linter launched, and the configuration removed. -/
theorem analyze_eq (host : Host) (settings : EngineSettings) (root : Path) (call : Call)
    (world : World) :
    analyze host settings root call world =
      match written settings root call world.workspace with
      | .error failure => (.error failure, world)
      | .ok (directory, configuration, workspace) =>
        let ran := launch host settings directory configuration call
          { world with workspace := workspace }
        (ran.1, ran.2.cleared configuration) := by
  unfold analyze written
  cases settings.resolvedDirectory root with
  | error failure => rfl
  | ok directory =>
    cases renderModule call.configuration.fragments with
    | error failure => rfl
    | ok text =>
      dsimp only [bind, Except.bind, pure, Except.pure]
      cases world.workspace.addFile directory fileNameParts.1 fileNameParts.2
          (Utf8.encode text.toList) with
      | error fault => rfl
      | ok file => rfl

/-- **Every run ends in one of these ways.** -/
theorem analyze_ends (host : Host) (settings : EngineSettings) (root : Path) (call : Call)
    (world : World) :
    Ends host settings root call world (analyze host settings root call world) := by
  rw [analyze_eq]
  cases hwritten : written settings root call world.workspace with
  | error failure => exact .unwritten hwritten
  | ok parts =>
    obtain ⟨directory, configuration, workspace⟩ := parts
    unfold launch
    cases hcommand : resolveCommand host settings.command with
    | error failure => exact .unlocated hwritten hcommand
    | ok command =>
      let planned : Launch :=
        { arguments := command ++ arguments settings configuration call.filename
          directory := directory
          input := call.source
          configuration := configuration
          workspace := workspace }
      have launches : Launches host settings root call world.workspace planned :=
        { written := hwritten
          command := ⟨command, hcommand, rfl⟩
          input := rfl }
      dsimp only
      cases hobstacle : host.obstacle planned with
      | some fault => exact .unstarted launches hobstacle
      | none => exact .launched launches hobstacle

end Linter

/-! ## Runs with a launch -/

/-- Between two worlds the linter was launched once. -/
def Ran (before after : World) (launched : Launch) : Prop :=
  after.launches = before.launches ++ [launched]

theorem not_ran_self {world after : World} {launched : Launch}
    (h : after.launches = world.launches) : ¬Ran world after launched := by
  rw [Ran, h]
  simp

/-- A run that launched the linter answers what the linter reports. -/
theorem Linter.report_of_ran {host : Host} {settings : EngineSettings} {root : Path} {call : Call}
    {world : World} {launched : Launch}
    (h : Ran world (analyze host settings root call world).2 launched) :
    (analyze host settings root call world).1 = reportOf (host.run launched) := by
  have ends := analyze_ends host settings root call world
  generalize analyze host settings root call world = result at h ends
  cases ends with
  | unwritten => exact absurd h (not_ran_self rfl)
  | unlocated => exact absurd h (not_ran_self rfl)
  | unstarted => exact absurd h (not_ran_self rfl)
  | launched =>
    obtain rfl : _ = launched := List.singleton_inj.1 (List.append_cancel_left h)
    rfl

/-- Verification that launched the linter answers what the linter reports. -/
theorem report_of_ran_verify {host : Host} {settings : EngineSettings} {root : Path}
    {c : EffectiveConfiguration} {source filename : String} {world : World} {launched : Launch}
    (h : Ran world (verify (linterEngine host settings root) c source filename world).2 launched) :
    (verify (linterEngine host settings root) c source filename world).1 =
      Linter.reportOf (host.run launched) := by
  unfold verify at h ⊢
  cases hprepare : prepare [filename] c with
  | error failure =>
    rw [hprepare] at h
    exact absurd h (not_ran_self rfl)
  | ok sanitized =>
    rw [hprepare] at h
    exact Linter.report_of_ran h

end LayeredLint
