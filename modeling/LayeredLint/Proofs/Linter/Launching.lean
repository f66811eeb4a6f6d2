import LayeredLint.Proofs.Linter.Runs
import LayeredLint.Proofs.Text.Utf8
import LayeredLint.Proofs.Workspace.NewFile

/-!
# What the linter is launched with

A run writes one file, launches at most one program, and takes the file away again, however it ends.

- `Linter.Located`: a command with the program that is launched for it.
- `Linter.Blocked`: what keeps the linter from being launched for a call.
- `Linter.Planned`: a launch for a call, said without the steps of a run.
- `Linter.planned_of_launches`, `Linter.Planned.not_blocked`: the launch that a run comes to is such a
  one, and nothing blocks it.
- `Linter.workspace_of_ends`: no run changes the files.
- `Linter.analyze_launches_as_planned`: **a run launches the linter once, as planned, or not at all**.
-/

namespace LayeredLint.Linter

/-! ## Commands -/

/-- A command with the program that is launched for it: one that is given by its path, or the one
that is found by its name. -/
inductive Located (host : Host) : List String → List String → Prop where
  | path {program : String} {rest : List String}
      (absolute : (Path.ofString program).isAbsolute = true) :
      Located host (program :: rest) (program :: rest)
  | name {name program : String} {rest : List String}
      (relative : (Path.ofString name).isAbsolute = false)
      (found : host.locate name = some program) :
      Located host (name :: rest) (program :: rest)

theorem resolveCommand_eq_ok_iff {host : Host} {command resolved : List String} :
    resolveCommand host command = .ok resolved ↔ Located host command resolved := by
  constructor
  · intro h
    cases command with
    | nil => cases h
    | cons head rest =>
      rw [resolveCommand] at h
      by_cases habsolute : (Path.ofString head).isAbsolute = true
      · rw [if_pos habsolute] at h
        cases h
        exact .path habsolute
      · rw [if_neg habsolute] at h
        cases hlocate : host.locate head with
        | none => rw [hlocate] at h; cases h
        | some program =>
          rw [hlocate] at h
          cases h
          exact .name (by simpa using habsolute) hlocate
  · rintro (habsolute | ⟨hrelative, hfound⟩)
    · exact if_pos habsolute
    · rw [resolveCommand, if_neg (by simp [hrelative]), hfound]

/-! ## Plans -/

variable {host : Host} {settings : EngineSettings} {root : Path} {call : Call} {w : Workspace}

/-- What keeps the linter from being launched: its configuration has no text, there is no directory
to run it in, or its program is not found. -/
inductive Blocked (host : Host) (settings : EngineSettings) (root : Path) (call : Call)
    (w : Workspace) : Prop where
  | unrendered {failure : Failure}
      (unrendered : renderModule call.configuration.fragments = .error failure)
  | astray (astray : ∀ directory place, settings.resolvedDirectory root = .ok directory →
      ¬w.LeadsTo directory place)
  | unlocated (unlocated : ∀ resolved, ¬Located host settings.command resolved)

/-- A launch for a call. The configuration is a new file in the directory where the linter runs. At that
moment its bytes stand for the rendered module, and all other files are as they were. The arguments
are the command, those for the configuration, the report and the source, and the further ones of the
settings. -/
structure Planned (host : Host) (settings : EngineSettings) (root : Path) (call : Call)
    (w : Workspace) (launched : Launch) : Prop where
  directory : settings.resolvedDirectory root = .ok launched.directory
  place : w.LeadsTo launched.directory launched.configuration.parent
  fresh : w.contentAt? launched.configuration = none
  content : ∃ text bytes, renderModule call.configuration.fragments = .ok text ∧
    launched.workspace.contentAt? launched.configuration = some bytes ∧
    bytes = Utf8.encode text.toList ∧ Utf8.decode? bytes = some text.toList
  others : ∀ p, p ≠ launched.configuration →
    launched.workspace.contentAt? p = w.contentAt? p
  arguments : ∃ command, Located host settings.command command ∧
    launched.arguments = command ++ ["--config", launched.configuration.toString, "--format",
      "json", "--no-inline-config", "--stdin", "--stdin-filename", call.filename] ++
        settings.extraArguments
  input : launched.input = call.source

/-- The configuration is written where the directory is known, the module has a text, and a new file
can be made for it. -/
theorem written_eq_ok_iff {directory configuration : Path} {workspace : Workspace} :
    written settings root call w = .ok (directory, configuration, workspace) ↔
      ∃ text, settings.resolvedDirectory root = .ok directory ∧
        renderModule call.configuration.fragments = .ok text ∧
        w.addFile directory fileNameParts.1 fileNameParts.2 (Utf8.encode text.toList) =
          .ok (configuration, workspace) := by
  unfold written
  constructor
  · intro h
    obtain ⟨found, hdirectory, h⟩ := bind_eq_ok.1 h
    obtain ⟨text, htext, h⟩ := bind_eq_ok.1 h
    cases hfile : w.addFile found fileNameParts.1 fileNameParts.2 (Utf8.encode text.toList) with
    | error fault => rw [hfile] at h; cases h
    | ok file => rw [hfile] at h; cases h; exact ⟨text, hdirectory, htext, hfile⟩
  · rintro ⟨text, hdirectory, htext, hfile⟩
    rw [hdirectory, htext]
    show Except.map _ (Except.mapError Failure.fault (w.addFile directory _ _ _)) = _
    rw [hfile]
    rfl

/-- What a run launches is as planned. -/
theorem planned_of_launches {launched : Launch} (h : Launches host settings root call w launched) :
    Planned host settings root call w launched := by
  obtain ⟨text, hdirectory, htext, hfile⟩ := written_eq_ok_iff.1 h.written
  obtain ⟨command, hcommand, harguments⟩ := h.command
  exact
    { directory := hdirectory
      place := Workspace.leadsTo_parent_of_addFile hfile
      fresh := Workspace.contentAt?_eq_none_of_addFile hfile
      content := ⟨text, Utf8.encode text.toList, htext, Workspace.contentAt?_addFile hfile, rfl,
        Utf8.decode?_encode text.toList⟩
      others := fun _ hp => Workspace.contentAt?_addFile_of_ne hfile hp
      arguments := ⟨command, resolveCommand_eq_ok_iff.1 hcommand, by
        rw [harguments, Linter.arguments, List.append_assoc]⟩
      input := h.input }

/-- A planned launch is not blocked. -/
theorem Planned.not_blocked {launched : Launch}
    (h : Planned host settings root call w launched) : ¬Blocked host settings root call w := by
  rintro (hunrendered | hastray | hunlocated)
  · obtain ⟨text, bytes, htext, -⟩ := h.content
    rw [hunrendered] at htext
    cases htext
  · exact hastray _ _ h.directory h.place
  · obtain ⟨command, hcommand, -⟩ := h.arguments
    exact hunlocated command hcommand

/-- Where the configuration cannot be written, there is no text or no directory. -/
theorem blocked_of_unwritten {failure : Failure}
    (h : written settings root call w = .error failure) : Blocked host settings root call w := by
  cases htext : renderModule call.configuration.fragments with
  | error failure => exact .unrendered htext
  | ok text =>
    refine .astray fun directory place hdirectory hplace => ?_
    have hwritten := written_eq_ok_iff.2 ⟨text, hdirectory, htext,
      Workspace.addFile_eq_ok_iff.2 ⟨place, hplace, rfl, rfl⟩⟩
    rw [h] at hwritten
    cases hwritten

theorem blocked_of_unlocated {failure : Failure}
    (h : resolveCommand host settings.command = .error failure) :
    Blocked host settings root call w := by
  refine .unlocated fun resolved hresolved => ?_
  rw [resolveCommand_eq_ok_iff.2 hresolved] at h
  cases h

/-! ## Every run -/

/-- The configuration that was written is removed without a trace. -/
theorem removeFile_of_written {directory configuration : Path} {workspace : Workspace}
    (h : written settings root call w = .ok (directory, configuration, workspace)) :
    workspace.removeFile configuration = w := by
  obtain ⟨_, -, -, hfile⟩ := written_eq_ok_iff.1 h
  exact Workspace.removeFile_addFile hfile

/-- **No run changes the files**, however it ends. -/
theorem workspace_of_ends {world : World} {run : Except Failure (List Diagnostic) × World}
    (h : Ends host settings root call world run) : run.2.workspace = world.workspace := by
  cases h with
  | unwritten => rfl
  | unlocated hwritten => exact removeFile_of_written hwritten
  | unstarted launches => exact removeFile_of_written launches.written
  | launched launches => exact removeFile_of_written launches.written

/-- **A run launches the linter once, as planned, or not at all.** However it ends, the files are
afterwards what they were before. Where the configuration has no text, the directory is missing or
the program is not found, nothing is launched and the run fails. Everywhere else the launch is
planned: it takes place unless the host cannot start the program, and then the answer is what the
linter reports. -/
theorem analyze_launches_as_planned (host : Host) (settings : EngineSettings) (root : Path)
    (call : Call) (world : World) :
    (analyze host settings root call world).2.workspace = world.workspace ∧
      ∃ launches, (analyze host settings root call world).2.launches = world.launches ++ launches ∧
        launches.length ≤ 1 ∧
        (Blocked host settings root call world.workspace →
          launches = [] ∧ ∃ failure, (analyze host settings root call world).1 = .error failure) ∧
        (¬Blocked host settings root call world.workspace →
          ∃ planned, Planned host settings root call world.workspace planned ∧
            (∀ fault, host.obstacle planned = some fault → launches = [] ∧
              (analyze host settings root call world).1 = .error (.fault fault)) ∧
            (host.obstacle planned = none → launches = [planned] ∧
              (analyze host settings root call world).1 = reportOf (host.run planned))) := by
  have ends := analyze_ends host settings root call world
  generalize analyze host settings root call world = run at ends ⊢
  refine ⟨workspace_of_ends ends, ?_⟩
  cases ends with
  | unwritten hunwritten =>
    have blocked : Blocked host settings root call world.workspace :=
      blocked_of_unwritten hunwritten
    exact ⟨[], (List.append_nil _).symm, Nat.zero_le 1, fun _ => ⟨rfl, _, rfl⟩,
      fun free => absurd blocked free⟩
  | unlocated hwritten hunlocated =>
    have blocked : Blocked host settings root call world.workspace :=
      blocked_of_unlocated hunlocated
    exact ⟨[], (List.append_nil _).symm, Nat.zero_le 1, fun _ => ⟨rfl, _, rfl⟩,
      fun free => absurd blocked free⟩
  | @unstarted launched fault launches hobstacle =>
    have planned := planned_of_launches launches
    refine ⟨[], (List.append_nil _).symm, Nat.zero_le 1,
      fun blocked => absurd blocked planned.not_blocked, fun _ => ⟨launched, planned, ?_, ?_⟩⟩
    · intro fault' hfault
      rw [hobstacle] at hfault
      cases hfault
      exact ⟨rfl, rfl⟩
    · intro hnone
      rw [hobstacle] at hnone
      cases hnone
  | @launched launched launches hstarted =>
    have planned := planned_of_launches launches
    refine ⟨[launched], rfl, Nat.le_refl 1,
      fun blocked => absurd blocked planned.not_blocked, fun _ => ⟨launched, planned, ?_, ?_⟩⟩
    · intro fault hfault
      rw [hstarted] at hfault
      cases hfault
    · exact fun _ => ⟨rfl, rfl⟩

/-- A project with a plugin whose export is not written in Latin letters. -/
def greekCall : Call where
  configuration := flatten [{
    name := .str "app"
    plugins := .ofList [("demo", .of { module := "demo", exported := some "λ" })] }]
  source := "x"
  filename := "a.ts"

/-- The launch knew the file with the configuration, which is gone afterwards. -/
theorem analyze_launches_as_planned_greek :
    let host : Host := { locate := fun name => some ("/bin/" ++ name), run := fun _ => {} }
    let settings : EngineSettings := { command := ["eslint"], extraArguments := ["--cache"] }
    let root := Path.ofString "/p"
    let world : World := { workspace := { root := root } }
    let run := analyze host settings root greekCall world
    run.2.workspace = world.workspace ∧ ∃ planned, run.2.launches = [planned] ∧
      Planned host settings root greekCall world.workspace planned ∧
      planned.arguments = ["/bin/eslint", "--config", "/p/.lintpresets-x.config.mjs", "--format",
        "json", "--no-inline-config", "--stdin", "--stdin-filename", "a.ts", "--cache"] ∧
      ((planned.workspace.contentAt? planned.configuration).bind Utf8.decode?).map String.ofList =
        some ("import m0 from \"demo\"\n\nexport default [\n  \x7b name: \"app\", " ++
          "plugins: \x7b \"demo\": m0.λ \x7d \x7d,\n]\n") := by
  intro host settings root world run
  obtain ⟨hworkspace, launches, hlaunches, -, hblocked, hfree⟩ :=
    analyze_launches_as_planned host settings root greekCall world
  have harguments : run.2.launches.map Launch.arguments =
      [["/bin/eslint", "--config", "/p/.lintpresets-x.config.mjs", "--format", "json",
        "--no-inline-config", "--stdin", "--stdin-filename", "a.ts", "--cache"]] := by
    decide +kernel
  have hcontent : run.2.launches.map (fun launched => ((launched.workspace.contentAt?
      launched.configuration).bind Utf8.decode?).map String.ofList) =
        [some ("import m0 from \"demo\"\n\nexport default [\n  \x7b name: \"app\", " ++
          "plugins: \x7b \"demo\": m0.λ \x7d \x7d,\n]\n")] := by
    decide +kernel
  have free : ¬Blocked host settings root greekCall world.workspace := by
    intro blocked
    rw [show run.2.launches = _ from hlaunches, (hblocked blocked).1] at harguments
    cases harguments
  obtain ⟨planned, hplanned, -, hstarted⟩ := hfree free
  obtain ⟨rfl, -⟩ := hstarted rfl
  rw [show run.2.launches = [planned] from hlaunches] at harguments hcontent
  exact ⟨hworkspace, planned, hlaunches, hplanned, List.singleton_inj.1 harguments,
    List.singleton_inj.1 hcontent⟩

end LayeredLint.Linter
