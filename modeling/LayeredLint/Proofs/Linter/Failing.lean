import LayeredLint.Proofs.Linter.Launching
import LayeredLint.Proofs.Linter.Silence

/-!
# Runs that fail

A run fails where the linter has no directory, where its program is not found, where the program
cannot be started, and where it ends with a status that is none for a report. Two of these four are
errors of the engine. The other two come from below and stay as they are.

- `Linter.Housed`, `Linter.Startable`: there is a directory for the linter, and nothing keeps the
  host from starting it.
- `Linter.fault_of_unwritten`: a configuration with a text is only kept from being written by its
  directory.
- `Linter.Launches.unique`: there is one launch for a call.
- `Linter.failed_run_engineError_iff`: **a run that fails is an error of the engine exactly if the
  linter has a directory and can be started**, and which error it is.
- `Linter.missing_directory_is_no_engineError`: a directory that is not there.
-/

namespace LayeredLint

/-! ## What can be wrong with a directory -/

/-- The ways in which a path leads to no directory. -/
def directoryFaults : List Fault := [.nullInPath, .missingDirectory, .notDirectory]

namespace Workspace

variable {w : Workspace}

theorem fault_of_enter {p : Path} {fault : Fault} (h : w.enter p = .error fault) :
    fault ∈ directoryFaults := by
  unfold enter at h
  split at h
  · cases h
  · split at h
    · cases h
      simp [directoryFaults]
    · cases h
      simp [directoryFaults]

theorem fault_of_follow {p : Path} {fault : Fault} (h : w.follow p = .error fault) :
    fault ∈ directoryFaults := by
  unfold follow at h
  dsimp only at h
  generalize (w.root.join p).parts = parts at h
  generalize (⟨.slash, []⟩ : Path) = place at h
  -- every component is entered from the place that the ones before it lead to
  induction parts generalizing place with
  | nil => cases h
  | cons part rest ih =>
    rw [List.foldlM_cons] at h
    rcases bind_eq_error.1 h with hstep | ⟨next, -, hrest⟩
    · unfold step at hstep
      rcases bind_eq_error.1 hstep with henter | ⟨_, -, hpure⟩
      · exact fault_of_enter henter
      · cases hpure
    · exact ih next hrest

/-- Only the directory keeps a new file from being written. -/
theorem fault_of_addFile {directory : Path} {start ending : String} {content : List UInt8}
    {fault : Fault} (h : w.addFile directory start ending content = .error fault) :
    fault ∈ directoryFaults := by
  unfold addFile at h
  by_cases hnull : directory.hasNull = true
  · rw [if_pos hnull] at h
    cases h
    simp [directoryFaults]
  · rw [if_neg hnull] at h
    rcases bind_eq_error.1 h with hfollow | ⟨followed, -, h⟩
    · exact fault_of_follow hfollow
    · rcases bind_eq_error.1 h with henter | ⟨_, -, hpure⟩
      · exact fault_of_enter henter
      · cases hpure

end Workspace

namespace Linter

variable {host : Host} {settings : EngineSettings} {root : Path} {call : Call} {w : Workspace}

/-! ## Directories and programs -/

/-- There is a directory for the linter to run in. -/
def Housed (settings : EngineSettings) (root : Path) (w : Workspace) : Prop :=
  ∃ directory place, settings.resolvedDirectory root = .ok directory ∧ w.LeadsTo directory place

/-- Nothing keeps the host from starting the linter, once its program is found. -/
def Startable (host : Host) (settings : EngineSettings) (root : Path) (call : Call)
    (w : Workspace) : Prop :=
  ∀ launched, Launches host settings root call w launched → host.obstacle launched = none

theorem fault_of_resolvedDirectory {failure : Failure}
    (h : settings.resolvedDirectory root = .error failure) : failure = .fault .nullInPath := by
  have unresolved : ∀ p : Path, p.resolved = .error failure → failure = .fault .nullInPath := by
    intro p hp
    unfold Path.resolved at hp
    split at hp
    · exact (Except.error.inj hp).symm
    · cases hp
  unfold EngineSettings.resolvedDirectory at h
  split at h
  · exact unresolved _ h
  · split at h
    · cases h
    · exact unresolved _ h

/-- A configuration with a text is only kept from being written by its directory. -/
theorem fault_of_unwritten {text : String} {failure : Failure}
    (rendered : renderModule call.configuration.fragments = .ok text)
    (unwritten : written settings root call w = .error failure) :
    ∃ fault ∈ directoryFaults, failure = .fault fault := by
  unfold written at unwritten
  rcases bind_eq_error.1 unwritten with hdirectory | ⟨directory, -, h⟩
  · exact ⟨.nullInPath, by simp [directoryFaults], fault_of_resolvedDirectory hdirectory⟩
  · rw [rendered] at h
    have hfile := mapError_eq_error.1 (map_eq_error.1 h)
    obtain ⟨fault, hfault, rfl⟩ := hfile
    exact ⟨fault, Workspace.fault_of_addFile hfault, rfl⟩

/-- What keeps the file from being written comes out as it is. -/
theorem unwritten_of_addFile {directory : Path} {text : String} {fault : Fault}
    (hdirectory : settings.resolvedDirectory root = .ok directory)
    (rendered : renderModule call.configuration.fragments = .ok text)
    (hfile : w.addFile directory fileNameParts.1 fileNameParts.2 (Utf8.encode text.toList) =
      .error fault) :
    written settings root call w = .error (.fault fault) := by
  unfold written
  rw [hdirectory, rendered]
  show Except.map _ (Except.mapError Failure.fault (w.addFile directory _ _ _)) = _
  rw [hfile]
  rfl

/-- With a directory, a configuration with a text is written. -/
theorem not_housed_of_unwritten {text : String} {failure : Failure}
    (rendered : renderModule call.configuration.fragments = .ok text)
    (unwritten : written settings root call w = .error failure) : ¬Housed settings root w := by
  rintro ⟨directory, place, hdirectory, hplace⟩
  have hwritten := written_eq_ok_iff.2 ⟨text, hdirectory, rendered,
    Workspace.addFile_eq_ok_iff.2 ⟨place, hplace, rfl, rfl⟩⟩
  rw [unwritten] at hwritten
  cases hwritten

theorem housed_of_written {directory configuration : Path} {workspace : Workspace}
    (h : written settings root call w = .ok (directory, configuration, workspace)) :
    Housed settings root w := by
  obtain ⟨text, hdirectory, -, hfile⟩ := written_eq_ok_iff.1 h
  exact ⟨directory, configuration.parent, hdirectory, Workspace.leadsTo_parent_of_addFile hfile⟩

/-- The error for a program that is not found. -/
def notFoundError (program : String) : EngineError where
  message := "Executable '" ++ program ++ "' was not found on PATH"

theorem error_of_unlocated {program : String} {rest : List String} {failure : Failure}
    (h : resolveCommand host (program :: rest) = .error failure) :
    failure = .engine (notFoundError program) := by
  rw [resolveCommand] at h
  split at h
  · cases h
  · cases hlocate : host.locate program with
    | some path =>
      rw [hlocate] at h
      cases h
    | none =>
      rw [hlocate] at h
      exact (Except.error.inj h).symm

/-- **There is one launch for a call.** -/
theorem Launches.unique {one other : Launch} (hone : Launches host settings root call w one)
    (hother : Launches host settings root call w other) : one = other := by
  obtain ⟨hwritten, ⟨command, hcommand, harguments⟩, hinput⟩ := hone
  obtain ⟨hwritten', ⟨command', hcommand', harguments'⟩, hinput'⟩ := hother
  rw [hwritten] at hwritten'
  rw [hcommand] at hcommand'
  cases one
  cases other
  simp_all

theorem Launches.housed {launched : Launch} (h : Launches host settings root call w launched) :
    Housed settings root w :=
  housed_of_written h.written

theorem Launches.located {launched : Launch} (h : Launches host settings root call w launched) :
    ∃ resolved, Located host settings.command resolved := by
  obtain ⟨resolved, hresolved, -⟩ := h.command
  exact ⟨resolved, resolveCommand_eq_ok_iff.1 hresolved⟩

/-! ## Failures -/

/-- The error for a program that ended with a status that is none for a report. -/
def statusError (completed : Completed) : EngineError where
  message := "analysis engine failed with exit status " ++ toString completed.status
  status := some completed.status
  stderr := completed.stderr

theorem reportOf_of_status {completed : Completed}
    (h : completed.status ≠ 0 ∧ completed.status ≠ 1) :
    reportOf completed = .error (.engine (statusError completed)) :=
  if_neg (not_or.2 h)

/-- **A run that fails is an error of the engine exactly if the linter has a directory and nothing
keeps the host from starting it.** The linter fails to run, or it ends with a status other than 0
and 1; every command has a program, as in valid settings. After a launch the error carries the status
and what the linter wrote about it; a program that is not found is an error of the engine too. Where
there is no directory, or the host cannot start the program, the fault below comes out as it is. -/
theorem failed_run_engineError_iff (host : Host) (settings : EngineSettings) (root : Path)
    (call : Call) (world : World) {program : String} {rest : List String}
    (rendered : ∃ text, renderModule call.configuration.fragments = .ok text)
    (command : settings.command = program :: rest)
    (unfinished : ∀ launched, Ran world (analyze host settings root call world).2 launched →
      (host.run launched).status ≠ 0 ∧ (host.run launched).status ≠ 1) :
    ((∃ error, (analyze host settings root call world).1 = .error (.engine error)) ↔
      Housed settings root world.workspace ∧
        Startable host settings root call world.workspace) ∧
    (∀ launched, Ran world (analyze host settings root call world).2 launched →
      (analyze host settings root call world).1 =
        .error (.engine (statusError (host.run launched)))) ∧
    (Housed settings root world.workspace →
      (∀ resolved, ¬Located host settings.command resolved) →
        (analyze host settings root call world).1 = .error (.engine (notFoundError program))) ∧
    (¬Housed settings root world.workspace →
      ∃ fault ∈ directoryFaults,
        (analyze host settings root call world).1 = .error (.fault fault)) ∧
    ∀ launched fault, Launches host settings root call world.workspace launched →
      host.obstacle launched = some fault →
        (analyze host settings root call world).1 = .error (.fault fault) := by
  obtain ⟨text, rendered⟩ := rendered
  have ends := analyze_ends host settings root call world
  generalize analyze host settings root call world = run at ends unfinished ⊢
  cases ends with
  | unwritten hunwritten =>
    have houseless := not_housed_of_unwritten rendered hunwritten
    obtain ⟨fault, hfault, rfl⟩ := fault_of_unwritten rendered hunwritten
    refine ⟨iff_of_false (fun ⟨_, h⟩ => nomatch h) fun h => houseless h.1,
      fun _ ran => absurd ran (not_ran_self rfl), fun housed => absurd housed houseless,
      fun _ => ⟨fault, hfault, rfl⟩, fun launched _ launches => ?_⟩
    exact absurd launches.housed houseless
  | unlocated hwritten hunlocated =>
    have housed := housed_of_written hwritten
    rw [command] at hunlocated
    obtain rfl := error_of_unlocated hunlocated
    have unlaunched : ∀ launched, ¬Launches host settings root call world.workspace launched := by
      intro launched launches
      obtain ⟨resolved, hresolved, -⟩ := launches.command
      rw [command, hunlocated] at hresolved
      cases hresolved
    exact ⟨iff_of_true ⟨_, rfl⟩ ⟨housed, fun launched h => absurd h (unlaunched launched)⟩,
      fun _ ran => absurd ran (not_ran_self rfl), fun _ _ => rfl,
      fun houseless => absurd housed houseless,
      fun launched _ launches => absurd launches (unlaunched launched)⟩
  | @unstarted launched fault launches hobstacle =>
    have housed := launches.housed
    refine ⟨iff_of_false (fun ⟨_, h⟩ => nomatch h) fun h => ?_,
      fun _ ran => absurd ran (not_ran_self rfl), fun _ unlocated => ?_,
      fun houseless => absurd housed houseless, fun other fault' hother hfault' => ?_⟩
    · have startable := h.2 launched launches
      rw [hobstacle] at startable
      cases startable
    · obtain ⟨resolved, hresolved⟩ := launches.located
      exact absurd hresolved (unlocated resolved)
    · obtain rfl := hother.unique launches
      rw [hobstacle] at hfault'
      cases hfault'
      rfl
  | @launched launched launches hstarted =>
    have housed := launches.housed
    have failed := reportOf_of_status (unfinished launched rfl)
    refine ⟨iff_of_true ⟨_, failed⟩ ⟨housed, fun other hother => ?_⟩, fun other ran => ?_,
      fun _ unlocated => ?_, fun houseless => absurd housed houseless,
      fun other fault hother hfault => ?_⟩
    · rw [hother.unique launches]
      exact hstarted
    · obtain rfl : launched = other := List.singleton_inj.1 (List.append_cancel_left ran)
      exact failed
    · obtain ⟨resolved, hresolved⟩ := launches.located
      exact absurd hresolved (unlocated resolved)
    · rw [hother.unique launches, hstarted] at hfault
      cases hfault

/-! ### A linter that breaks down, and one without a directory -/

/-- The linter breaks down. -/
def breakdown : Completed where
  status := 2
  stdout := ""
  stderr := "Oops! Something went wrong! :("

theorem demoFragment_rendered :
    ∃ text, renderModule (flatten [demoFragment]).fragments = .ok text := by
  cases h : renderModule (flatten [demoFragment]).fragments with
  | ok text => exact ⟨text, rfl⟩
  | error failure =>
    have hsome : (renderModule (flatten [demoFragment]).fragments).toOption.isSome = true := by
      decide +kernel
    rw [h] at hsome
    cases hsome

/-- The error tells the status of a linter that broke down, and what it wrote. -/
theorem failed_run_engineError_breakdown :
    ∃ launched, Ran demoWorld (demoAnalysis breakdown).2 launched ∧
      (demoAnalysis breakdown).1 =
        .error (.engine
          { message := "analysis engine failed with exit status 2"
            status := some 2
            stderr := "Oops! Something went wrong! :(" }) := by
  have hlength : (demoAnalysis breakdown).2.launches.length = 1 := by decide +kernel
  obtain ⟨launched, ran⟩ := List.length_eq_one_iff.1 hlength
  have failed := failed_run_engineError_iff (endingHost breakdown) {} demoWorld.workspace.root
    ⟨"var x = 1\n", flatten [demoFragment], "a.ts"⟩ demoWorld demoFragment_rendered rfl
    fun _ _ => (by decide : breakdown.status ≠ 0 ∧ breakdown.status ≠ 1)
  exact ⟨launched, ran, failed.2.1 launched ran⟩

/-- Where the directory of the linter is not there, nothing is launched, and the failure is none of
the engine. -/
theorem missing_directory_is_no_engineError :
    let settings : EngineSettings := { workingDirectory := some (.ofString "missing") }
    let call : Call := ⟨"var x = 1\n", flatten [demoFragment], "a.ts"⟩
    let run := analyze (endingHost {}) settings demoWorld.workspace.root call demoWorld
    (∃ text, renderModule call.configuration.fragments = .ok text) ∧ run.2.launches = [] ∧
      run.1 = .error (.fault .missingDirectory) ∧ ∀ error, run.1 ≠ .error (.engine error) := by
  intro settings call run
  have hdirectory : settings.resolvedDirectory demoWorld.workspace.root =
      .ok (.ofString "/work/missing") := by
    unfold EngineSettings.resolvedDirectory
    dsimp only [settings]
    rw [if_neg (by decide +kernel), Path.resolved, if_neg (by decide +kernel)]
    exact congrArg Except.ok (by decide +kernel)
  have hfollow : demoWorld.workspace.follow (.ofString "/work/missing") =
      .ok (.ofString "/work/missing") := by decide +kernel
  have henter : demoWorld.workspace.enter (.ofString "/work/missing") =
      .error .missingDirectory := by decide +kernel
  obtain ⟨text, htext⟩ := demoFragment_rendered
  have hfile : demoWorld.workspace.addFile (.ofString "/work/missing") fileNameParts.1
      fileNameParts.2 (Utf8.encode text.toList) = .error .missingDirectory := by
    unfold Workspace.addFile
    rw [if_neg (by decide +kernel), hfollow]
    exact bind_eq_error.2 (.inr ⟨_, rfl, bind_eq_error.2 (.inl henter)⟩)
  have hwritten : written settings demoWorld.workspace.root call demoWorld.workspace =
      .error (.fault .missingDirectory) := unwritten_of_addFile hdirectory htext hfile
  have hrun : run = (.error (.fault .missingDirectory), demoWorld) := by
    show analyze _ _ _ _ _ = _
    rw [analyze_eq, hwritten]
  rw [hrun]
  exact ⟨⟨text, htext⟩, rfl, rfl, fun error h => nomatch h⟩

end Linter

end LayeredLint
