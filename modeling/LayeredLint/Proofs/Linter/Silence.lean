import LayeredLint.Proofs.CommandLine.Verify
import LayeredLint.Proofs.Report.Messages

/-!
# Runs that report nothing

A run of the linter is clean when it answers with no diagnostics. Which runs are clean is said here
by what the linter printed.

- `Silent`: a text reports no message.
- `readReport_eq_nil_iff`: no diagnostics are read exactly from such texts.
- `reportOf_eq_nil_iff`: nor from an ending, unless its status says that the linter did its work.
- `clean_iff_silent`: **a run is clean exactly if the linter ended with such a status and printed no
  message**, for the engine, for verification and for the command. The status for problems is one of
  them, so a linter that says there are problems and names none passes.
- `cancelled_run_is_clean`: a run that failed without a word.
-/

namespace LayeredLint

/-! ## Texts that report nothing -/

/-- A text reports no message: it is empty, or a list whose entries hold none. -/
def Silent (stdout : String) : Prop :=
  stdout = "" ∨
    ∃ entries, Json.read stdout = .ok (.list entries) ∧ ∀ message, ¬MessageIn entries message

/-- Each message is a diagnostic, so there are none without messages only. -/
theorem reportDiagnostics_eq_nil_iff {entries : List Value} :
    reportDiagnostics entries = .ok [] ↔ ∀ message, ¬MessageIn entries message := by
  rw [reportDiagnostics, mapM_eq_ok_iff, List.forall₂_nil_right_iff,
    List.eq_nil_iff_forall_not_mem]
  exact forall_congr' fun message => not_congr mem_flatMap_entryMessages

/-- No diagnostics are read exactly from a text that reports no message. -/
theorem readReport_eq_nil_iff {stdout : String} : readReport stdout = .ok [] ↔ Silent stdout := by
  by_cases hempty : stdout = ""
  · exact iff_of_true (by rw [hempty]; rfl) (.inl hempty)
  · have hread : readReport stdout = .ok [] ↔
        ∃ entries, Json.read stdout = .ok (.list entries) ∧ reportDiagnostics entries = .ok [] := by
      simp only [readReport, if_neg hempty]
      constructor
      · intro h
        split at h
        · next entries hentries => exact ⟨entries, hentries, h⟩
        · cases h
        · split at h <;> cases h
      · rintro ⟨entries, hentries, h⟩
        simpa only [hentries] using h
    rw [hread, Silent, or_iff_right hempty]
    exact exists_congr fun entries => and_congr_right fun _ => reportDiagnostics_eq_nil_iff

/-! ## Clean runs -/

theorem reportOf_eq_nil_iff {completed : Completed} :
    Linter.reportOf completed = .ok [] ↔
      (completed.status = 0 ∨ completed.status = 1) ∧ Silent completed.stdout := by
  unfold Linter.reportOf
  by_cases hstatus : completed.status = 0 ∨ completed.status = 1
  · rw [if_pos hstatus, readReport_eq_nil_iff, and_iff_right hstatus]
  · rw [if_neg hstatus]
    exact iff_of_false (fun h => nomatch h) fun h => hstatus h.1

open CommandLine in
/-- **Which runs are clean.** A run that launched the linter answers with no diagnostics exactly if
the linter ended with status 0 or 1 and printed no message, and exactly then the command shows a
clean run. Status 1 is the one for problems: a linter that ends with it and prints no message
passes. -/
theorem clean_iff_silent (host : Host) (settings : EngineSettings) (root : Path) (world : World)
    (launched : Launch) :
    (∀ call, Ran world (Linter.analyze host settings root call world).2 launched →
      ((Linter.analyze host settings root call world).1 = .ok [] ↔
        ((host.run launched).status = 0 ∨ (host.run launched).status = 1) ∧
          Silent (host.run launched).stdout)) ∧
    (∀ c source filename,
      Ran world (verify (linterEngine host settings root) c source filename world).2 launched →
        ((verify (linterEngine host settings root) c source filename world).1 = .ok [] ↔
          ((host.run launched).status = 0 ∨ (host.run launched).status = 1) ∧
            Silent (host.run launched).stdout)) ∧
    ∀ layers env layer path directory,
      Ran world (runVerify ⟨layers, host, env⟩ layer path directory world).2 launched →
        ((runVerify ⟨layers, host, env⟩ layer path directory world).1 =
            cleanRun (Path.ofString path).name ↔
          ((host.run launched).status = 0 ∨ (host.run launched).status = 1) ∧
            Silent (host.run launched).stdout) := by
  have clean : Linter.reportOf (host.run launched) = .ok [] ↔
      ((host.run launched).status = 0 ∨ (host.run launched).status = 1) ∧
        Silent (host.run launched).stdout := reportOf_eq_nil_iff
  refine ⟨?_, ?_, ?_⟩
  · intro call ran
    rw [Linter.report_of_ran ran]
    exact clean
  · intro c source filename ran
    rw [report_of_ran_verify ran]
    exact clean
  · intro layers env layer path directory ran
    rw [runVerify_of_ran ran, answered_eq_cleanRun_iff]
    exact clean

/-! ### Linters that end with the status for problems -/

/-- A host on which every program is found, and ends in one way. -/
def endingHost (completed : Completed) : Host where
  locate program := some ("/usr/bin/" ++ program)
  run _ := completed

/-- The linter names a problem. -/
def complaint : Completed where
  status := 1
  stdout := "[\x7b\"messages\": [\x7b\"ruleId\": \"no-var\", \"severity\": 2\x7d]\x7d]"

/-- The linter is not installed, so what should start it gives up. -/
def cancellation : Completed where
  status := 1
  stdout := ""
  stderr := "npx canceled due to missing packages"

/-- A directory with a file that can be verified. -/
def demoWorld : World where
  workspace :=
    { root := .ofString "/work"
      files := [(.ofString "/work/a.ts", Utf8.encode "var x = 1\n".toList)] }

def demoFragment : Fragment where
  name := .str "demo"
  rules := .ofList [("no-var", .error)]

/-- The engine on the file, where the linter ends in one way. -/
def demoAnalysis (completed : Completed) : Except Failure (List Diagnostic) × World :=
  Linter.analyze (endingHost completed) {} demoWorld.workspace.root
    ⟨"var x = 1\n", flatten [demoFragment], "a.ts"⟩ demoWorld

/-- Verification of the file, where the linter ends in one way. -/
def demoVerification (completed : Completed) : Except Failure (List Diagnostic) × World :=
  verify (linterEngine (endingHost completed) {} demoWorld.workspace.root)
    (flatten [demoFragment]) "var x = 1\n" "a.ts" demoWorld

def demoSurroundings (completed : Completed) : CommandLine.Surroundings where
  layers := { items := fun _ => [.fragment demoFragment] }
  host := endingHost completed

/-- The command on the file, where the linter ends in one way. -/
def demoCommand (completed : Completed) : CommandLine.Run × World :=
  CommandLine.runVerify (demoSurroundings completed) "base" "a.ts" none demoWorld

/-- Whichever way it ends, the linter is launched once. -/
theorem length_launches_demo :
    ∀ completed ∈ [complaint, cancellation],
      (demoAnalysis completed).2.launches.length = 1 ∧
        (demoVerification completed).2.launches.length = 1 ∧
        (demoCommand completed).2.launches.length = 1 := by
  decide +kernel

theorem exists_ran_demo {completed : Completed} (h : completed ∈ [complaint, cancellation]) :
    (∃ launched, Ran demoWorld (demoAnalysis completed).2 launched) ∧
      (∃ launched, Ran demoWorld (demoVerification completed).2 launched) ∧
      ∃ launched, Ran demoWorld (demoCommand completed).2 launched := by
  obtain ⟨analysis, verification, command⟩ := length_launches_demo completed h
  exact ⟨List.length_eq_one_iff.1 analysis, List.length_eq_one_iff.1 verification,
    List.length_eq_one_iff.1 command⟩

theorem not_silent_complaint : ¬Silent complaint.stdout := by
  rw [← readReport_eq_nil_iff]
  intro h
  have hcount : (readReport complaint.stdout).toOption.map List.length = some 1 := by
    decide +kernel
  rw [h] at hcount
  cases hcount

/-- A problem that is named is seen. -/
theorem clean_iff_silent_complaint :
    (∃ launched, Ran demoWorld (demoAnalysis complaint).2 launched ∧
      (demoAnalysis complaint).1 ≠ .ok []) ∧
    (∃ launched, Ran demoWorld (demoVerification complaint).2 launched ∧
      (demoVerification complaint).1 ≠ .ok []) ∧
    ∃ launched, Ran demoWorld (demoCommand complaint).2 launched ∧
      (demoCommand complaint).1 ≠ CommandLine.cleanRun "a.ts" := by
  have hclean := clean_iff_silent (endingHost complaint) {} demoWorld.workspace.root demoWorld
  obtain ⟨⟨_, analysis⟩, ⟨_, verification⟩, _, command⟩ :=
    exists_ran_demo (show complaint ∈ [complaint, cancellation] by simp)
  refine ⟨⟨_, analysis, fun h => ?_⟩, ⟨_, verification, fun h => ?_⟩, _, command, fun h => ?_⟩
  · exact not_silent_complaint (((hclean _).1 _ analysis).1 h).2
  · exact not_silent_complaint (((hclean _).2.1 _ _ _ verification).1 h).2
  · exact not_silent_complaint (((hclean _).2.2 _ _ _ _ _ command).1 h).2

/-- A linter that does not even start, with the status for problems and not a word of output, makes
a clean run, and the command succeeds. -/
theorem cancelled_run_is_clean :
    cancellation.status = 1 ∧
      (∃ launched, Ran demoWorld (demoAnalysis cancellation).2 launched ∧
        (demoAnalysis cancellation).1 = .ok []) ∧
      (∃ launched, Ran demoWorld (demoVerification cancellation).2 launched ∧
        (demoVerification cancellation).1 = .ok []) ∧
      ∃ launched, Ran demoWorld (demoCommand cancellation).2 launched ∧
        (demoCommand cancellation).1 = CommandLine.cleanRun "a.ts" ∧
        ∀ look command,
          (CommandLine.outcomeOf look command (demoCommand cancellation).1).status = 0 := by
  have silent : Linter.reportOf cancellation = .ok [] := rfl
  obtain ⟨⟨_, analysis⟩, ⟨_, verification⟩, _, command⟩ :=
    exists_ran_demo (show cancellation ∈ [complaint, cancellation] by simp)
  have clean : (demoCommand cancellation).1 = CommandLine.cleanRun "a.ts" :=
    (CommandLine.runVerify_of_ran command).trans (CommandLine.answered_eq_cleanRun_iff.2 silent)
  exact ⟨rfl, ⟨_, analysis, (Linter.report_of_ran analysis).trans silent⟩,
    ⟨_, verification, (report_of_ran_verify verification).trans silent⟩, _, command, clean,
    fun look command => by rw [clean, CommandLine.status_cleanRun]⟩

end LayeredLint
