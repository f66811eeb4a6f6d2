import LayeredLint.CommandLine
import LayeredLint.Proofs.Except
import LayeredLint.Proofs.Linter.Runs

/-!
# Verifying a file on the command line

The command reads the file, the settings and the layer, and verifies the file with the linter of the
project.

- `answered`: what the command shows for an answer of the verification.
- `exists_linter_of_verifyInputs`: the engine is the linter of the project.
- `runVerify_cases`: the command leaves the world alone, or does what that engine does;
  `runVerify_of_ran`: if it launched the linter, it shows what the linter reports.
- `cleanRun`: what is shown for a file without diagnostics; `answered_eq_cleanRun_iff`: nothing else
  looks like that.
-/

namespace LayeredLint.CommandLine

/-- What the command shows for an answer. -/
def answered (name : String) : Except Failure (List Diagnostic) → Run
  | .error failure => ([], .failed failure)
  | .ok diagnostics => verifyReport name diagnostics

/-- The engine of the command is the linter of the project. -/
theorem exists_linter_of_verifyInputs {s : Surroundings} {w : Workspace} {name : String}
    {root : Path} {bytes : List UInt8} {engine : Engine World} {source : String}
    {c : EffectiveConfiguration}
    (h : verifyInputs s w name root bytes = .ok (engine, source, c)) :
    ∃ settings place, engine = linterEngine s.host settings place := by
  obtain ⟨layer, -, h⟩ := bind_eq_ok.1 h
  obtain ⟨c', -, h⟩ := bind_eq_ok.1 h
  obtain ⟨engine', hengine, h⟩ := bind_eq_ok.1 h
  obtain ⟨source', -, h⟩ := bind_eq_ok.1 h
  obtain ⟨settings, -, hengine⟩ := bind_eq_ok.1 hengine
  obtain ⟨place, -, hengine⟩ := bind_eq_ok.1 hengine
  cases h
  exact ⟨settings, place, (Except.ok.inj hengine).symm⟩

/-- A command leaves the world alone, or verifies its file with the linter of the project. -/
theorem runVerify_cases (s : Surroundings) (name argument : String) (root : Option String)
    (world : World) :
    (runVerify s name argument root world).2 = world ∨
      ∃ settings place c source ran,
        ran = verify (linterEngine s.host settings place) c source (Path.ofString argument).name
            world ∧
          runVerify s name argument root world =
            (answered (Path.ofString argument).name ran.1, ran.2) := by
  unfold runVerify
  cases fileOfArgument? world.workspace argument with
  | none => exact .inl rfl
  | some bytes =>
    dsimp only
    cases hinputs : verifyInputs s world.workspace name
        ((root.map Path.ofString).getD world.workspace.root) bytes with
    | error failure => exact .inl rfl
    | ok inputs =>
      obtain ⟨engine, source, c⟩ := inputs
      obtain ⟨settings, place, rfl⟩ := exists_linter_of_verifyInputs hinputs
      refine .inr ⟨settings, place, c, source, _, rfl, ?_⟩
      dsimp only
      rcases verify (linterEngine s.host settings place) c source (Path.ofString argument).name world
        with ⟨failure | diagnostics, after⟩ <;> rfl

/-- A command that launched the linter shows what the linter reports. -/
theorem runVerify_of_ran {s : Surroundings} {name argument : String} {root : Option String}
    {world : World} {launched : Launch}
    (h : Ran world (runVerify s name argument root world).2 launched) :
    (runVerify s name argument root world).1 =
      answered (Path.ofString argument).name (Linter.reportOf (s.host.run launched)) := by
  rcases runVerify_cases s name argument root world with
    hworld | ⟨settings, place, c, source, ran, hran, heq⟩
  · rw [hworld] at h
    exact absurd h (not_ran_self rfl)
  · rw [heq, hran] at h
    dsimp only at h
    rw [heq, hran, report_of_ran_verify h]

/-! ## Clean runs -/

/-- What is shown for a file without diagnostics. -/
def cleanRun (name : String) : Run :=
  ([.message .ok (name ++ ": no diagnostics")], .done)

/-- Such a command succeeds. -/
theorem status_cleanRun (look : Look) (command : Command) (name : String) :
    (outcomeOf look command (cleanRun name)).status = 0 :=
  rfl

/-- Only an answer without diagnostics looks like that. -/
theorem answered_eq_cleanRun_iff {name : String} {answer : Except Failure (List Diagnostic)} :
    answered name answer = cleanRun name ↔ answer = .ok [] := by
  constructor
  · intro h
    have hpieces : (answered name answer).1 = [.message .ok (name ++ ": no diagnostics")] :=
      congrArg Prod.fst h
    cases answer with
    | error failure => cases hpieces
    | ok diagnostics =>
      cases diagnostics with
      | nil => rfl
      | cons d rest =>
        -- a table comes first where there are diagnostics
        unfold answered verifyReport at hpieces
        dsimp only at hpieces
        rw [if_neg (by simp)] at hpieces
        split at hpieces <;> cases hpieces
  · rintro rfl
    rfl

end LayeredLint.CommandLine
