import LayeredLint.Proofs.CommandLine.Verify
import LayeredLint.Proofs.Linter.Failing
import LayeredLint.Proofs.Report.Normalised

/-!
# The exit status of a verification

A command ends with the status of its ending, or with 1 where something of what it has to say cannot
be shown. For a verification that launched the linter the linter decides: the status is 3 where the
linter broke down, 1 for a report with errors, and 0 for any other report.

- `Diagnostic.TellsError`, `ReportsError`: a message that tells of an error, and a report with one.
- `errorAmong_normalised_iff`: the diagnostics of a report have errors exactly if the report does.
- `Shown`: every piece of output can be shown; `status_outcomeOf_of_shown`,
  `status_outcomeOf_of_not_shown`: the status of any run, with this and without.
- `Printable`: there is a table for diagnostics, or no need of one.
- `status_answered_engine`, `status_answered_of_error`, `status_answered_of_no_error`: the status
  for each answer of the linter.
- `run_verify_of_ran`: what is left on the console is told by how the linter ended.
- `run_verify_tells_report`: **the exit status of a verification**, for every ending of the linter.
-/

namespace LayeredLint

/-! ## Reports with errors -/

/-- Some of the diagnostics are errors. -/
def ErrorAmong (diagnostics : List Diagnostic) : Prop :=
  ∃ d ∈ diagnostics, d.severity = .error

instance (diagnostics : List Diagnostic) : Decidable (ErrorAmong diagnostics) :=
  inferInstanceAs (Decidable (∃ d ∈ diagnostics, d.severity = .error))

/-- A message tells of an error: it is fatal in any way, or its severity counts two. -/
def Diagnostic.TellsError (message : List (Value × Value)) : Prop :=
  (member message "fatal").truthy = true ∨ (member message "severity").rational? = some 2

/-- A report holds a message that tells of an error. -/
def ReportsError (entries : List Value) : Prop :=
  ∃ message, MessageIn entries message ∧ Diagnostic.TellsError message

/-- A report in which no text is broken has a diagnostic for each of its messages. -/
theorem reportDiagnostics_of_unbroken {entries : List Value}
    (hwhole : (Value.list entries).Unbroken) :
    reportDiagnostics entries =
      .ok ((entries.flatMap entryMessages).map Diagnostic.normalised) :=
  mapM_eq_ok_map fun _ hmem =>
    Diagnostic.ofMessage_eq
      (not_keepsBroken_of_messageIn hwhole (mem_flatMap_entryMessages.1 hmem))

/-- The diagnostics of a report have errors exactly if the report does. -/
theorem errorAmong_normalised_iff {entries : List Value} :
    ErrorAmong ((entries.flatMap entryMessages).map Diagnostic.normalised) ↔
      ReportsError entries := by
  constructor
  · rintro ⟨d, hd, hseverity⟩
    obtain ⟨message, hmessage, rfl⟩ := List.mem_map.1 hd
    exact ⟨message, mem_flatMap_entryMessages.1 hmessage,
      (Diagnostic.normalises_normalised message).severity.1 hseverity⟩
  · rintro ⟨message, hmessage, herror⟩
    exact ⟨_, List.mem_map_of_mem (mem_flatMap_entryMessages.2 hmessage),
      (Diagnostic.normalises_normalised message).severity.2 herror⟩

namespace CommandLine

/-! ## What can be shown -/

/-- Every piece can be shown. -/
def Shown (look : Look) (pieces : List Output) : Prop :=
  ∀ piece ∈ pieces, ∃ text, piece.text look = .ok text

theorem shownText_eq_none_iff {look : Look} {pieces : List Output} :
    (shownText look pieces).2 = none ↔ Shown look pieces := by
  induction pieces with
  | nil => exact iff_of_true rfl (List.forall_mem_nil _)
  | cons piece rest ih =>
    rw [Shown, List.forall_mem_cons, shownText]
    cases piece.text look with
    | error failure =>
      -- the text ends here, whatever comes after
      refine iff_of_false nofun ?_
      rintro ⟨⟨_, h⟩, -⟩
      cases h
    | ok text => exact ih.trans (and_iff_right ⟨text, rfl⟩).symm

/-- The last line is a message, if there is one, and messages can always be shown. -/
theorem shown_conclusion (look : Look) (command : Command) (ending : Ending) :
    Shown look (conclusion command ending).1 := by
  intro piece hpiece
  cases ending with
  | done => cases hpiece
  | misused => cases hpiece
  | reported message status =>
    obtain rfl := List.mem_singleton.1 hpiece
    exact ⟨_, rfl⟩
  | failed failure =>
    rw [conclusion] at hpiece
    cases hreport : reportOf? command failure with
    | none =>
      rw [hreport] at hpiece
      cases hpiece
    | some report =>
      rw [hreport] at hpiece
      obtain rfl := List.mem_singleton.1 hpiece
      exact ⟨_, rfl⟩

/-- Whatever a run has to say can be shown if all before its last line can. -/
theorem shownText_conclusion_eq_none_iff (look : Look) (command : Command) (run : Run) :
    (shownText look (run.1 ++ (conclusion command run.2).1)).2 = none ↔ Shown look run.1 := by
  rw [shownText_eq_none_iff, Shown, List.forall_mem_append]
  exact and_iff_left (shown_conclusion look command run.2)

/-- A run of which every piece can be shown has the status of its ending. -/
theorem status_outcomeOf_of_shown {look : Look} {command : Command} {run : Run}
    (h : Shown look run.1) :
    (outcomeOf look command run).status = (conclusion command run.2).2.1 := by
  have hnone := (shownText_conclusion_eq_none_iff look command run).2 h
  unfold outcomeOf
  dsimp only
  split
  · rfl
  · next hsome =>
    rw [hsome] at hnone
    cases hnone

/-- Any other run fails. -/
theorem status_outcomeOf_of_not_shown {look : Look} {command : Command} {run : Run}
    (h : ¬Shown look run.1) : (outcomeOf look command run).status = 1 := by
  have hsome := mt (shownText_conclusion_eq_none_iff look command run).1 h
  unfold outcomeOf
  dsimp only
  split
  · next hnone => exact absurd (congrArg Prod.snd hnone) hsome
  · rfl

/-! ## The status for each answer -/

/-- There is a table for diagnostics, or there are none to be put into one. -/
def Printable (look : Look) (name : String) (diagnostics : List Diagnostic) : Prop :=
  diagnostics = [] ∨
    ∃ text, (Output.table (diagnosticsTable diagnostics name)).text look = .ok text

theorem isEmpty_errors_iff {diagnostics : List Diagnostic} :
    (diagnostics.filter fun d => d.severity = .error).isEmpty = true ↔
      ¬ErrorAmong diagnostics := by
  simp [ErrorAmong, List.filter_eq_nil_iff]

/-- Diagnostics are shown in a table and a line below it. Errors among them are counted. -/
theorem verifyReport_of_ne_nil (name : String) {diagnostics : List Diagnostic}
    (h : diagnostics ≠ []) :
    verifyReport name diagnostics =
      ([.table (diagnosticsTable diagnostics name),
          .message .info ("rules reported: " ++ reportedRules diagnostics)],
        if ErrorAmong diagnostics then
          .reported (toString (diagnostics.filter fun d => d.severity = .error).length ++
            " error(s) reported for " ++ name) 1
        else .done) := by
  unfold verifyReport
  rw [if_neg (mt List.isEmpty_iff.1 h)]
  by_cases herror : ErrorAmong diagnostics
  · rw [if_neg (mt isEmpty_errors_iff.1 (not_not.2 herror)), if_pos herror]
  · rw [if_pos (isEmpty_errors_iff.2 herror), if_neg herror]

theorem shown_verifyReport_iff {look : Look} {name : String} {diagnostics : List Diagnostic} :
    Shown look (verifyReport name diagnostics).1 ↔ Printable look name diagnostics := by
  by_cases hnil : diagnostics = []
  · subst hnil
    refine iff_of_true ?_ (.inl rfl)
    intro piece hpiece
    obtain rfl := List.mem_singleton.1 hpiece
    exact ⟨_, rfl⟩
  · rw [verifyReport_of_ne_nil name hnil, Shown, List.forall_mem_cons, List.forall_mem_singleton,
      Printable, or_iff_right hnil]
    exact and_iff_left ⟨_, rfl⟩

theorem status_verifyReport (command : Command) (name : String) (diagnostics : List Diagnostic) :
    (conclusion command (verifyReport name diagnostics).2).2.1 =
      if ErrorAmong diagnostics then 1 else 0 := by
  by_cases hnil : diagnostics = []
  · subst hnil
    rfl
  · rw [verifyReport_of_ne_nil name hnil]
    dsimp only
    split <;> rfl

section

variable {look : Look} {command : Command} {name : String} {diagnostics : List Diagnostic}

/-- An error of the engine is a failure of its own kind. -/
theorem status_answered_engine (error : EngineError) :
    (outcomeOf look command (answered name (.error (.engine error)))).status = 3 :=
  status_outcomeOf_of_shown (List.forall_mem_nil _)

/-- With an error the command fails, whether or not the table can be shown. -/
theorem status_answered_of_error (h : ErrorAmong diagnostics) :
    (outcomeOf look command (answered name (.ok diagnostics))).status = 1 := by
  by_cases shown : Shown look (verifyReport name diagnostics).1
  · calc (outcomeOf look command (verifyReport name diagnostics)).status
        = (conclusion command (verifyReport name diagnostics).2).2.1 :=
          status_outcomeOf_of_shown shown
      _ = 1 := (status_verifyReport _ _ _).trans (if_pos h)
  · -- the command fails anyway, for want of a table
    exact status_outcomeOf_of_not_shown shown

/-- Without one it succeeds, where the table can be shown. -/
theorem status_answered_of_no_error (h : ¬ErrorAmong diagnostics)
    (printable : Printable look name diagnostics) :
    (outcomeOf look command (answered name (.ok diagnostics))).status = 0 := by
  have shown : Shown look (verifyReport name diagnostics).1 := shown_verifyReport_iff.2 printable
  calc (outcomeOf look command (verifyReport name diagnostics)).status
      = (conclusion command (verifyReport name diagnostics).2).2.1 :=
        status_outcomeOf_of_shown shown
    _ = 0 := (status_verifyReport _ _ _).trans (if_neg h)

end

/-! ## The exit status of a verification -/

section

variable {s : Surroundings} {world : World} {line : List String} {look : Look}
  {layer path : String} {root : Option String} {launched : Launch}

/-- What a line that launched the linter leaves on the console is told by the linter. -/
theorem run_verify_of_ran (h : Invocation.ofArguments line = .ok ⟨look, .verify layer path root⟩)
    (ran : Ran world (run s line world).2 launched) :
    (run s line world).1 = outcomeOf look (.verify layer path root)
      (answered (Path.ofString path).name (Linter.reportOf (s.host.run launched))) := by
  have hrun : run s line world =
      (outcomeOf look (.verify layer path root) (runVerify s layer path root world).1,
        (runVerify s layer path root world).2) := by
    rw [run, h]
    rfl
  rw [hrun] at ran ⊢
  rw [runVerify_of_ran ran]

/-- **The exit status of a verification** that launched the linter, whatever the linter printed. It
is 3 where the linter ended with a status other than 0 and 1. Otherwise, for a report in which no
text is broken, it is 1 exactly if some message is fatal or has a severity that counts two, and 0
exactly if none is or has, provided that the table of diagnostics can be shown. A report with such a
message makes it 1 even where the table cannot, so a source that cannot be parsed never passes. -/
theorem run_verify_tells_report
    (h : Invocation.ofArguments line = .ok ⟨look, .verify layer path root⟩)
    (ran : Ran world (run s line world).2 launched) :
    ((s.host.run launched).status ≠ 0 ∧ (s.host.run launched).status ≠ 1 →
      (run s line world).1.status = 3) ∧
    ∀ entries, (s.host.run launched).status = 0 ∨ (s.host.run launched).status = 1 →
      Json.read (s.host.run launched).stdout = .ok (.list entries) →
      (Value.list entries).Unbroken →
        (ReportsError entries → (run s line world).1.status = 1) ∧
        ((∀ diagnostics, readReport (s.host.run launched).stdout = .ok diagnostics →
            Printable look (Path.ofString path).name diagnostics) →
          ((run s line world).1.status = 1 ↔ ReportsError entries) ∧
          ((run s line world).1.status = 0 ↔ ¬ReportsError entries)) := by
  rw [run_verify_of_ran h ran]
  constructor
  · intro hstatus
    rw [Linter.reportOf_of_status hstatus]
    exact status_answered_engine _
  · intro entries hstatus hread hwhole
    -- from here on, both the status and the report are told by the diagnostics
    have hreport := (readReport_of_read hread).trans (reportDiagnostics_of_unbroken hwhole)
    rw [Linter.reportOf, if_pos hstatus, hreport, ← errorAmong_normalised_iff]
    refine ⟨status_answered_of_error, fun printable => ?_⟩
    by_cases herror : ErrorAmong ((entries.flatMap entryMessages).map Diagnostic.normalised)
    · rw [status_answered_of_error herror]
      exact ⟨iff_of_true rfl herror, iff_of_false Nat.one_ne_zero (not_not.2 herror)⟩
    · rw [status_answered_of_no_error herror (printable _ rfl)]
      exact ⟨iff_of_false Nat.zero_ne_one herror, iff_of_true rfl herror⟩

end

/-! ### A breakdown, a source that cannot be parsed, and a remark -/

/-- The linter could not parse the source, and says so in a message for a warning with a rule. -/
def unparsed : Completed where
  status := 0
  stdout := "[\x7b\"messages\": [\x7b\"fatal\": 1, \"severity\": 1, \"ruleId\": \"no-var\"\x7d]\x7d]"

def unparsedEntries : List Value :=
  [.dict [(.str "messages", .list
    [.dict [(.str "fatal", .int 1), (.str "severity", .int 1), (.str "ruleId", .str "no-var")]])]]

/-- The linter ends with the status for problems, and the severity of the only one is a text. -/
def remark : Completed where
  status := 1
  stdout := "[\x7b\"messages\": [\x7b\"severity\": \"2\", \"message\": \"odd\"\x7d]\x7d, 2]"

def remarkEntries : List Value :=
  [.dict [(.str "messages", .list
    [.dict [(.str "severity", .str "2"), (.str "message", .str "odd")]])], .int 2]

/-- The line that verifies the file. -/
def demoLine : List String :=
  ["verify", "base", "a.ts"]

theorem exists_ran_demoLine {completed : Completed}
    (h : completed ∈ [Linter.breakdown, unparsed, remark]) :
    ∃ launched, Ran demoWorld (run (demoSurroundings completed) demoLine demoWorld).2 launched := by
  have length : ∀ completed ∈ [Linter.breakdown, unparsed, remark],
      (run (demoSurroundings completed) demoLine demoWorld).2.launches.length = 1 := by
    decide +kernel
  exact List.length_eq_one_iff.1 (length completed h)

theorem reportsError_unparsed : ReportsError unparsedEntries := by
  rw [← errorAmong_normalised_iff]
  decide

theorem not_reportsError_remark : ¬ReportsError remarkEntries := by
  rw [← errorAmong_normalised_iff]
  decide

/-- The diagnostic for the remark. -/
def remarkDiagnostic : Diagnostic where
  severity := .warning
  message := "odd"

theorem reportDiagnostics_remark : reportDiagnostics remarkEntries = .ok [remarkDiagnostic] := by
  have normal : (remarkEntries.flatMap entryMessages).map Diagnostic.normalised =
      [remarkDiagnostic] := by
    decide +kernel
  rw [reportDiagnostics_of_unbroken (by decide), normal]

/-- The table for it can be shown. -/
theorem printable_remark : Printable {} "a.ts" [remarkDiagnostic] := by
  have shown : ((Output.table (diagnosticsTable [remarkDiagnostic] "a.ts")).text {}).toBool =
      true := by
    decide +kernel
  cases htable : (Output.table (diagnosticsTable [remarkDiagnostic] "a.ts")).text {} with
  | ok text => exact .inr ⟨text, htable⟩
  | error failure =>
    rw [htable] at shown
    cases shown

/-- The status is 3 for the breakdown, 1 for the source, and 0 for the remark. -/
theorem run_verify_tells_report_samples :
    Invocation.ofArguments demoLine = .ok ⟨{}, .verify "base" "a.ts" none⟩ ∧
      (∃ launched,
        Ran demoWorld (run (demoSurroundings Linter.breakdown) demoLine demoWorld).2 launched ∧
          (run (demoSurroundings Linter.breakdown) demoLine demoWorld).1.status = 3) ∧
      (∃ launched, Ran demoWorld (run (demoSurroundings unparsed) demoLine demoWorld).2 launched ∧
        Json.read unparsed.stdout = .ok (.list unparsedEntries) ∧ ReportsError unparsedEntries ∧
          (run (demoSurroundings unparsed) demoLine demoWorld).1.status = 1) ∧
      ∃ launched, Ran demoWorld (run (demoSurroundings remark) demoLine demoWorld).2 launched ∧
        Json.read remark.stdout = .ok (.list remarkEntries) ∧ ¬ReportsError remarkEntries ∧
          (run (demoSurroundings remark) demoLine demoWorld).1.status = 0 := by
  have line : Invocation.ofArguments demoLine = .ok ⟨{}, .verify "base" "a.ts" none⟩ := by rfl
  have readUnparsed : Json.read unparsed.stdout = .ok (.list unparsedEntries) := by decide +kernel
  have readRemark : Json.read remark.stdout = .ok (.list remarkEntries) := by decide +kernel
  obtain ⟨broke, ranBroke⟩ := exists_ran_demoLine (show Linter.breakdown ∈ _ by simp)
  obtain ⟨refused, ranRefused⟩ := exists_ran_demoLine (show unparsed ∈ _ by simp)
  obtain ⟨remarked, ranRemarked⟩ := exists_ran_demoLine (show remark ∈ _ by simp)
  refine ⟨line, ⟨broke, ranBroke, ?breakdown⟩,
    ⟨refused, ranRefused, readUnparsed, reportsError_unparsed, ?unparsed⟩,
    remarked, ranRemarked, readRemark, not_reportsError_remark, ?remark⟩
  case breakdown =>
    have broken : Linter.breakdown.status ≠ 0 ∧ Linter.breakdown.status ≠ 1 := by decide
    exact (run_verify_tells_report line ranBroke).1 broken
  case unparsed =>
    have told := (run_verify_tells_report line ranRefused).2 _ (.inl rfl) readUnparsed (by decide)
    exact told.1 reportsError_unparsed
  case remark =>
    have told := (run_verify_tells_report line ranRemarked).2 _ (.inr rfl) readRemark (by decide)
    refine (told.2 ?_).2.2 not_reportsError_remark
    intro diagnostics hreport
    have hsame := (readReport_of_read readRemark).symm.trans hreport
    rw [reportDiagnostics_remark] at hsame
    cases hsame
    exact printable_remark

end CommandLine

end LayeredLint
