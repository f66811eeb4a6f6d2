import LayeredLint.CommandLine
import LayeredLint.Proofs.Composition.Conflicts
import LayeredLint.Proofs.Layer.Extension

/-!
# Checking the layers on the command line

The command warns of the rules that a layer narrows and of the plugins that a layer takes over.
Neither breaks the extension of layers, so only a strict check counts them as failures, all of them.

- `Catalog.conflicts`, `Catalog.warnings`: what there is to warn of.
- `Catalog.failures`: how much a strict check counts; `Catalog.length_warnings`: it counts the
  warnings.
- `Catalog.Narrows`: a layer switches off a rule of its parent.
- `Catalog.conflicts_ne_nil_iff`: conflicts in any layer show in the uppermost one.
- `Catalog.failures_ne_zero_iff`: when there is something to count.
- `runCheck_layers`: how the command ends; `outcomeOf_runCheck`: what it leaves on the console.
- `run_check_tells_layers`: **the exit status of a check, and all that it shows**, for every
  catalog.
-/

namespace LayeredLint

namespace Catalog

/-! ## What is counted -/

/-- The conflicts of all layers, one layer after another. -/
def conflicts (c : Catalog) : List Conflict :=
  Layer.all.flatMap fun layer => pluginConflicts (c.fragments layer)

/-- What a check warns of: the narrowed rules, and then the conflicts. -/
def warnings (c : Catalog) : List String :=
  (Layer.all.flatMap c.narrowings).map Finding.describe ++ c.conflicts.map Conflict.describe

/-- The rules that the two upper layers narrow and the conflicts of all three layers, counted. -/
def failures (c : Catalog) : Nat :=
  (narrowedRules (c.configuration .base) (c.configuration .functional)).length +
    (narrowedRules (c.configuration .functional) (c.configuration .functionalLibrary)).length +
    ((pluginConflicts (c.fragments .base)).length +
      (pluginConflicts (c.fragments .functional)).length +
      (pluginConflicts (c.fragments .functionalLibrary)).length)

/-- What a check counts as failures. -/
def counted (c : Catalog) (strict : Bool) : Nat :=
  if strict then c.failures else 0

/-- A layer switches off a rule that its parent has enabled. -/
def Narrows (c : Catalog) (child : Layer) (rule : Name) : Prop :=
  ∃ parent, child.parent? = some parent ∧ rule ∈ (c.configuration parent).enabledRules.keys ∧
    LastSwitchesOff (c.own child) rule

theorem length_narrowings (c : Catalog) {child parent : Layer}
    (h : child.parent? = some parent) : (c.narrowings child).length =
      (narrowedRules (c.configuration parent) (c.configuration child)).length := by
  rw [narrowings, h]
  exact List.length_map _

/-- A strict check counts the warnings. -/
theorem length_warnings (c : Catalog) : c.warnings.length = c.failures := by
  have base : (c.narrowings .base).length = 0 := rfl
  have functional := c.length_narrowings (show Layer.functional.parent? = some .base from rfl)
  have library :=
    c.length_narrowings (show Layer.functionalLibrary.parent? = some .functional from rfl)
  simp only [warnings, conflicts, Layer.all, List.flatMap_cons, List.flatMap_nil,
    List.append_nil, List.length_append, List.length_map]
  rw [base, functional, library, failures]
  omega

/-! ## When there is something to count -/

theorem fragments_subset_library (c : Catalog) (layer : Layer) :
    c.fragments layer ⊆ c.fragments .functionalLibrary := by
  cases layer with
  | base =>
    show c.own .base ⊆ c.own .base ++ c.own .functional ++ c.own .functionalLibrary
    rw [List.append_assoc]
    exact List.subset_append_left _ _
  | functional => exact List.subset_append_left _ _
  | functionalLibrary => exact List.Subset.refl _

/-- Conflicts in any layer show in the uppermost one, where some plugin is bound to two sources. -/
theorem conflicts_ne_nil_iff (c : Catalog) :
    c.conflicts ≠ [] ↔ ∃ plugin, BoundApart (c.fragments .functionalLibrary) plugin := by
  constructor
  · intro h
    obtain ⟨conflict, hconflict⟩ := List.exists_mem_of_ne_nil _ h
    obtain ⟨layer, -, hlayer⟩ := List.mem_flatMap.1 hconflict
    have apart : BoundApart (c.fragments layer) conflict.plugin :=
      exists_conflict_iff.1 ⟨conflict, hlayer, SameKey.refl _⟩
    exact ⟨conflict.plugin, apart.mono (c.fragments_subset_library layer)⟩
  · rintro ⟨plugin, apart⟩
    obtain ⟨conflict, hconflict, -⟩ := exists_conflict_iff.2 apart
    exact List.ne_nil_of_mem (List.mem_flatMap.2 ⟨_, Layer.mem_all _, hconflict⟩)

theorem narrowings_ne_nil_iff (c : Catalog) :
    Layer.all.flatMap c.narrowings ≠ [] ↔ ∃ child rule, c.Narrows child rule := by
  constructor
  · intro h
    obtain ⟨finding, hfinding⟩ := List.exists_mem_of_ne_nil _ h
    obtain ⟨child, -, hchild⟩ := List.mem_flatMap.1 hfinding
    obtain ⟨parent, rule, hparent, hrule, -⟩ := mem_narrowings_iff.1 hchild
    exact ⟨child, rule, parent, hparent, (c.mem_narrowedRules_configuration_iff hparent).1 hrule⟩
  · rintro ⟨child, rule, parent, hparent, henabled⟩
    have hrule := (c.mem_narrowedRules_configuration_iff hparent).2 henabled
    have hfinding := mem_narrowings_iff.2 ⟨parent, rule, hparent, hrule, rfl⟩
    exact List.ne_nil_of_mem (List.mem_flatMap.2 ⟨child, child.mem_all, hfinding⟩)

/-- There is something to count if a layer narrows a rule or a plugin is bound to two sources. -/
theorem failures_ne_zero_iff (c : Catalog) :
    c.failures ≠ 0 ↔ (∃ child rule, c.Narrows child rule) ∨
      ∃ plugin, BoundApart (c.fragments .functionalLibrary) plugin := by
  rw [← narrowings_ne_nil_iff, ← conflicts_ne_nil_iff, ← length_warnings, warnings, Ne,
    List.length_eq_zero_iff, List.append_eq_nil_iff, List.map_eq_nil_iff, List.map_eq_nil_iff,
    not_and_or]

end Catalog

namespace CommandLine

/-! ## How the command ends -/

theorem layerConflicts_layers (c : Catalog) : layerConflicts c.layers = .ok c.conflicts := by
  have step : ∀ layer ∈ Layer.all, (do
      let fragments ← uncheckedFragments (c.layers.items layer)
      return pluginConflicts fragments) =
        (.ok (pluginConflicts (c.fragments layer)) : Except Failure (List Conflict)) := by
    intro layer _
    rw [c.items_layers, uncheckedFragments_map]
    rfl
  rw [layerConflicts, mapM_eq_ok_map step]
  rfl

/-- Nothing of this is fatal, so a check that is not strict counts nothing. -/
theorem failureCount_eq (c : Catalog) (strict : Bool) :
    failureCount strict (Layer.all.flatMap c.narrowings) c.conflicts = c.counted strict := by
  cases strict with
  | true =>
    rw [failureCount, if_pos rfl, Catalog.counted, if_pos rfl, ← c.length_warnings,
      Catalog.warnings, List.length_append, List.length_map, List.length_map]
  | false =>
    rw [failureCount, if_neg Bool.false_ne_true, c.filter_fatal_narrowings]
    rfl

/-- The pieces before the last line. -/
def checkPieces (c : Catalog) : List Output :=
  .heading "Extension invariant" :: c.warnings.map (.message .warn)

/-- A check fails with the number of what it counts, unless that is nothing. -/
theorem runCheck_layers (c : Catalog) (strict : Bool) :
    runCheck c.layers strict =
      if c.counted strict = 0 then
        (checkPieces c ++ [.message .ok "every layer extends its parent"], .done)
      else
        (checkPieces c, .reported (toString (c.counted strict) ++ " layer check(s) failed") 1) := by
  rw [runCheck, c.checkExtension_layers, layerConflicts_layers]
  dsimp only [attempt]
  rw [checkReport, failureCount_eq]
  by_cases h : c.counted strict = 0
  · rw [if_pos h, if_pos h]
    rfl
  · rw [if_neg h, if_neg h]
    rfl

/-! ## What is shown -/

/-- What can be shown stands before all that comes after it. -/
theorem shownText_append {look : Look} {pieces : List Output} {text : String}
    (h : shownText look pieces = (text, none)) (more : List Output) :
    shownText look (pieces ++ more) =
      (text ++ (shownText look more).1, (shownText look more).2) := by
  induction pieces generalizing text with
  | nil =>
    cases h
    rw [List.nil_append, String.empty_append]
  | cons piece rest ih =>
    rw [shownText] at h
    rw [List.cons_append, shownText]
    cases hpiece : piece.text look with
    | error failure =>
      rw [hpiece] at h
      cases h
    | ok here =>
      rw [hpiece] at h
      dsimp only at h ⊢
      obtain ⟨hothers, hnone⟩ := Prod.mk.inj h
      rw [ih (Prod.ext rfl hnone), ← hothers, String.append_assoc]

/-- Messages can always be shown. -/
theorem shownText_messages (look : Look) (kind : MessageKind) (lines : List String) :
    shownText look (lines.map (.message kind)) =
      (String.join (lines.map (Output.messageText look kind)), none) := by
  induction lines with
  | nil => rfl
  | cons line rest ih =>
    rw [List.map_cons, shownText, Output.text, ih, List.map_cons, String.join_cons]

/-- The heading can be shown, with colours and without. -/
theorem exists_checkHeading (look : Look) :
    ∃ heading, Output.headingText look "Extension invariant" = .ok heading := by
  have shown : (Output.headingText look "Extension invariant").toBool = true := by
    obtain ⟨color, emoji⟩ := look
    cases color <;> cases emoji <;> decide +kernel
  cases h : Output.headingText look "Extension invariant" with
  | ok heading => exact ⟨heading, rfl⟩
  | error failure =>
    rw [h] at shown
    cases shown

/-- The lines of the warnings. -/
def warningLines (look : Look) (c : Catalog) : String :=
  String.join (c.warnings.map (Output.messageText look .warn))

theorem shownText_checkPieces (c : Catalog) {look : Look} {heading : String}
    (h : Output.headingText look "Extension invariant" = .ok heading) :
    shownText look (checkPieces c) = (heading ++ warningLines look c, none) := by
  rw [checkPieces, shownText, Output.text, h, shownText_messages]
  rfl

/-- What a check leaves on the console: the warnings, and a last line that says how it ended. -/
theorem outcomeOf_runCheck (c : Catalog) {look : Look} (strict : Bool) {heading : String}
    (h : Output.headingText look "Extension invariant" = .ok heading) :
    outcomeOf look (.check strict) (runCheck c.layers strict) =
      if c.counted strict = 0 then
        { text := heading ++ warningLines look c ++
            Output.messageText look .ok "every layer extends its parent" }
      else
        { text := heading ++ warningLines look c ++
            Output.messageText look .fail (toString (c.counted strict) ++ " layer check(s) failed")
          status := 1 } := by
  have shown := shownText_append (shownText_checkPieces c h)
  have line (kind : MessageKind) (message : String) :
      shownText look [.message kind message] = (Output.messageText look kind message, none) := by
    rw [shownText, Output.text, shownText]
    exact congrArg (·, none) String.append_empty
  rw [runCheck_layers]
  split
  · dsimp only [outcomeOf, conclusion]
    rw [List.append_nil, shown, line]
  · dsimp only [outcomeOf, conclusion]
    rw [shown, line]

/-- **The exit status of a check, and all that it shows**, whatever fragments a catalog holds. A
check fails exactly if it is strict and some layer switches off a rule that its parent has enabled,
or the fragments of the uppermost layer bind a plugin to two sources. Every narrowed rule and every
conflict is shown, and a check that fails says how many there are. -/
theorem run_check_tells_layers (c : Catalog) (s : Surroundings) (world : World)
    {line : List String} {look : Look} {strict : Bool}
    (h : Invocation.ofArguments line = .ok ⟨look, .check strict⟩) :
    ∃ heading outcome, Output.headingText look "Extension invariant" = .ok heading ∧
      run { s with layers := c.layers } line world = (outcome, world) ∧
      outcome.unexpected = none ∧
      (outcome.status = 0 ∨ outcome.status = 1) ∧
      (outcome.status = 1 ↔ strict = true ∧ ((∃ child rule, c.Narrows child rule) ∨
        ∃ plugin, BoundApart (c.fragments .functionalLibrary) plugin)) ∧
      outcome.text = heading ++ warningLines look c ++
        if outcome.status = 1 then
          Output.messageText look .fail (toString c.failures ++ " layer check(s) failed")
        else Output.messageText look .ok "every layer extends its parent" := by
  obtain ⟨heading, hheading⟩ := exists_checkHeading look
  have outcome := outcomeOf_runCheck c strict hheading
  have hrun : run { s with layers := c.layers } line world =
      (outcomeOf look (.check strict) (runCheck c.layers strict), world) := by
    rw [run, h]
    rfl
  refine ⟨heading, _, hheading, hrun, ?_⟩
  rw [outcome, ← c.failures_ne_zero_iff]
  by_cases counted : c.counted strict = 0
  · rw [if_pos counted]
    refine ⟨rfl, .inl rfl, ⟨fun hstatus => (nomatch hstatus), ?_⟩, rfl⟩
    rintro ⟨rfl, hfailures⟩
    exact absurd counted hfailures
  · rw [if_neg counted]
    cases strict with
    | false => exact absurd rfl counted
    | true => exact ⟨rfl, .inr rfl, iff_of_true rfl ⟨rfl, counted⟩, rfl⟩

/-- The catalog in which rules are narrowed, with a plugin that the middle layer takes over. -/
def takingOverSample : Catalog :=
  { Catalog.narrowingSample with
    formatting :=
      { name := .str "format", plugins := .ofList [("p", .of { module := "first" })] }
    functionalRules :=
      { Catalog.narrowingSample.functionalRules with
        plugins := .ofList [("p", .of { module := "second" })] } }

/-- Its layers, where no program is found. -/
def takingOverSurroundings : Surroundings where
  layers := takingOverSample.layers
  host := { locate := fun _ => none, run := fun _ => {} }

/-- A directory without files. -/
def bareWorld : World where
  workspace := { root := .ofString "/work" }

/-- Two rules are narrowed, and the plugin is taken over in two of the layers. -/
theorem run_check_tells_layers_takingOver :
    Invocation.ofArguments ["--no-color", "check", "--strict"] =
        .ok ⟨{ useColor := false }, .check true⟩ ∧
      takingOverSample.failures = 4 ∧
      ∃ shown outcome, run takingOverSurroundings ["--no-color", "check", "--strict"] bareWorld =
          (outcome, bareWorld) ∧
        outcome.status = 1 ∧ outcome.text = shown ++ "❌ 4 layer check(s) failed\n" := by
  have line : Invocation.ofArguments ["--no-color", "check", "--strict"] =
      .ok ⟨{ useColor := false }, .check true⟩ := by rfl
  have failures : takingOverSample.failures = 4 := by decide
  obtain ⟨heading, outcome, -, hrun, -, -, hstatus, htext⟩ :=
    run_check_tells_layers takingOverSample takingOverSurroundings bareWorld line
  have status : outcome.status = 1 := by
    refine hstatus.2 ⟨rfl, takingOverSample.failures_ne_zero_iff.1 ?_⟩
    rw [failures]
    decide
  rw [if_pos status, failures] at htext
  exact ⟨line, failures, _, outcome, hrun, status, htext⟩

end CommandLine

end LayeredLint
