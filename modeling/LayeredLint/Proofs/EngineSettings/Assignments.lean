import LayeredLint.Proofs.EngineSettings.Fields

/-!
# Runs of assignments

Settings are read from a record and then changed field by field, by assignments that may fail.

- `EngineSettings.Assigns`: what an assignment does, and what it has to be given for it.
- `EngineSettings.Refused`: why an assignment fails.
- `EngineSettings.assign_eq_ok_iff`, `EngineSettings.assign_eq_error`: what an assignment answers.
- `EngineSettings.sets_of_ofEntries`: a record gives a field as an assignment does.
- `EngineSettings.outcome_afterAssignment`: one step of a run.
- `EngineSettings.assignments_keep_valid`: every step of every run.
-/

namespace LayeredLint.EngineSettings

open Record

/-! ## One assignment -/

/-- Two settings have the same in a field. -/
def SameAt (s t : EngineSettings) : Field → Prop
  | .command => s.command = t.command
  | .workingDirectory => s.workingDirectory = t.workingDirectory
  | .extraArguments => s.extraArguments = t.extraArguments

/-- What a field becomes, and what has to be given for it. -/
inductive Sets (s : EngineSettings) : Field → Value → EngineSettings → Prop
  | command {v : Value} {words : List String} (given : WordsOf v words) (nonempty : words ≠ []) :
    Sets s .command v { s with command := words }
  | rootDirectory : Sets s .workingDirectory .null { s with workingDirectory := none }
  | directory {v : Value} {p : String} (given : v.text? = some p) :
    Sets s .workingDirectory v { s with workingDirectory := some (Path.ofString p) }
  | extraArguments {v : Value} {words : List String} (given : WordsOf v words) :
    Sets s .extraArguments v { s with extraArguments := words }

/-- What an assignment does: it sets a field, or keeps a note under a private name. -/
inductive Assigns (s : EngineSettings) : String → Value → EngineSettings → Prop
  | field {f : Field} {v : Value} {t : EngineSettings} (sets : Sets s f v t) : Assigns s f.name v t
  | note {name : String} {v : Value} (hidden : isPrivate name = true) : Assigns s name v s

/-- Why a value is not taken for a field. -/
inductive Unfit : Field → Value → Prop
  | noWords {f : Field} {v : Value} (holdsWords : f ≠ .workingDirectory) (given : NoWordsOf v) :
    Unfit f v
  | blankCommand {v : Value} {line : String} (given : v.text? = some line)
    (blank : ∀ c ∈ line.toList, Text.isSeparator c = true) : Unfit .command v
  | emptyCommand {v : Value} (given : sequence? v = some []) : Unfit .command v
  | noPath {v : Value} (notNull : v ≠ .null) (notText : v.text? = none) : Unfit .workingDirectory v

/-- Why an assignment fails: its value is not taken, or there is no field of its name. -/
inductive Refused : String → Value → Prop
  | unfit {f : Field} {v : Value} (unfit : Unfit f v) : Refused f.name v
  | unknownField {name : String} {v : Value} (unknown : ∀ f : Field, f.name ≠ name)
    (visible : isPrivate name = false) : Refused name v

theorem Field.name_injective {f g : Field} (h : f.name = g.name) : f = g := by
  cases f <;> cases g <;> first | rfl | exact absurd h (by decide)

theorem Field.ofName?_name (f : Field) : Field.ofName? f.name = some f := by
  cases f <;> decide

theorem Field.ofName?_eq_none {name : String} (h : ∀ f : Field, f.name ≠ name) :
    Field.ofName? name = none := by
  rw [Field.ofName?, List.find?_eq_none]
  intro f _
  simpa using h f

/-- A field is no private name. -/
theorem Field.isPrivate_name (f : Field) : isPrivate f.name = false := by
  cases f <;> decide

/-- A name is that of a field or of none. -/
theorem field_or_other (name : String) : (∃ f : Field, f.name = name) ∨ ∀ f : Field, f.name ≠ name := by
  by_cases h : ∃ f : Field, f.name = name
  · exact .inl h
  · exact .inr (not_exists.1 h)

theorem set_eq_ok_iff {s t : EngineSettings} {f : Field} {v : Value} :
    s.set f v = .ok t ↔ Sets s f v t := by
  unfold set
  rw [Checked.under_eq_ok_iff]
  cases f with
  | command =>
    show (fun words => { s with command := words }) <$> commandOfValue v = .ok t ↔ _
    rw [map_eq_ok]
    simp only [commandOfValue_eq_ok_iff]
    constructor
    · rintro ⟨words, ⟨given, nonempty⟩, rfl⟩
      exact .command given nonempty
    · intro h
      cases h with
      | command given nonempty => exact ⟨_, ⟨given, nonempty⟩, rfl⟩
  | workingDirectory =>
    show (fun p => { s with workingDirectory := p }) <$> directoryOfValue v = .ok t ↔ _
    rw [map_eq_ok]
    simp only [directoryOfValue_eq_ok_iff]
    constructor
    · rintro ⟨d, ⟨rfl, rfl⟩ | ⟨p, given, rfl⟩, rfl⟩
      · exact .rootDirectory
      · exact .directory given
    · intro h
      cases h with
      | rootDirectory => exact ⟨none, .inl ⟨rfl, rfl⟩, rfl⟩
      | directory given => exact ⟨_, .inr ⟨_, given, rfl⟩, rfl⟩
  | extraArguments =>
    show (fun words => { s with extraArguments := words }) <$> wordsOfValue v = .ok t ↔ _
    rw [map_eq_ok]
    simp only [wordsOfValue_eq_ok_iff]
    constructor
    · rintro ⟨words, given, rfl⟩
      exact .extraArguments given
    · intro h
      cases h with
      | extraArguments given => exact ⟨_, given, rfl⟩

/-- An assignment succeeds when it does one of the things that assignments do. -/
theorem assign_eq_ok_iff {s t : EngineSettings} {name : String} {v : Value} :
    s.assign name v = .ok t ↔ Assigns s name v t := by
  unfold assign
  rcases field_or_other name with ⟨f, rfl⟩ | other
  · rw [Field.ofName?_name]
    show (s.set f v).mapError Failure.validation = .ok t ↔ _
    rw [mapError_eq_ok, set_eq_ok_iff]
    constructor
    · exact .field
    · intro h
      -- A name is no constructor, so the case of a field gives an equation between two names.
      generalize hname : f.name = name at h
      cases h with
      | field sets =>
        rw [Field.name_injective hname]
        exact sets
      | note hidden =>
        rw [← hname, Field.isPrivate_name] at hidden
        cases hidden
  · rw [Field.ofName?_eq_none other]
    show (if isPrivate name = true then _ else _) = _ ↔ _
    split_ifs with hidden
    · constructor
      · rintro ⟨⟩
        exact .note hidden
      · intro h
        cases h with
        | field sets => exact absurd rfl (other _)
        | note _ => rfl
    · refine iff_of_false (fun h => by cases h) fun h => ?_
      cases h with
      | field sets => exact other _ rfl
      | note hidden' => exact hidden hidden'

/-! ## Which assignments succeed -/

theorem sets_or_unfit (s : EngineSettings) (f : Field) (v : Value) :
    (∃ t, Sets s f v t) ∨ Unfit f v := by
  cases f with
  | command =>
    rcases wordsOf_or_noWordsOf v with ⟨words, given⟩ | given
    · cases words with
      | nil =>
        rcases wordsOf_nil_iff.1 given with ⟨line, hline, blank⟩ | hempty
        · exact .inr (.blankCommand hline blank)
        · exact .inr (.emptyCommand hempty)
      | cons word rest => exact .inl ⟨_, .command given (by simp)⟩
    · exact .inr (.noWords (by simp) given)
  | workingDirectory =>
    by_cases hnull : v = .null
    · rw [hnull]
      exact .inl ⟨_, .rootDirectory⟩
    · cases htext : v.text? with
      | some p => exact .inl ⟨_, .directory htext⟩
      | none => exact .inr (.noPath hnull htext)
  | extraArguments =>
    rcases wordsOf_or_noWordsOf v with ⟨words, given⟩ | given
    · exact .inl ⟨_, .extraArguments given⟩
    · exact .inr (.noWords (by simp) given)

theorem Unfit.not_sets {s t : EngineSettings} {f : Field} {v : Value} (h : Unfit f v) :
    ¬Sets s f v t := by
  intro sets
  cases h with
  | noWords holdsWords none =>
    cases sets with
    | command given _ => exact none.not_wordsOf given
    | extraArguments given => exact none.not_wordsOf given
    | _ => exact holdsWords rfl
  | blankCommand given blank =>
    cases sets with
    | command given' nonempty =>
      exact nonempty (unique_wordsOf given' (wordsOf_nil_iff.2 (.inl ⟨_, given, blank⟩)))
  | emptyCommand given =>
    cases sets with
    | command given' nonempty => exact nonempty (unique_wordsOf given' (wordsOf_nil_iff.2 (.inr given)))
  | noPath notNull notText =>
    cases sets with
    | rootDirectory => exact notNull rfl
    | directory given =>
      rw [given] at notText
      cases notText

theorem Refused.not_assigns {s t : EngineSettings} {name : String} {v : Value}
    (h : Refused name v) : ¬Assigns s name v t := by
  intro assigns
  generalize hname : name = name' at assigns
  cases h with
  | unfit unfit =>
    cases assigns with
    | field sets =>
      cases Field.name_injective hname
      exact unfit.not_sets sets
    | note hidden =>
      rw [← hname, Field.isPrivate_name] at hidden
      cases hidden
  | unknownField unknown visible =>
    cases assigns with
    | field sets => exact unknown _ hname.symm
    | note hidden =>
      rw [← hname, visible] at hidden
      cases hidden

theorem assigns_or_refused (s : EngineSettings) (name : String) (v : Value) :
    (∃ t, Assigns s name v t) ∨ Refused name v := by
  rcases field_or_other name with ⟨f, rfl⟩ | other
  · rcases sets_or_unfit s f v with ⟨t, sets⟩ | unfit
    · exact .inl ⟨t, .field sets⟩
    · exact .inr (.unfit unfit)
  · cases hidden : isPrivate name with
    | true => exact .inl ⟨s, .note hidden⟩
    | false => exact .inr (.unknownField other hidden)

/-! ## What an assignment keeps -/

theorem Sets.sameAt {s t : EngineSettings} {f g : Field} {v : Value} (h : Sets s f v t)
    (hg : g ≠ f) : SameAt s t g := by
  cases h <;> cases g <;> first | rfl | exact absurd rfl hg

theorem Sets.command_ne_nil {s t : EngineSettings} {f : Field} {v : Value} (h : Sets s f v t)
    (hs : s.command ≠ []) : t.command ≠ [] := by
  cases h with
  | command _ nonempty => exact nonempty
  | rootDirectory => exact hs
  | directory _ => exact hs
  | extraArguments _ => exact hs

/-- An assignment changes nothing but the field it names. -/
theorem Assigns.sameAt {s t : EngineSettings} {name : String} {v : Value} (h : Assigns s name v t)
    {f : Field} (hf : f.name ≠ name) : SameAt s t f := by
  cases h with
  | note _ => cases f <;> rfl
  | field sets => exact sets.sameAt fun hfield => hf (congrArg Field.name hfield)

/-- An assignment leaves a command. -/
theorem Assigns.command_ne_nil {s t : EngineSettings} {name : String} {v : Value}
    (h : Assigns s name v t) (hs : s.command ≠ []) : t.command ≠ [] := by
  cases h with
  | note _ => exact hs
  | field sets => exact sets.command_ne_nil hs

/-! ## Failures -/

theorem set_eq_error {s : EngineSettings} {f : Field} {v : Value} {issues : List Issue}
    (h : s.set f v = .error issues) :
    issues ≠ [] ∧ ∀ issue ∈ issues, issue.place.head? = some (.field f.name) := by
  -- The issues are those of the conversion, each seen from the field.
  obtain ⟨inner, hinner, rfl⟩ := Checked.under_eq_error_iff.1 h
  constructor
  · intro hnil
    rw [List.map_eq_nil_iff.1 hnil] at hinner
    cases f with
    | command => exact (explained_commandOfValue v).map _ hinner
    | workingDirectory => exact (explained_directoryOfValue v).map _ hinner
    | extraArguments => exact (explained_wordsOfValue v).map _ hinner
  · intro issue mem
    obtain ⟨_, _, rfl⟩ := List.mem_map.1 mem
    rfl

/-- An assignment that fails says why, at the place it names. -/
theorem assign_eq_error {s : EngineSettings} {name : String} {v : Value} {failure : Failure}
    (h : s.assign name v = .error failure) :
    ∃ issues, failure = .validation issues ∧ issues ≠ [] ∧
      ∀ issue ∈ issues, issue.place.head? = some (.field name) := by
  unfold assign at h
  rcases field_or_other name with ⟨f, rfl⟩ | other
  · rw [Field.ofName?_name] at h
    obtain ⟨issues, hset, rfl⟩ := mapError_eq_error.1 h
    exact ⟨issues, rfl, set_eq_error hset⟩
  · rw [Field.ofName?_eq_none other] at h
    dsimp only at h
    split_ifs at h
    cases h
    exact ⟨_, rfl, List.cons_ne_nil _ _, fun _ mem => by rw [List.mem_singleton.1 mem]; rfl⟩

/-- What is wrong with a value for a field is told about that field. -/
theorem place_of_mem_fieldIssues {f : Field} {v : Value} {issue : Issue}
    (mem : issue ∈ fieldIssues f v) : issue.place.head? = some (.field f.name) := by
  unfold fieldIssues at mem
  cases hset : ({} : EngineSettings).set f v with
  | ok t =>
    rw [hset] at mem
    cases mem
  | error issues =>
    rw [hset] at mem
    exact (set_eq_error hset).2 issue mem

/-! ## Records -/

/-- What a record gives for a field is taken as an assignment takes it, and a field that it does not
give has its default. -/
theorem sets_of_ofEntries {entries : List (Value × Value)} {s : EngineSettings}
    (h : ofEntries entries = .ok s) (f : Field) :
    (∀ v, Entries.find? (.str f.name) entries = some v → ∃ t, Sets {} f v t ∧ SameAt s t f) ∧
      (Entries.find? (.str f.name) entries = none → SameAt s {} f) := by
  obtain ⟨hcommand, hdirectory, hextra, -⟩ := ofEntries_eq_ok_iff.1 h
  cases f with
  | command =>
    refine ⟨fun v hv => ?_, fun hnone => (field_plain_of_none hnone).1 hcommand⟩
    have hwords := (field_plain_of_some hv).1 hcommand
    obtain ⟨given, nonempty⟩ := commandOfValue_eq_ok_iff.1 hwords
    exact ⟨_, .command given nonempty, rfl⟩
  | workingDirectory =>
    refine ⟨fun v hv => ?_, fun hnone => (field_plain_of_none hnone).1 hdirectory⟩
    have hpath := (field_plain_of_some hv).1 hdirectory
    rcases directoryOfValue_eq_ok_iff.1 hpath with ⟨rfl, hroot⟩ | ⟨p, given, hp⟩
    · exact ⟨_, .rootDirectory, hroot⟩
    · exact ⟨_, .directory given, hp⟩
  | extraArguments =>
    refine ⟨fun v hv => ?_, fun hnone => (field_plain_of_none hnone).1 hextra⟩
    have hwords := (field_plain_of_some hv).1 hextra
    exact ⟨_, .extraArguments (wordsOfValue_eq_ok_iff.1 hwords), rfl⟩

/-! ## Runs -/

/-- What comes of an assignment: it succeeds, and no field but its own is changed, or it fails, and
everything is as it was. -/
inductive Outcome (s : EngineSettings) (name : String) (v : Value) : EngineSettings → Prop
  | assigned {t : EngineSettings} (done : s.assign name v = .ok t) (assigns : Assigns s name v t)
    (fit : ¬Refused name v) (others : ∀ f : Field, f.name ≠ name → SameAt s t f) :
    Outcome s name v t
  | refused {issues : List Issue} (failed : s.assign name v = .error (.validation issues))
    (refused : Refused name v) (told : issues ≠ [])
    (placed : ∀ issue ∈ issues, issue.place.head? = some (.field name)) : Outcome s name v s

theorem outcome_afterAssignment (s : EngineSettings) (name : String) (v : Value) :
    Outcome s name v (s.afterAssignment (name, v)) := by
  unfold afterAssignment
  cases hassign : s.assign name v with
  | ok t =>
    have assigns := assign_eq_ok_iff.1 hassign
    exact .assigned hassign assigns (fun h => h.not_assigns assigns) fun _ => assigns.sameAt
  | error failure =>
    obtain ⟨issues, rfl, told, placed⟩ := assign_eq_error hassign
    -- An assignment that could be made would have been made.
    refine .refused hassign ((assigns_or_refused s name v).resolve_left ?_) told placed
    rintro ⟨t, assigns⟩
    rw [assign_eq_ok_iff.2 assigns] at hassign
    cases hassign

theorem Outcome.command_ne_nil {s t : EngineSettings} {name : String} {v : Value}
    (h : Outcome s name v t) (hs : s.command ≠ []) : t.command ≠ [] := by
  cases h with
  | assigned _ assigns _ _ => exact assigns.command_ne_nil hs
  | refused _ _ _ _ => exact hs

theorem command_afterAssignments {s : EngineSettings} (hs : s.command ≠ [])
    (assignments : List (String × Value)) : (s.afterAssignments assignments).command ≠ [] := by
  induction assignments generalizing s with
  | nil => exact hs
  | cons assignment rest ih =>
    exact ih ((outcome_afterAssignment s assignment.1 assignment.2).command_ne_nil hs)

/-- Settings that were read have a command. -/
theorem command_of_ofRecord {v : Value} {s : EngineSettings} (accepted : ofRecord v = .ok s) :
    s.command ≠ [] := by
  cases v with
  | dict entries =>
    obtain ⟨hcommand, -, -, -⟩ := ofEntries_eq_ok_iff.1 (mapError_eq_ok.1 accepted)
    rcases field_eq_ok_iff.1 hcommand with ⟨-, hdefault⟩ | ⟨_, given, -, hgiven⟩
    · rw [hdefault]
      exact List.cons_ne_nil _ _
    · exact (commandOfValue_eq_ok_iff.1 hgiven).2
  | _ => cases accepted

/-- **Settings stay valid over every run of assignments.** Whatever record they were read from and
whatever was assigned since, with or without success, there is a command; one more assignment
changes its own field and no other, or is refused and changes nothing. Left aside are the names that
every object has, such as `__dict__`, which `assign` takes for notes. -/
theorem assignments_keep_valid {v : Value} {s : EngineSettings} (accepted : ofRecord v = .ok s)
    (assignments : List (String × Value)) :
    (s.afterAssignments assignments).command ≠ [] ∧
      ∀ name w, Outcome (s.afterAssignments assignments) name w
        (s.afterAssignments (assignments ++ [(name, w)])) := by
  refine ⟨command_afterAssignments (command_of_ofRecord accepted) assignments, fun name w => ?_⟩
  have next : s.afterAssignments (assignments ++ [(name, w)]) =
      (s.afterAssignments assignments).afterAssignment (name, w) := List.foldl_append
  rw [next]
  exact outcome_afterAssignment _ name w

/-- Settings with a line for a command. -/
def lineSample : Value :=
  .dict [(.str "command", .str "npx \"my eslint\""), (.str "extra_args", .list [.str "--cache"])]

/-- A blank command, quotes that are left open, an item that is no text, a field that there is not,
and two assignments that succeed. -/
def runSample : List (String × Value) :=
  [("command", .str " \t"), ("command", .str "npx 'eslint"),
   ("extra_args", .list [.str "--fix", .int 1]), ("colour", .bool true),
   ("working_directory", .str "web"), ("extra_args", .str "")]

theorem assignments_keep_valid_runSample :
    ofRecord lineSample =
        .ok { command := ["npx", "my eslint"], extraArguments := ["--cache"] } ∧
      ∃ now : EngineSettings,
        ({ command := ["npx", "my eslint"], extraArguments := ["--cache"] } :
          EngineSettings).afterAssignments runSample = now ∧
        now = { command := ["npx", "my eslint"], workingDirectory := some (Path.ofString "web") } ∧
        now.command ≠ [] ∧ Outcome now "command" (.tuple []) now := by
  refine ⟨by rfl, _, rfl, by decide +kernel, ?_⟩
  obtain ⟨hcommand, houtcome⟩ := assignments_keep_valid (v := lineSample) (by rfl) runSample
  exact ⟨hcommand, houtcome "command" (.tuple [])⟩

end LayeredLint.EngineSettings
