import LayeredLint.Proofs.SettingsFile.Reading

/-!
# The command of the environment

The environment may override the command of a project. Two runs with different environments are
compared here, through what the section of the settings file offers: a value for each field, and the
names that are no fields.

- `SettingsFile.lastGiven?`: the value for a name, where the last key that comes to it decides.
- `SettingsFile.unknownNames`: the names that are no fields.
- `SettingsFile.settingsOf_congr`: settings are made of these.
- `SettingsFile.ReplacesCommand`: a section with another command, and all else as it was.
- `SettingsFile.BesideCommand`: two answers that say the same about everything but the command.
- `SettingsFile.DecidedBy`: what an answer says about a field comes from one value.
- `SettingsFile.environment_overrides_command_only`: **the environment overrides the command and
  nothing else**, and for each field the last key decides.
-/

namespace LayeredLint.SettingsFile

open EngineSettings

/-! ## What a section offers -/

/-- The name that a key comes to. -/
def normalName (key : Value) : String :=
  String.ofList ((key.text?.getD key.shown).toList.map fun c => if c = '-' then '_' else c)

theorem normalKey_eq (key : Value) : normalKey key = .str (normalName key) :=
  rfl

/-- The value that a section gives for a name: of the entries whose keys come to it, the last one
decides. -/
def lastGiven? (name : String) (t : List (Value × Value)) : Option Value :=
  (t.reverse.find? fun e => normalName e.1 = name).map Prod.snd

/-- The names that are no fields, in the order in which they come up. -/
def unknownNames (t : List (Value × Value)) : List String :=
  (firstKeys (t.map fun e => normalName e.1)).filter fun name => (Field.ofName? name).isNone

theorem find?_map_normalKey (name : String) (t : List (Value × Value)) :
    Entries.find? (.str name) (t.map fun e => (normalKey e.1, e.2)) =
      (t.find? fun e => normalName e.1 = name).map Prod.snd := by
  induction t with
  | nil => rfl
  | cons e rest ih =>
    rw [List.map_cons, Entries.find?, normalKey_eq, Value.same_str, ih]
    by_cases h : normalName e.1 = name
    · rw [if_pos (by simp [h]), List.find?_cons_of_pos (by simpa using h)]
      rfl
    · rw [if_neg (by simpa using Ne.symm h), List.find?_cons_of_neg (by simpa using h)]

/-- Under a normal key stands what the section gives for its name. -/
theorem find?_normalKeys (name : String) (t : List (Value × Value)) :
    Entries.find? (.str name) (normalKeys t) = lastGiven? name t := by
  rw [normalKeys, Entries.ofList, Entries.find?_union_reverse, ← List.map_reverse,
    find?_map_normalKey, Entries.find?, Option.or_none, lastGiven?]

theorem keys_normalKeys (t : List (Value × Value)) :
    Entries.keys (normalKeys t) = (firstKeys (t.map fun e => normalName e.1)).map Value.str := by
  have hsame : ∀ a b : String, same (Value.str a) (Value.str b) = same a b := fun a b => by
    rw [Value.same_str]
    rfl
  rw [← firstKeys_map hsame, List.map_map]
  refine (Entries.keys_union List.Pairwise.nil _).trans (congrArg firstKeys ?_)
  show List.map Prod.fst (t.map fun e => (normalKey e.1, e.2)) = _
  rw [List.map_map]
  rfl

/-- The keys that are left over are the names that are no fields. -/
theorem unknownIssues_normalKeys (t : List (Value × Value)) :
    unknownIssues (normalKeys t) =
      (unknownNames t).map fun name => ⟨[.field name], .extraForbidden⟩ := by
  have hunknown : ∀ name : String,
      (!(Field.all.map fun f => Record.FieldName.plain f.name).any fun n =>
        (Value.str name).text? = some n.toolName || (Value.str name).text? = some n.codeName) =
      (Field.ofName? name).isNone := by
    intro name
    rw [Field.ofName?, ← Option.not_isSome, List.isSome_find?, List.any_map]
    refine congrArg (!Field.all.any ·) (funext fun f => ?_)
    simp [Record.FieldName.plain, Value.text?, eq_comm]
  show ((Entries.keys (normalKeys t)).filter _).map _ = _
  rw [keys_normalKeys, List.filter_map, List.map_map, unknownNames]
  exact congrArg (List.map _) (List.filter_congr fun name _ => hunknown name)

/-! ## Settings of a section -/

theorem settingsOf_eq_overridden (env : Table String String) (t : List (Value × Value)) :
    settingsOf env t = settingsOf .empty (overridden (override? env) t) :=
  rfl

/-- **Settings are made of what a section offers**: a value for each field, and the names that are no
fields. -/
theorem settingsOf_congr {t t' : List (Value × Value)}
    (fields : ∀ f : Field, lastGiven? f.name t = lastGiven? f.name t')
    (unknown : unknownNames t = unknownNames t') : settingsOf .empty t = settingsOf .empty t' := by
  have hentries : ofEntries (normalKeys t) = ofEntries (normalKeys t') := by
    refine ofEntries_congr (fun f => ?_) ?_
    · rw [find?_normalKeys, find?_normalKeys, fields f]
    · rw [unknownIssues_normalKeys, unknownIssues_normalKeys, unknown]
  show (ofEntries (normalKeys t)).mapError _ = (ofEntries (normalKeys t')).mapError _
  rw [hentries]

/-! ### What an answer says -/

/-- What is wrong with settings according to an answer. -/
def issuesOf : Except Failure EngineSettings → List Issue
  | .error (.configuration cause) => cause.issues?.getD []
  | _ => []

/-- Whether an issue is about a field. -/
def isAbout (f : Field) (issue : Issue) : Bool :=
  issue.place.head? = some (.field f.name)

/-- What is wrong is what is wrong with each field, in order, and then the names that are none. -/
theorem issuesOf_settingsOf (t : List (Value × Value)) :
    issuesOf (settingsOf .empty t) =
      (Field.all.flatMap fun f => givenIssues f (lastGiven? f.name t)) ++
        (unknownNames t).map fun name => ⟨[.field name], .extraForbidden⟩ := by
  have hissues : issuesOf (settingsOf .empty t) = (ofEntries (normalKeys t)).issues := by
    show issuesOf ((ofEntries (normalKeys t)).mapError _) = _
    cases ofEntries (normalKeys t) <;> rfl
  rw [hissues, issues_ofEntries, unknownIssues_normalKeys]
  simp only [find?_normalKeys]

/-- What is wrong with a value for a field is about that field. -/
theorem isAbout_of_mem_givenIssues {f : Field} {given : Option Value} {issue : Issue}
    (mem : issue ∈ givenIssues f given) (g : Field) : isAbout g issue = decide (f = g) := by
  have hplace : issue.place.head? = some (.field f.name) := by
    cases given with
    | none => cases mem
    | some v => exact place_of_mem_fieldIssues mem
  unfold isAbout
  rw [hplace]
  refine decide_eq_decide.2 ⟨fun h => ?_, fun h => by rw [h]⟩
  exact Field.name_injective (Step.field.inj (Option.some.inj h))

/-- A name that is no field is about none. -/
theorem isAbout_of_unknown {t : List (Value × Value)} {name : String} (mem : name ∈ unknownNames t)
    (f : Field) : isAbout f ⟨[.field name], .extraForbidden⟩ = false := by
  have hnone := (List.mem_filter.1 mem).2
  refine decide_eq_false fun h => ?_
  rw [Step.field.inj (Option.some.inj h), Field.ofName?_name] at hnone
  cases hnone

/-- The issues about a field are those of the value for it. -/
theorem filter_isAbout_issuesOf (t : List (Value × Value)) (f : Field) :
    (issuesOf (settingsOf .empty t)).filter (isAbout f) =
      givenIssues f (lastGiven? f.name t) := by
  have hfield : ∀ g : Field, (givenIssues g (lastGiven? g.name t)).filter (isAbout f) =
      if g = f then givenIssues f (lastGiven? f.name t) else [] := by
    intro g
    by_cases hg : g = f
    · subst hg
      rw [if_pos rfl, List.filter_eq_self]
      intro issue mem
      rw [isAbout_of_mem_givenIssues mem, decide_eq_true rfl]
    · rw [if_neg hg, List.filter_eq_nil_iff]
      intro issue mem
      rw [isAbout_of_mem_givenIssues mem, decide_eq_true_eq]
      exact hg
  have hunknown : ((unknownNames t).map fun name =>
      (⟨[.field name], .extraForbidden⟩ : Issue)).filter (isAbout f) = [] := by
    rw [List.filter_eq_nil_iff]
    intro issue mem
    obtain ⟨name, hname, rfl⟩ := List.mem_map.1 mem
    rw [isAbout_of_unknown hname]
    exact Bool.false_ne_true
  rw [issuesOf_settingsOf, List.filter_append, hunknown, List.append_nil, List.filter_flatMap]
  simp only [hfield]
  cases f <;> simp [Field.all]

/-- What an answer says about a field comes from one value for it: success takes the value as an
assignment does, and the issues about the field are those of the value. Without a value the field has
its default. -/
def DecidedBy (answer : Except Failure EngineSettings) (f : Field) : Option Value → Prop
  | some v => (∀ s, answer = .ok s → ∃ u, Sets {} f v u ∧ SameAt s u f) ∧
      (issuesOf answer).filter (isAbout f) = fieldIssues f v
  | none => (∀ s, answer = .ok s → SameAt s {} f) ∧ (issuesOf answer).filter (isAbout f) = []

/-- **For each field the last key decides.** -/
theorem decidedBy_lastGiven? (t : List (Value × Value)) (f : Field) :
    DecidedBy (settingsOf .empty t) f (lastGiven? f.name t) := by
  have hissues := filter_isAbout_issuesOf t f
  have hfields : ∀ s, settingsOf .empty t = .ok s →
      (∀ v, lastGiven? f.name t = some v → ∃ u, Sets {} f v u ∧ SameAt s u f) ∧
        (lastGiven? f.name t = none → SameAt s {} f) := by
    intro s hs
    rw [← find?_normalKeys]
    exact sets_of_ofEntries (mapError_eq_ok.1 hs) f
  cases hgiven : lastGiven? f.name t with
  | none =>
    rw [hgiven] at hissues hfields
    exact ⟨fun s hs => (hfields s hs).2 rfl, hissues⟩
  | some v =>
    rw [hgiven] at hissues hfields
    exact ⟨fun s hs => (hfields s hs).1 v rfl, hissues⟩

/-! ## Another command -/

/-- The entries of a section that are not the command. -/
def otherEntries (t : List (Value × Value)) : List (Value × Value) :=
  t.filter fun e => e.1.text? ≠ some Field.command.name

/-- A section with another command, and all else as it was. -/
structure ReplacesCommand (text : String) (t t' : List (Value × Value)) : Prop where
  command : Entries.find? (.str Field.command.name) t' = some (.str text)
  others : otherEntries t' = otherEntries t

theorem normalName_of_text? {key : Value} {s : String} (h : key.text? = some s) :
    normalName key = normalName (.str s) := by
  rw [normalName, h]
  rfl

/-- Only the name of the command comes to it: it has no underscore. -/
theorem normalName_str_eq_command_iff {s : String} :
    normalName (.str s) = Field.command.name ↔ s = Field.command.name := by
  constructor
  · intro h
    have hchars : s.toList.map (fun c => if c = '-' then '_' else c) = Field.command.name.toList := by
      rw [← h]
      exact (String.toList_ofList).symm
    have hkept : ∀ c ∈ s.toList, (if c = '-' then '_' else c) = c := by
      intro c hc
      by_cases hyphen : c = '-'
      · have hmem := List.mem_map_of_mem (f := fun c => if c = '-' then '_' else c) hc
        rw [hchars, if_pos hyphen] at hmem
        exact absurd hmem (by decide)
      · rw [if_neg hyphen]
    rw [List.map_congr_left hkept, List.map_id'] at hchars
    exact String.toList_inj.1 hchars
  · rintro rfl
    decide

theorem normalName_of_command {e : Value × Value} (h : e.1.text? = some Field.command.name) :
    normalName e.1 = Field.command.name :=
  (normalName_of_text? h).trans (normalName_str_eq_command_iff.2 rfl)

/-- The command has no part in what is given for other names. -/
theorem lastGiven?_otherEntries (t : List (Value × Value)) {name : String}
    (h : name ≠ Field.command.name) : lastGiven? name (otherEntries t) = lastGiven? name t := by
  rw [lastGiven?, lastGiven?, otherEntries, ← List.filter_reverse, List.find?_filter]
  refine congrArg (Option.map Prod.snd) (congrArg (List.find? · _) (funext fun e => ?_))
  by_cases hcommand : e.1.text? = some Field.command.name
  · have hname : normalName e.1 ≠ name := fun heq => h (heq ▸ normalName_of_command hcommand)
    simp [hname]
  · simp [hcommand]

theorem unknownNames_otherEntries (t : List (Value × Value)) :
    unknownNames (otherEntries t) = unknownNames t := by
  have hsame : ∀ {a b : String}, same a b = true →
      (Field.ofName? a).isNone = (Field.ofName? b).isNone := fun h => by rw [eq_of_beq h]
  rw [unknownNames, unknownNames, filter_firstKeys hsame, filter_firstKeys hsame, List.filter_map,
    List.filter_map, otherEntries, List.filter_filter]
  refine congrArg firstKeys (congrArg (List.map _) (List.filter_congr fun e _ => ?_))
  by_cases hcommand : e.1.text? = some Field.command.name
  · have hfield : (Field.ofName? (normalName e.1)).isNone = false := by
      rw [normalName_of_command hcommand, Field.ofName?_name]
      rfl
    simp [hfield]
  · simp [hcommand]

/-- The command of a section is the one entry under its name. -/
theorem lastGiven?_command {t : List (Value × Value)} (ht : (Value.dict t).Named) :
    lastGiven? Field.command.name t = Entries.find? (.str Field.command.name) t := by
  obtain ⟨⟨hkeys, hdistinct⟩, -⟩ := Value.named_dict.1 ht
  rw [← Entries.find?_reverse hdistinct, lastGiven?]
  have hreverse : ∀ e ∈ t.reverse, ∃ s, e.1 = .str s := fun e he =>
    hkeys e (List.mem_reverse.1 he)
  generalize t.reverse = entries at hreverse
  induction entries with
  | nil => rfl
  | cons e rest ih =>
    obtain ⟨⟨s, hs⟩, hrest⟩ := List.forall_mem_cons.1 hreverse
    rw [Entries.find?, hs, Value.same_str]
    by_cases hname : s = Field.command.name
    · have hnormal : normalName e.1 = Field.command.name := by
        rw [hs]
        exact normalName_str_eq_command_iff.2 hname
      rw [if_pos (by simp [hname]), List.find?_cons_of_pos (by simpa using hnormal)]
      rfl
    · have hnormal : normalName e.1 ≠ Field.command.name := by
        rw [hs]
        exact fun h => hname (normalName_str_eq_command_iff.1 h)
      rw [if_neg (by simpa using Ne.symm hname), List.find?_cons_of_neg (by simpa using hnormal),
        ih hrest]

/-- The command of the environment takes the place of the one in the section. -/
theorem replacesCommand_overridden {t : List (Value × Value)} (ht : (Value.dict t).Named)
    (text : String) : ReplacesCommand text t (overridden (some text) t) := by
  refine ⟨Entries.find?_insert_self _ _ _, ?_⟩
  have hkeys := (Value.named_dict.1 ht).1.1
  clear ht
  induction t with
  | nil => rfl
  | cons e rest ih =>
    obtain ⟨⟨s, hs⟩, hrest⟩ := List.forall_mem_cons.1 hkeys
    obtain ⟨k, v⟩ := e
    obtain rfl : k = .str s := hs
    show otherEntries (Entries.insert _ _ _) = _
    rw [Entries.insert, Value.same_str]
    by_cases hname : s = Field.command.name
    · rw [if_pos (by simp [hname, Field.name]), otherEntries, otherEntries,
        List.filter_cons_of_neg (by simp [Value.text?, hname]),
        List.filter_cons_of_neg (by simp [Value.text?, hname])]
    · rw [if_neg (by simpa [Field.name] using Ne.symm hname), otherEntries, otherEntries,
        List.filter_cons_of_pos (by simp [Value.text?, hname]),
        List.filter_cons_of_pos (by simp [Value.text?, hname])]
      exact congrArg _ (ih hrest)

theorem named_overridden {t : List (Value × Value)} (ht : (Value.dict t).Named) :
    ∀ command? : Option String, (Value.dict (overridden command? t)).Named
  | none => ht
  | some text => ht.insert "command" (.of_leaf (v := .str text) rfl trivial)

section OtherEntries

variable {t t' : List (Value × Value)}

theorem lastGiven?_of_others (h : otherEntries t = otherEntries t') {f : Field}
    (hf : f ≠ .command) : lastGiven? f.name t = lastGiven? f.name t' := by
  have hname : f.name ≠ Field.command.name := fun heq => hf (Field.name_injective heq)
  rw [← lastGiven?_otherEntries t hname, h, lastGiven?_otherEntries t' hname]

theorem unknownNames_of_others (h : otherEntries t = otherEntries t') :
    unknownNames t = unknownNames t' := by
  rw [← unknownNames_otherEntries t, h, unknownNames_otherEntries t']

/-- Sections with the same command and the same other entries make the same settings. -/
theorem settingsOf_of_others (ht : (Value.dict t).Named) (ht' : (Value.dict t').Named)
    (hcommand : Entries.find? (.str Field.command.name) t =
      Entries.find? (.str Field.command.name) t')
    (hothers : otherEntries t = otherEntries t') : settingsOf .empty t = settingsOf .empty t' := by
  refine settingsOf_congr (fun f => ?_) (unknownNames_of_others hothers)
  by_cases hf : f = .command
  · rw [hf, lastGiven?_command ht, lastGiven?_command ht', hcommand]
  · exact lastGiven?_of_others hothers hf

/-- Two answers that say the same about everything but the command: the same issues in the same
order, and the same in every other field. -/
def BesideCommand (x y : Except Failure EngineSettings) : Prop :=
  (issuesOf x).filter (!isAbout .command ·) = (issuesOf y).filter (!isAbout .command ·) ∧
    ∀ s u, x = .ok s → y = .ok u → ∀ f : Field, f ≠ .command → SameAt s u f

theorem SameAt.of_common {s u r : EngineSettings} {f : Field} (hs : SameAt s r f)
    (hu : SameAt u r f) : SameAt s u f := by
  cases f with
  | command => exact Eq.trans hs (Eq.symm hu)
  | workingDirectory => exact Eq.trans hs (Eq.symm hu)
  | extraArguments => exact Eq.trans hs (Eq.symm hu)

/-- **The command decides nothing else.** -/
theorem besideCommand_of_others (h : otherEntries t = otherEntries t') :
    BesideCommand (settingsOf .empty t) (settingsOf .empty t') := by
  constructor
  · have hfield : ∀ f : Field,
        (givenIssues f (lastGiven? f.name t)).filter (!isAbout .command ·) =
          (givenIssues f (lastGiven? f.name t')).filter (!isAbout .command ·) := by
      intro f
      by_cases hf : f = .command
      · subst hf
        have hnone : ∀ given, (givenIssues .command given).filter (!isAbout .command ·) = [] := by
          intro given
          rw [List.filter_eq_nil_iff]
          intro issue mem
          rw [isAbout_of_mem_givenIssues mem]
          simp
        rw [hnone, hnone]
      · rw [lastGiven?_of_others h hf]
    rw [issuesOf_settingsOf, issuesOf_settingsOf, List.filter_append, List.filter_append,
      List.filter_flatMap, List.filter_flatMap, unknownNames_of_others h]
    simp only [hfield]
  · intro s u hs hu f hf
    have hdecided := decidedBy_lastGiven? t f
    have hdecided' := decidedBy_lastGiven? t' f
    rw [← lastGiven?_of_others h hf] at hdecided'
    cases hgiven : lastGiven? f.name t with
    | none =>
      rw [hgiven] at hdecided hdecided'
      exact SameAt.of_common (hdecided.1 s hs) (hdecided'.1 u hu)
    | some v =>
      rw [hgiven] at hdecided hdecided'
      obtain ⟨r, hsets, hr⟩ := hdecided.1 s hs
      obtain ⟨r', hsets', hr'⟩ := hdecided'.1 u hu
      -- an assignment to the defaults has one outcome
      have hset := set_eq_ok_iff.2 hsets
      rw [set_eq_ok_iff.2 hsets'] at hset
      obtain rfl : r' = r := Except.ok.inj hset
      exact SameAt.of_common hr hr'

end OtherEntries

/-! ## Environments -/

section Environments

variable {env : Table String String}

theorem override?_of_some {raw : String} (h : env.find? commandVariable = some raw)
    (hne : Text.stripText raw ≠ "") : override? env = some (Text.stripText raw) := by
  rw [override?, h]
  simp [hne]

theorem override?_of_blank
    (h : ∀ raw, env.find? commandVariable = some raw → Text.stripText raw = "") :
    override? env = none := by
  unfold override?
  cases hraw : env.find? commandVariable with
  | none => rfl
  | some raw => simp [h raw hraw]

variable {w : Workspace} {root : Path} {t : List (Value × Value)}

theorem loadSettings_eq (hsection : readSection w root = .ok t) (env : Table String String) :
    loadSettings w root env = settingsOf .empty (overridden (override? env) t) := by
  rw [loadSettings, hsection]
  exact settingsOf_eq_overridden env t

theorem otherEntries_overridden (ht : (Value.dict t).Named) :
    ∀ command? : Option String, otherEntries (overridden command? t) = otherEntries t
  | none => rfl
  | some text => (replacesCommand_overridden ht text).others

/-- On success a command that is given as a text is the words of that text, of which there is at
least one. -/
theorem words_of_settingsOf {text : String} (ht : (Value.dict t).Named)
    (hcommand : Entries.find? (.str Field.command.name) t = some (.str text)) {s : EngineSettings}
    (hs : settingsOf .empty t = .ok s) : Text.words text = .ok s.command ∧ s.command ≠ [] := by
  have hdecided := decidedBy_lastGiven? t .command
  rw [lastGiven?_command ht, hcommand] at hdecided
  obtain ⟨u, hsets, hsame⟩ := hdecided.1 s hs
  have hsame' : s.command = u.command := hsame
  cases hsets with
  | command given nonempty =>
    rw [hsame']
    exact ⟨(wordsOf_iff_of_text rfl).1 given, nonempty⟩

end Environments

/-- **The environment overrides the command and nothing else.** With an override the answer is the
one for any section with the override as its command, all else being as it was, in an environment
without one; on success the command is the words of the override. An override that is absent or blank
has no effect. Whatever two environments hold, the answers say the same about everything but the
command. And what an answer says about a field is decided by the last of the keys that come to it,
hyphens counting as underscores. -/
theorem environment_overrides_command_only {w : Workspace} {root : Path}
    {t : List (Value × Value)} (hsection : readSection w root = .ok t)
    (env : Table String String) :
    (∀ raw, env.find? commandVariable = some raw → Text.stripText raw ≠ "" →
      loadSettings w root env =
        settingsOf .empty (Entries.insert (.str "command") (.str (Text.stripText raw)) t) ∧
      (∀ w' root' t', readSection w' root' = .ok t' → ReplacesCommand (Text.stripText raw) t t' →
        loadSettings w root env = loadSettings w' root' .empty) ∧
      ∀ s, loadSettings w root env = .ok s →
        Text.words (Text.stripText raw) = .ok s.command ∧ s.command ≠ []) ∧
    ((∀ raw, env.find? commandVariable = some raw → Text.stripText raw = "") →
      loadSettings w root env = loadSettings w root .empty) ∧
    (∀ env', BesideCommand (loadSettings w root env) (loadSettings w root env')) ∧
    ∀ f : Field, f ≠ .command ∨ override? env = none →
      DecidedBy (loadSettings w root env) f (lastGiven? f.name t) := by
  have ht : (Value.dict t).Named := named_of_readSection hsection
  refine ⟨fun raw hraw hne => ?_, fun hblank => ?_, fun env' => ?_, fun f hf => ?_⟩
  · have hload := loadSettings_eq hsection env
    rw [override?_of_some hraw hne] at hload
    have hnamed := named_overridden ht (some (Text.stripText raw))
    have hreplaces := replacesCommand_overridden ht (Text.stripText raw)
    refine ⟨hload, fun w' root' t' hsection' hreplaces' => ?_, fun s hs => ?_⟩
    · rw [hload, loadSettings_eq hsection' .empty]
      exact settingsOf_of_others hnamed (named_of_readSection hsection')
        (hreplaces.command.trans hreplaces'.command.symm)
        (hreplaces.others.trans hreplaces'.others.symm)
    · exact words_of_settingsOf hnamed hreplaces.command (hload.symm.trans hs)
  · rw [loadSettings_eq hsection env, loadSettings_eq hsection .empty, override?_of_blank hblank]
    rfl
  · rw [loadSettings_eq hsection env, loadSettings_eq hsection env']
    refine besideCommand_of_others ?_
    rw [otherEntries_overridden ht, otherEntries_overridden ht]
  · rw [loadSettings_eq hsection env]
    have hgiven : lastGiven? f.name (overridden (override? env) t) = lastGiven? f.name t := by
      rcases hf with hf | hnone
      · exact lastGiven?_of_others (otherEntries_overridden ht _) hf
      · rw [hnone]
        rfl
    rw [← hgiven]
    exact decidedBy_lastGiven? _ f

/-! ### A command that is overridden, and two keys for one field -/

/-- A section whose command is left open, and that gives the directory twice. -/
def openCommandText : String :=
  "[tool.lintpresets]\ncommand = \"npx 'eslint\"\nworking_directory = \"web\"\n" ++
    "working-directory = \"app\"\n"

def openCommandProject : Workspace where
  root := .ofString "/work"
  files := [(.ofString "/work/pyproject.toml", Utf8.encode openCommandText.toList)]

/-- The command of the environment, between blanks that are none for a shell. -/
def overridingEnv : Table String String :=
  .ofList [(commandVariable, "\u2003npx 'my eslint'\x1c")]

theorem loadSettings_openCommandProject :
    (loadSettings openCommandProject openCommandProject.root overridingEnv).toOption =
        some { command := ["npx", "my eslint"], workingDirectory := some (.ofString "app") } ∧
      (loadSettings openCommandProject openCommandProject.root .empty).toOption = none := by
  decide +kernel

/-- The override masks the command that is left open, and the later key decides on the directory. -/
theorem environment_overrides_command_only_masking :
    ∃ t s, readSection openCommandProject openCommandProject.root = .ok t ∧
      Text.stripText "\u2003npx 'my eslint'\x1c" = "npx 'my eslint'" ∧
      loadSettings openCommandProject openCommandProject.root overridingEnv = .ok s ∧
      loadSettings openCommandProject openCommandProject.root overridingEnv =
        settingsOf .empty (Entries.insert (.str "command") (.str "npx 'my eslint'") t) ∧
      Text.words "npx 'my eslint'" = .ok s.command ∧ s.command = ["npx", "my eslint"] ∧
      s.workingDirectory = some (Path.ofString "app") ∧
      (loadSettings openCommandProject openCommandProject.root .empty).toOption = none ∧
      BesideCommand (loadSettings openCommandProject openCommandProject.root overridingEnv)
        (loadSettings openCommandProject openCommandProject.root .empty) ∧
      DecidedBy (loadSettings openCommandProject openCommandProject.root overridingEnv)
        .workingDirectory (lastGiven? "working_directory" t) := by
  obtain ⟨hsome, hnone⟩ := loadSettings_openCommandProject
  have hstrip : Text.stripText "\u2003npx 'my eslint'\x1c" = "npx 'my eslint'" := by decide +kernel
  have hraw : overridingEnv.find? commandVariable = some "\u2003npx 'my eslint'\x1c" := by
    decide +kernel
  obtain ⟨s, hload, rfl⟩ : ∃ s, loadSettings openCommandProject openCommandProject.root
      overridingEnv = .ok s ∧
        s = { command := ["npx", "my eslint"], workingDirectory := some (.ofString "app") } := by
    generalize loadSettings openCommandProject openCommandProject.root overridingEnv = answer at hsome
    cases answer with
    | error failure => cases hsome
    | ok s => exact ⟨s, rfl, Option.some.inj hsome⟩
  obtain ⟨t, hsection, -⟩ := bind_eq_ok.1 hload
  obtain ⟨hoverride, -, hbeside, hdecided⟩ :=
    environment_overrides_command_only hsection overridingEnv
  obtain ⟨hreplaced, -, hwords⟩ := hoverride _ hraw (by rw [hstrip]; decide)
  rw [hstrip] at hreplaced hwords
  exact ⟨t, _, hsection, hstrip, hload, hreplaced, (hwords _ hload).1, rfl, rfl, hnone,
    hbeside .empty, hdecided .workingDirectory (.inl (by decide))⟩

end LayeredLint.SettingsFile
