import LayeredLint.EngineSettings
import LayeredLint.Proofs.Record.Checked
import LayeredLint.Proofs.Text.Words

/-!
# Fields of engine settings

What may be given for the fields, and what is made of it.

- `WordsOf`, `NoWordsOf`: the words that a value stands for, and why it stands for none.
- `wordsOf_or_noWordsOf`, `wordsOf_nil_iff`: one of the two, and where there are no words in it.
- `wordsOfValue_eq_ok_iff`, `commandOfValue_eq_ok_iff`, `directoryOfValue_eq_ok_iff`: the
  conversions, one by one.
- `ofEntries_eq_ok_iff`: settings are read when every field is, and no key is left over.
- `ofEntries_congr`, `issues_ofEntries`: what settings are made of, and what is wrong with them.
-/

namespace LayeredLint.EngineSettings

open Record

/-! ## Words -/

/-- The words that a value stands for: those of a text, or the texts in a sequence. -/
inductive WordsOf (v : Value) : List String → Prop
  | line {line : String} {words : List String} (given : v.text? = some line)
    (split : Text.words line = .ok words) : WordsOf v words
  | items {items : List Value} {words : List String} (given : sequence? v = some items)
    (texts : List.Forall₂ (fun item word => textOrBytes? item = some (some word)) items words) :
    WordsOf v words

/-- Why a value stands for no words: it is a text with quotes or a backslash at its end that are
left open, or neither a text nor a sequence of texts. -/
inductive NoWordsOf (v : Value) : Prop
  | unclosed {line : String} (given : v.text? = some line)
    (openEnd : Text.WordState.plain.after line.toList ≠ .plain)
  | otherKind (notText : v.text? = none) (notSequence : sequence? v = none)
  | otherItem {items : List Value} {item : Value} (given : sequence? v = some items)
    (mem : item ∈ items) (notText : ∀ word, textOrBytes? item ≠ some (some word))

theorem text?_eq_none_of_sequence {v : Value} {items : List Value} (h : sequence? v = some items) :
    v.text? = none := by
  cases v with
  | list items => rfl
  | tuple items => rfl
  | _ => cases h

theorem wordsOf_iff_of_text {v : Value} {line : String} {words : List String}
    (h : v.text? = some line) : WordsOf v words ↔ Text.words line = .ok words := by
  constructor
  · intro hwords
    cases hwords with
    | line given split =>
      rw [h] at given
      cases given
      exact split
    | items given _ =>
      rw [text?_eq_none_of_sequence given] at h
      cases h
  · exact .line h

theorem wordsOf_iff_of_no_text {v : Value} {words : List String} (h : v.text? = none) :
    WordsOf v words ↔ ∃ items, sequence? v = some items ∧
      List.Forall₂ (fun item word => textOrBytes? item = some (some word)) items words := by
  constructor
  · intro hwords
    cases hwords with
    | line given _ =>
      rw [h] at given
      cases given
    | items given texts => exact ⟨_, given, texts⟩
  · rintro ⟨items, given, texts⟩
    exact .items given texts

/-- A value stands for words or for none. -/
theorem wordsOf_or_noWordsOf (v : Value) : (∃ words, WordsOf v words) ∨ NoWordsOf v := by
  cases hsequence : sequence? v with
  | some items =>
    by_cases hitems : ∀ item ∈ items, ∃ word, textOrBytes? item = some (some word)
    · obtain ⟨words, texts⟩ := exists_forall₂_iff.2 hitems
      exact .inl ⟨words, .items hsequence texts⟩
    · push Not at hitems
      obtain ⟨item, mem, notText⟩ := hitems
      exact .inr (.otherItem hsequence mem notText)
  | none =>
    cases htext : v.text? with
    | none => exact .inr (.otherKind htext hsequence)
    | some line =>
      cases hsplit : Text.words line with
      | ok words => exact .inl ⟨words, .line htext hsplit⟩
      | error e =>
        refine .inr (.unclosed htext fun hend => ?_)
        have herror := Text.words_eq_error_iff.1 hsplit
        rw [hend] at herror
        cases herror

theorem NoWordsOf.not_wordsOf {v : Value} (h : NoWordsOf v) {words : List String} :
    ¬WordsOf v words := by
  intro hwords
  cases h with
  | unclosed given openEnd =>
    exact openEnd (Text.after_of_words ((wordsOf_iff_of_text given).1 hwords))
  | otherKind notText notSequence =>
    obtain ⟨items, given, -⟩ := (wordsOf_iff_of_no_text notText).1 hwords
    rw [notSequence] at given
    cases given
  | otherItem given mem notText =>
    obtain ⟨items, given', texts⟩ :=
      (wordsOf_iff_of_no_text (text?_eq_none_of_sequence given)).1 hwords
    rw [given] at given'
    cases given'
    obtain ⟨word, hword⟩ := exists_forall₂_iff.1 ⟨_, texts⟩ _ mem
    exact notText word hword

/-- No words are in blank texts and in empty sequences. -/
theorem wordsOf_nil_iff {v : Value} :
    WordsOf v [] ↔ (∃ line, v.text? = some line ∧ ∀ c ∈ line.toList, Text.isSeparator c = true) ∨
      sequence? v = some [] := by
  constructor
  · intro h
    cases h with
    | line given split => exact .inl ⟨_, given, Text.words_eq_nil_iff.1 split⟩
    | items given texts =>
      cases texts
      exact .inr given
  · rintro (⟨line, given, blank⟩ | given)
    · exact .line given (Text.words_eq_nil_iff.2 blank)
    · exact .items given .nil

theorem wordsOfValue_eq_ok_iff {v : Value} {words : List String} :
    wordsOfValue v = .ok words ↔ WordsOf v words := by
  unfold wordsOfValue
  cases htext : v.text? with
  | some line =>
    rw [wordsOf_iff_of_text htext]
    cases hsplit : Text.words line with
    | ok found => simp only [hsplit, Except.ok.injEq]
    | error e => simp only [hsplit, issue, reduceCtorEq]
  | none =>
    rw [wordsOf_iff_of_no_text htext, textsOfValue, itemsOfValue_eq_ok_iff]
    simp only [textOfValue_eq_ok_iff]

theorem unique_wordsOf {v : Value} {words words' : List String} (h : WordsOf v words)
    (h' : WordsOf v words') : words = words' := by
  have both := wordsOfValue_eq_ok_iff.2 h
  rw [wordsOfValue_eq_ok_iff.2 h'] at both
  exact (Except.ok.inj both).symm

/-! ## Conversions -/

theorem commandOfValue_eq_ok_iff {v : Value} {words : List String} :
    commandOfValue v = .ok words ↔ WordsOf v words ∧ words ≠ [] := by
  unfold commandOfValue
  rw [bind_eq_ok]
  constructor
  · rintro ⟨found, hfound, h⟩
    cases found with
    | nil => cases h
    | cons word rest =>
      cases h
      exact ⟨wordsOfValue_eq_ok_iff.1 hfound, by simp⟩
  · rintro ⟨given, nonempty⟩
    refine ⟨words, wordsOfValue_eq_ok_iff.2 given, ?_⟩
    cases words with
    | nil => exact absurd rfl nonempty
    | cons word rest => rfl

theorem directoryOfValue_eq_ok_iff {v : Value} {d : Option Path} :
    directoryOfValue v = .ok d ↔
      (v = .null ∧ d = none) ∨ ∃ p, v.text? = some p ∧ d = some (Path.ofString p) := by
  unfold directoryOfValue Record.optional pathOfValue
  split
  · simp [Value.text?, eq_comm]
  · next notNull =>
    rw [map_eq_ok, or_iff_right fun h => notNull h.1]
    cases htext : v.text? with
    | some p => simp [eq_comm]
    | none => simp [issue]

theorem explained_wordsOfValue (v : Value) : (wordsOfValue v).Explained := by
  unfold wordsOfValue
  split
  · split
    · exact Checked.explained_ok
    · exact Checked.explained_issue
  · exact explained_itemsOfValue explained_textOfValue v

theorem explained_commandOfValue (v : Value) : (commandOfValue v).Explained := by
  unfold commandOfValue
  intro h
  cases hwords : wordsOfValue v with
  | error issues =>
    rw [hwords] at h
    exact explained_wordsOfValue v (hwords.trans h)
  | ok words =>
    rw [hwords] at h
    cases words <;> cases h

theorem explained_directoryOfValue (v : Value) : (directoryOfValue v).Explained := by
  unfold directoryOfValue Record.optional pathOfValue
  split
  · exact Checked.explained_ok
  · refine Checked.Explained.map ?_ some
    split
    · exact Checked.explained_ok
    · exact Checked.explained_issue

/-! ## Records -/

/-- Settings are read when every field is, and no key is left over. -/
theorem ofEntries_eq_ok_iff {entries : List (Value × Value)} {s : EngineSettings} :
    ofEntries entries = .ok s ↔
      field entries (.plain Field.command.name) commandOfValue
        ({} : EngineSettings).command = .ok s.command ∧
      field entries (.plain Field.workingDirectory.name) directoryOfValue
        ({} : EngineSettings).workingDirectory = .ok s.workingDirectory ∧
      field entries (.plain Field.extraArguments.name) wordsOfValue
        ({} : EngineSettings).extraArguments = .ok s.extraArguments ∧
      unknownIssues entries = [] := by
  unfold ofEntries
  rw [Checked.alsoRefuse_eq_ok_iff]
  simp only [Checked.apply_eq_ok_iff]
  constructor
  · rintro ⟨⟨_, extra, ⟨_, directory, ⟨_, words, hmk, hcommand, rfl⟩, hdirectory, rfl⟩, hextra, rfl⟩,
      hunknown⟩
    cases hmk
    exact ⟨hcommand, hdirectory, hextra, hunknown⟩
  · rintro ⟨hcommand, hdirectory, hextra, hunknown⟩
    exact ⟨⟨_, _, ⟨_, _, ⟨_, _, rfl, hcommand, rfl⟩, hdirectory, rfl⟩, hextra, rfl⟩, hunknown⟩

/-- Settings are made of what is found under the names of the fields, and of the keys left over. -/
theorem ofEntries_congr {a b : List (Value × Value)}
    (fields : ∀ f : Field, Entries.find? (.str f.name) a = Entries.find? (.str f.name) b)
    (unknown : unknownIssues a = unknownIssues b) : ofEntries a = ofEntries b := by
  have field_eq : ∀ {α : Type} (f : Field) (convert : Value → Checked α) (default : α),
      field a (.plain f.name) convert default = field b (.plain f.name) convert default := by
    intro α f convert default
    rw [field, field, find?_plain, find?_plain, fields f]
  unfold ofEntries
  dsimp only
  rw [field_eq, field_eq, field_eq, unknown]

/-- What is wrong with a value for a field. -/
def fieldIssues (f : Field) (v : Value) : List Issue :=
  (({} : EngineSettings).set f v).issues

/-- What is wrong with the value for a field, if there is one. -/
def givenIssues (f : Field) (given : Option Value) : List Issue :=
  (given.map (fieldIssues f)).getD []

/-- What is wrong with settings is what is wrong with each field, in order, and then the keys that
are left over. -/
theorem issues_ofEntries (entries : List (Value × Value)) :
    (ofEntries entries).issues =
      (Field.all.flatMap fun f => givenIssues f (Entries.find? (.str f.name) entries)) ++
        unknownIssues entries := by
  have field_issues : ∀ {α : Type} (f : Field) (convert : Value → Checked α) (default : α),
      (∀ v, ((convert v).under (.field f.name)).issues = fieldIssues f v) →
        (field entries (.plain f.name) convert default).issues =
          givenIssues f (Entries.find? (.str f.name) entries) := by
    intro α f convert default hconvert
    rw [field, find?_plain]
    cases Entries.find? (Value.str f.name) entries with
    | none => rfl
    | some v => exact hconvert v
  unfold ofEntries
  rw [Checked.issues_alsoRefuse, Checked.issues_apply, Checked.issues_apply, Checked.issues_apply,
    field_issues .command, field_issues .workingDirectory, field_issues .extraArguments]
  · simp only [Field.all, List.flatMap_cons, List.flatMap_nil, List.append_nil, List.append_assoc]
    rfl
  all_goals
    intro v
    rw [fieldIssues, set, Checked.issues_under, Checked.issues_under, Checked.issues_map]

end LayeredLint.EngineSettings
