import LayeredLint.Proofs.EngineSettings.Assignments
import LayeredLint.Proofs.Text.Utf8
import LayeredLint.Proofs.Toml.Refusals
import LayeredLint.SettingsFile

/-!
# Settings files that cannot be read

A settings file that is not as it should be makes a configuration error. Three kinds of content make
something else: bytes that are no text, an integer of too many digits, and a nesting that is too
deep.

- `SettingsFile.Escapes`: content of these three kinds, with the fault it makes.
- `SettingsFile.readSection_meets`: the section has texts as keys, and one entry for each; otherwise
  there is a configuration error, or the content is of such a kind.
- `SettingsFile.settingsOf_meets`: settings have a command, or there is a configuration error.
- `SettingsFile.loadSettings_answered_iff`: **settings with a command or a configuration error come
  of every content but these**. What is wrong with them stands in the bytes.
- `SettingsFile.undecodable_file_escapes`: a file with one byte that is no text.
-/

namespace LayeredLint.SettingsFile

/-! ## What comes of a content -/

/-- The content of a file makes a fault: it is no text, or its text has an integer of too many digits
or is nested too deeply. -/
inductive Escapes (bytes : List UInt8) : Fault → Prop
  | undecodable (noText : ∀ text, Utf8.encode text ≠ bytes) : Escapes bytes .undecodable
  | longInteger {text : List Char} (decoded : Utf8.encode text = bytes)
    (refused : Toml.read text = .error .longInteger) : Escapes bytes .longInteger
  | tooDeep {text : List Char} (decoded : Utf8.encode text = bytes)
    (refused : Toml.read text = .error .tooDeep) : Escapes bytes .tooDeep

/-- A failure with a configuration error. -/
def Configured (failure : Failure) : Prop :=
  ∃ cause, failure = .configuration cause

theorem documentOf_meets (path : String) (bytes : List UInt8) :
    Meets (fun failure => Configured failure ∨ ∃ fault, Escapes bytes fault ∧ failure = .fault fault)
      Toml.NamedEntries (documentOf path bytes) := by
  unfold documentOf
  cases hdecode : Utf8.decode? bytes with
  | none => exact .inr ⟨_, .undecodable (Utf8.decode?_eq_none_iff.1 hdecode), rfl⟩
  | some text =>
    have hencode := Utf8.decode?_eq_some_iff.1 hdecode
    have hread := Toml.read_follows text
    dsimp only
    cases hdocument : Toml.read text with
    | ok entries =>
      rw [hdocument] at hread
      exact hread
    | error fault =>
      cases fault with
      | malformed => exact .inl ⟨_, rfl⟩
      | longInteger => exact .inr ⟨_, .longInteger hencode hdocument, rfl⟩
      | tooDeep => exact .inr ⟨_, .tooDeep hencode hdocument, rfl⟩

/-- The fault is the one that the content makes. -/
theorem documentOf_of_escapes {path : String} {bytes : List UInt8} {fault : Fault}
    (h : Escapes bytes fault) : documentOf path bytes = .error (.fault fault) := by
  cases h with
  | undecodable noText =>
    rw [documentOf, Utf8.decode?_eq_none_iff.2 noText]
    rfl
  | longInteger decoded refused =>
    rw [documentOf, Utf8.decode?_eq_some_iff.2 decoded]
    simp only [refused]
    rfl
  | tooDeep decoded refused =>
    rw [documentOf, Utf8.decode?_eq_some_iff.2 decoded]
    simp only [refused]
    rfl

/-- The section of a document of tables of names is one of them. -/
theorem sectionOf_meets {path : String} {document : List (Value × Value)}
    (h : Toml.NamedEntries document) :
    Meets Configured Toml.NamedEntries (sectionOf path document) := by
  unfold sectionOf
  split
  · next tools htools =>
    have hnamed : Toml.NamedEntries tools := Value.Named.of_find? h htools
    split
    · exact Value.named_dict_nil
    · exact Value.named_dict_nil
    · next entries hentries => exact Value.Named.of_find? hnamed hentries
    · exact ⟨_, rfl⟩
  · exact Value.named_dict_nil

/-- Settings have a command; what keeps them from being read is a configuration error. -/
theorem settingsOf_meets (env : Table String String) (entries : List (Value × Value)) :
    Meets Configured (fun s => s.command ≠ []) (settingsOf env entries) := by
  unfold settingsOf
  cases hsettings : EngineSettings.ofEntries (normalKeys (overridden (override? env) entries)) with
  | error issues => exact ⟨_, rfl⟩
  | ok s =>
    have accepted : EngineSettings.ofRecord
        (.dict (normalKeys (overridden (override? env) entries))) = .ok s :=
      mapError_eq_ok.2 hsettings
    exact EngineSettings.command_of_ofRecord accepted

/-! ## Settings files -/

/-- The settings file of a project, seen from the current directory. -/
def fileOf (root : Path) : Path :=
  root.join (.ofString fileName)

section Files

variable {w : Workspace} {root : Path}

/-- The section has texts as keys, and one entry for each. -/
theorem readSection_meets (w : Workspace) (root : Path) :
    Meets (fun failure => Configured failure ∨ ∃ bytes fault,
        w.readFile? (fileOf root) = some bytes ∧ Escapes bytes fault ∧ failure = .fault fault)
      Toml.NamedEntries (readSection w root) := by
  unfold readSection
  dsimp only
  cases hfile : w.readFile? (root.join (.ofString fileName)) with
  | none => exact Value.named_dict_nil
  | some bytes =>
    have hdocument := documentOf_meets (root.join (.ofString fileName)).toString bytes
    refine (hdocument.imp (fun failure => ?_) fun _ => id).bind fun document hnamed => ?_
    · rintro (hconfigured | ⟨fault, hescapes, rfl⟩)
      · exact .inl hconfigured
      · exact .inr ⟨bytes, fault, hfile, hescapes, rfl⟩
    · exact (sectionOf_meets hnamed).imp (fun _ => .inl) fun _ => id

/-- A section that is read is a table of names. -/
theorem named_of_readSection {t : List (Value × Value)} (h : readSection w root = .ok t) :
    (Value.dict t).Named := by
  have hsection := readSection_meets w root
  rw [h] at hsection
  exact hsection

theorem loadSettings_of_escapes {env : Table String String} {bytes : List UInt8} {fault : Fault}
    (hfile : w.readFile? (fileOf root) = some bytes) (hescapes : Escapes bytes fault) :
    loadSettings w root env = .error (.fault fault) := by
  have hread : readSection w root = .error (.fault fault) := by
    unfold readSection
    dsimp only
    rw [show w.readFile? (root.join (.ofString fileName)) = some bytes from hfile]
    exact bind_eq_error.2 (.inl (documentOf_of_escapes hescapes))
  exact bind_eq_error.2 (.inl hread)

/-- What is wrong with a content that makes a fault stands in it. -/
theorem text_of_escapes {bytes : List UInt8} {fault : Fault} (h : Escapes bytes fault) :
    (∀ text, Utf8.encode text ≠ bytes) ∨ ∃ text, Utf8.encode text = bytes ∧
      (Toml.LongNumber text ∨ Toml.depthLimit < 3 * Json.openings text) := by
  cases h with
  | undecodable noText => exact .inl noText
  | @longInteger text decoded refused =>
    have hread := Toml.read_follows text
    rw [refused] at hread
    exact .inr ⟨_, decoded, .inl hread⟩
  | @tooDeep text decoded refused =>
    have hread := Toml.read_follows text
    rw [refused] at hread
    exact .inr ⟨_, decoded, .inr hread⟩

end Files

/-- **Settings with a command or a configuration error come of every settings file, and of none,
unless its content makes a fault.** Then the bytes are no text, or their text has a number of more
than 4300 digits or opens so many brackets that their nesting may be too deep: an array counts two
and a table in place three, up to 985, which is for one depth of the stack, as `Toml.depthLimit` says.
The fault comes out as it is, whatever the environment. -/
theorem loadSettings_answered_iff (w : Workspace) (root : Path) (env : Table String String) :
    (((∃ settings, loadSettings w root env = .ok settings ∧ settings.command ≠ []) ∨
        ∃ cause, loadSettings w root env = .error (.configuration cause)) ↔
      ∀ bytes fault, w.readFile? (fileOf root) = some bytes → ¬Escapes bytes fault) ∧
    ∀ bytes fault, w.readFile? (fileOf root) = some bytes → Escapes bytes fault →
      loadSettings w root env = .error (.fault fault) ∧
        ((∀ text, Utf8.encode text ≠ bytes) ∨ ∃ text, Utf8.encode text = bytes ∧
          (Toml.LongNumber text ∨ Toml.depthLimit < 3 * Json.openings text)) := by
  refine ⟨⟨?_, fun hnone => ?_⟩, fun bytes fault hfile hescapes => ?_⟩
  · intro hanswered bytes fault hfile hescapes
    rw [loadSettings_of_escapes hfile hescapes] at hanswered
    rcases hanswered with ⟨_, h, -⟩ | ⟨_, h⟩
    · cases h
    · cases h
  · have hsettings : Meets _ (fun s => s.command ≠ []) (loadSettings w root env) :=
      (readSection_meets w root).bind fun t _ =>
        (settingsOf_meets env t).imp (fun _ => .inl) fun _ => id
    cases hload : loadSettings w root env with
    | ok settings =>
      rw [hload] at hsettings
      exact .inl ⟨settings, rfl, hsettings⟩
    | error failure =>
      rw [hload] at hsettings
      rcases hsettings with ⟨cause, rfl⟩ | ⟨bytes, fault, hfile, hescapes, -⟩
      · exact .inr ⟨cause, rfl⟩
      · exact absurd hescapes (hnone bytes fault hfile)
  · exact ⟨loadSettings_of_escapes hfile hescapes, text_of_escapes hescapes⟩

/-! ### A file that is no text -/

/-- A project with a settings file of one byte. -/
def undecodableProject : Workspace where
  root := .ofString "/work"
  files := [(.ofString "/work/pyproject.toml", [0xFF])]

/-- The byte is the one of no text, and neither settings nor a configuration error come of it. -/
theorem undecodable_file_escapes :
    undecodableProject.readFile? (fileOf undecodableProject.root) = some [0xFF] ∧
      loadSettings undecodableProject undecodableProject.root .empty =
        .error (.fault .undecodable) ∧
      ¬((∃ settings, loadSettings undecodableProject undecodableProject.root .empty =
          .ok settings ∧ settings.command ≠ []) ∨
        ∃ cause, loadSettings undecodableProject undecodableProject.root .empty =
          .error (.configuration cause)) := by
  have hfile : undecodableProject.readFile? (fileOf undecodableProject.root) = some [0xFF] := by
    decide +kernel
  have hescapes : Escapes [0xFF] .undecodable :=
    .undecodable (Utf8.decode?_eq_none_iff.1 (by decide))
  have hload : loadSettings undecodableProject undecodableProject.root .empty =
      .error (.fault .undecodable) := loadSettings_of_escapes hfile hescapes
  refine ⟨hfile, hload, ?_⟩
  rw [hload]
  rintro (⟨_, h, -⟩ | ⟨_, h⟩)
  · cases h
  · cases h

end LayeredLint.SettingsFile
