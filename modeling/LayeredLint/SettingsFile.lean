import LayeredLint.EngineSettings
import LayeredLint.Toml.Reader
import LayeredLint.Workspace

/-!
# The settings file

The settings of a project are in a section of its `pyproject.toml`. An environment variable
overrides the command.

- `SettingsFile.sectionOf`: the section of a document.
- `SettingsFile.normalKeys`: hyphens in keys count as underscores, and the last such key decides.
- `SettingsFile.override?`: the command of the environment.
- `loadSettings`: the settings of the project at a root.
-/

namespace LayeredLint

namespace SettingsFile

/-- The file, below the root of a project. -/
def fileName : String := "pyproject.toml"

/-- The variable that overrides the command. -/
def commandVariable : String := "LINTPRESETS_ESLINT"

/-! ## The section -/

/-- The entry of a table under a name. -/
def member? (name : String) (entries : List (Value × Value)) : Option Value :=
  Entries.find? (Value.str name) entries

/-- The section for this library in a document, empty where there is none. A section that is there
has to be a table. -/
def sectionOf (path : String) (document : List (Value × Value)) :
    Except Failure (List (Value × Value)) :=
  match member? "tool" document with
  | some (.dict tools) =>
    match member? "lintpresets" tools with
    | none | some .null => .ok []
    | some (.dict entries) => .ok entries
    | some _ => invalid (.sectionKind path)
  | _ => .ok []

/-- The entries of a document in bytes. -/
def documentOf (path : String) (bytes : List UInt8) : Except Failure (List (Value × Value)) :=
  match Utf8.decode? bytes with
  | none => impossible .undecodable
  | some text =>
    match Toml.read text with
    | .ok entries => .ok entries
    | .error .malformed => invalid (.unreadableDocument path)
    | .error .longInteger => impossible .longInteger
    | .error .tooDeep => impossible .tooDeep

/-- The section of the file of a project; without a file it is empty. -/
def readSection (w : Workspace) (root : Path) : Except Failure (List (Value × Value)) :=
  let file := root.join (.ofString fileName)
  match w.readFile? file with
  | none => .ok []
  | some bytes => do
    let document ← documentOf file.toString bytes
    sectionOf file.toString document

/-! ## Keys and the environment -/

/-- A key with underscores for its hyphens. -/
def normalKey (key : Value) : Value :=
  let text := key.text?.getD key.shown
  .str (String.ofList (text.toList.map fun c => if c = '-' then '_' else c))

/-- The entries under their normal keys. -/
def normalKeys (entries : List (Value × Value)) : List (Value × Value) :=
  Entries.ofList (entries.map fun e => (normalKey e.1, e.2))

/-- The command of the environment, none where it is absent or blank. -/
def override? (env : Table String String) : Option String :=
  ((env.find? commandVariable).map Text.stripText).filter (· ≠ "")

/-- The entries with the command replaced, if there is another. -/
def overridden (command? : Option String) (entries : List (Value × Value)) : List (Value × Value) :=
  match command? with
  | some command => Entries.insert (.str "command") (.str command) entries
  | none => entries

/-- The settings of a section in an environment. -/
def settingsOf (env : Table String String) (entries : List (Value × Value)) :
    Except Failure EngineSettings :=
  (EngineSettings.ofEntries (normalKeys (overridden (override? env) entries))).mapError
    fun issues => .configuration (.invalidSettings issues)

end SettingsFile

/-- The settings of the project at a root, seen from the current directory. -/
def loadSettings (w : Workspace) (root : Path) (env : Table String String) :
    Except Failure EngineSettings := do
  let entries ← SettingsFile.readSection w root
  SettingsFile.settingsOf env entries

end LayeredLint
