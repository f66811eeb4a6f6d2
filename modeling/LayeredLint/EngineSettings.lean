import LayeredLint.Path.Resolution
import LayeredLint.Record.Field
import LayeredLint.Text.Words

/-!
# Engine settings

How the linter is launched.

- `EngineSettings`: the command, the directory it runs in, and further arguments.
- `EngineSettings.ofEntries`: the settings of a table, or everything that is wrong with it.
- `EngineSettings.assign`: the settings with one field changed, or what is wrong with the change.
- `EngineSettings.resolvedDirectory`: the directory the linter runs in.
-/

namespace LayeredLint

/-- How the linter is launched. -/
structure EngineSettings where
  command : List String := ["npx", "--no-install", "eslint"]
  /-- Where the linter runs, seen from the root of the project. -/
  workingDirectory : Option Path := none
  extraArguments : List String := []
  deriving DecidableEq, Repr

namespace EngineSettings

open Record

/-! ## Fields -/

/-- The words of a command line: a text is cut into words, a sequence holds them already. -/
def wordsOfValue (v : Value) : Checked (List String) :=
  match v.text? with
  | some s =>
    match Text.words s with
    | .ok words => .ok words
    | .error e => issue (.valueError e.message)
  | none => textsOfValue v

/-- The words of a command, of which there is at least one. -/
def commandOfValue (v : Value) : Checked (List String) := do
  let words ← wordsOfValue v
  if words.isEmpty then issue (.valueError "engine command must not be empty") else return words

/-- A directory, or null for the root itself. -/
def directoryOfValue (v : Value) : Checked (Option Path) :=
  optional pathOfValue v

/-- The fields of the settings. -/
inductive Field where
  | command
  | workingDirectory
  | extraArguments
  deriving DecidableEq, Repr

namespace Field

/-- The name of a field. -/
def name : Field → String
  | .command => "command"
  | .workingDirectory => "working_directory"
  | .extraArguments => "extra_args"

/-- The fields in order. -/
def all : List Field := [.command, .workingDirectory, .extraArguments]

/-- The field of a name. -/
def ofName? (s : String) : Option Field :=
  all.find? fun f => f.name = s

end Field

/-! ## Reading -/

/-- What is wrong with the keys of a table that are no fields. -/
def unknownIssues (entries : List (Value × Value)) : List Issue :=
  (unknownKeys (Field.all.map fun f => .plain f.name) entries).map fun key =>
    ⟨[stepOfKey key], .extraForbidden⟩

/-- The settings of a table. A field that is absent has its default. -/
def ofEntries (entries : List (Value × Value)) : Checked EngineSettings :=
  let defaults : EngineSettings := {}
  let build : Checked (List String → Option Path → List String → EngineSettings) :=
    .ok EngineSettings.mk
  let build := build.apply
    (field entries (.plain Field.command.name) commandOfValue defaults.command)
  let build := build.apply
    (field entries (.plain Field.workingDirectory.name) directoryOfValue defaults.workingDirectory)
  let build := build.apply
    (field entries (.plain Field.extraArguments.name) wordsOfValue defaults.extraArguments)
  build.alsoRefuse (unknownIssues entries)

/-- The settings of a record. -/
def ofRecord (v : Value) : Except Failure EngineSettings :=
  (recordOfValue ofEntries v).mapError .validation

/-! ## Assigning -/

/-- The settings with a field changed. -/
def set (s : EngineSettings) (f : Field) (v : Value) : Checked EngineSettings :=
  let changed : Checked EngineSettings :=
    match f with
    | .command => (commandOfValue v).map fun words => { s with command := words }
    | .workingDirectory => (directoryOfValue v).map fun p => { s with workingDirectory := p }
    | .extraArguments => (wordsOfValue v).map fun words => { s with extraArguments := words }
  changed.under (.field f.name)

/-- A name that starts with an underscore is private: a note on the settings, and none of them. Names
with two of them at both ends that every object has, such as `__dict__`, are no notes: what is put
under one of these may replace all fields at once, and is not told here. -/
def isPrivate (name : String) : Bool :=
  name.toList.head? = some '_'

/-- The settings with the field of a name changed. A note under a private name changes none of them
(names that every object has, such as `__dict__`, are left aside), and any other name has to be that
of a field. -/
def assign (s : EngineSettings) (name : String) (v : Value) : Except Failure EngineSettings :=
  match Field.ofName? name with
  | some f => (s.set f v).mapError .validation
  | none =>
    if isPrivate name then .ok s else .error (.validation [⟨[.field name], .noSuchAttribute⟩])

/-- The settings after an assignment: as they were where it fails. -/
def afterAssignment (s : EngineSettings) (assignment : String × Value) : EngineSettings :=
  (s.assign assignment.1 assignment.2).toOption.getD s

/-- The settings after several assignments, some of which may fail. -/
def afterAssignments (s : EngineSettings) (assignments : List (String × Value)) : EngineSettings :=
  assignments.foldl afterAssignment s

/-! ## Directories -/

/-- The directory the linter runs in. An absolute one stays as it is; any other is seen from the
root. -/
def resolvedDirectory (s : EngineSettings) (root : Path) : Except Failure Path :=
  match s.workingDirectory with
  | none => root.resolved
  | some p => if p.isAbsolute then .ok p else (root.join p).resolved

end EngineSettings

end LayeredLint
