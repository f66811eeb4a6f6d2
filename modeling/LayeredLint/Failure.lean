import LayeredLint.Value.Text

/-!
# Failures

- `ConfigurationError`: what can be wrong with a configuration, one constructor for each cause.
- `ConfigurationError.message`: the wording.
- `Issue`: one thing wrong with the fields of a record, by its place.
- `EngineError`: the analysis engine could not be run or understood.
- `Fault`: a value does not support what was to be done with it, or a file is not there.
- `Failure`: any of these.
-/

namespace LayeredLint

/-! ## Issues of records -/

/-- A step to the place of an issue: a field, or the position of an item. -/
inductive Step where
  | field (name : String)
  | index (n : Int)
  deriving DecidableEq, Repr

/-- What is wrong at a place. -/
inductive IssueKind where
  | missing
  | boolType
  | boolParsing
  | intType
  | intParsing
  | intParsingSize
  | intFromFloat
  | finiteNumber
  | stringType
  | stringUnicode
  | tupleType
  | dictType
  | modelType
  | pathType
  | literalError
  | enum
  | extraForbidden
  | noSuchAttribute
  /-- A rule of the record itself, with its wording. -/
  | valueError (message : String)
  deriving DecidableEq, Repr

/-- The word for a kind of issue. -/
def IssueKind.word : IssueKind → String
  | .missing => "missing"
  | .boolType => "bool_type"
  | .boolParsing => "bool_parsing"
  | .intType => "int_type"
  | .intParsing => "int_parsing"
  | .intParsingSize => "int_parsing_size"
  | .intFromFloat => "int_from_float"
  | .finiteNumber => "finite_number"
  | .stringType => "string_type"
  | .stringUnicode => "string_unicode"
  | .tupleType => "tuple_type"
  | .dictType => "dict_type"
  | .modelType => "model_type"
  | .pathType => "path_type"
  | .literalError => "literal_error"
  | .enum => "enum"
  | .extraForbidden => "extra_forbidden"
  | .noSuchAttribute => "no_such_attribute"
  | .valueError _ => "value_error"

/-- The wording of an issue that has one of its own. -/
def IssueKind.message? : IssueKind → Option String
  | .valueError message => some ("Value error, " ++ message)
  | _ => none

/-- One thing wrong with a record, and where. -/
structure Issue where
  place : List Step
  kind : IssueKind
  deriving DecidableEq, Repr

/-- The same issue, seen from outside the part it is in. -/
def Issue.under (step : Step) (issue : Issue) : Issue :=
  { issue with place := step :: issue.place }

/-! ## Configuration errors -/

/-- Which list of patterns of a fragment. -/
inductive PatternField where
  | ignores
  | files
  deriving DecidableEq, Repr

/-- The word for a list of patterns. -/
def PatternField.word : PatternField → String
  | .ignores => "ignores"
  | .files => "files"

/-- What can be wrong with a configuration. -/
inductive ConfigurationError where
  | severityKind (context : String) (value : Value)
  | severityLevel (context : String) (level : Int)
  | severityWord (context word : String)
  | emptySetting (rule : String)
  | optionKey (rule : String) (key : Value)
  | optionValue (rule : String) (value : Value)
  | settingKind (rule : String) (value : Value)
  | missingOptions
  | blankModule
  | globalsKind
  | globalAccess (identifier access : Value)
  | parserOptionsKind
  | sourceType (value : Value)
  | unnamedFragment
  | patternsKind (fragment : Value) (field : PatternField)
  | pattern (fragment : Value) (field : PatternField) (item : Value)
  | noFiles (fragment : Value)
  | pluginsKind (fragment : Value)
  | pluginName (fragment key : Value)
  | pluginHandle (fragment : Value) (plugin : String) (value : Value)
  | rulesKind (fragment : Value)
  | ruleId (fragment key : Value)
  | languageKind (fragment : Value)
  | noFragments
  | notFragment (value : Value)
  | unknownEnvironment (name : String)
  | unknownLayer (name : String)
  /-- Layers that do not extend their parents, with the findings described. -/
  | brokenLayers (findings : List String)
  | unknownExtension (filename : String)
  | unknownPreset (name : String)
  | sectionKind (path : String)
  | unreadableDocument (path : String)
  | invalidSettings (issues : List Issue)

/-- Where the fault in a fragment lies, before its description. -/
def inFragment (fragment : Value) (text : String) : String :=
  fragment.display ++ ": " ++ text

/-- The wording of a configuration error. -/
def ConfigurationError.message : ConfigurationError → String
  | .severityKind context value =>
    context ++ ": severity must be 'off', 'warn', 'error' or 0-2, got " ++ value.shown
  | .severityLevel context level =>
    context ++ ": numeric severity must be 0, 1 or 2, got " ++ (Value.int level).shown
  | .severityWord context word => context ++ ": unknown severity '" ++ word ++ "'"
  | .emptySetting rule => rule ++ ": rule setting list must start with a severity"
  | .optionKey rule key => rule ++ ": option keys must be strings, got " ++ key.shown
  | .optionValue rule value =>
    rule ++ ": option value " ++ value.shown ++ " is not JSON serialisable"
  | .settingKind rule value =>
    rule ++ ": rule setting must be a severity or [severity, options], got " ++ value.shown
  | .missingOptions => "ErrorWithOptions requires at least one option payload"
  | .blankModule => "module reference requires a module specifier"
  | .globalsKind => "languageOptions.globals must be a mapping"
  | .globalAccess identifier access =>
    "global '" ++ identifier.display ++ "' has invalid access " ++ access.shown
  | .parserOptionsKind => "languageOptions.parserOptions must be a mapping"
  | .sourceType value => "languageOptions.sourceType '" ++ value.display ++ "' is not supported"
  | .unnamedFragment => "fragment requires a name"
  | .patternsKind fragment field =>
    inFragment fragment (field.word ++ " must be a sequence of glob patterns")
  | .pattern fragment field item =>
    inFragment fragment (field.word ++ " patterns must be non-empty strings, got " ++ item.shown)
  | .noFiles fragment => inFragment fragment "files must list at least one pattern"
  | .pluginsKind fragment =>
    inFragment fragment "plugins must be a mapping of name to plugin handle"
  | .pluginName fragment key =>
    inFragment fragment ("plugin names must be non-empty strings, got " ++ key.shown)
  | .pluginHandle fragment plugin value =>
    inFragment fragment
      ("plugin '" ++ plugin ++ "' must be a PluginHandle, got " ++ value.kindName)
  | .rulesKind fragment => inFragment fragment "rules must be a mapping of rule id to setting"
  | .ruleId fragment key =>
    inFragment fragment ("rule ids must be non-empty strings, got " ++ key.shown)
  | .languageKind fragment =>
    inFragment fragment "languageOptions must be a LanguageOptions instance"
  | .noFragments => "cannot compose an empty fragment sequence"
  | .notFragment value => "expected Fragment, got " ++ value.kindName
  | .unknownEnvironment name =>
    "unknown globals environment '" ++ name ++ "' (known: amd, browser, node)"
  | .unknownLayer name =>
    "unknown layer '" ++ name ++ "' (known: base, functional, functional-library)"
  | .brokenLayers findings => String.intercalate "; " findings
  | .unknownExtension filename =>
    "unrecognized extension for '" ++ filename ++
      "' (expected one of .cjs, .cts, .js, .jsx, .mjs, .mts, .ts, .tsx)"
  | .unknownPreset name =>
    "unknown preset '" ++ name ++ "' (known: bundler, packaging, prettier)"
  | .sectionKind path => "[tool.lintpresets] in " ++ path ++ " must be a table"
  | .unreadableDocument path => "cannot parse " ++ path
  | .invalidSettings _ => "invalid [tool.lintpresets] settings"

/-- What is wrong with the fields of the settings, where that is the cause. -/
def ConfigurationError.issues? : ConfigurationError → Option (List Issue)
  | .invalidSettings issues => some issues
  | _ => none

/-! ## Other failures -/

/-- The engine could not be run or understood. -/
structure EngineError where
  message : String
  /-- The exit status, where a process ended with one. -/
  status : Option Int := none
  stderr : String := ""
  deriving DecidableEq, Repr

/-- A value does not support what was to be done with it, or the world is not as it should be. -/
inductive Fault where
  /-- A key of a table holds a list, a table or language options. -/
  | unhashable
  /-- Language options inside a value prevent a copy in depth. -/
  | uncopyable
  /-- A value has no form in JSON. -/
  | unserialisable
  /-- A value stands where an object with other parts belongs. -/
  | wrongObject
  /-- An integer has more digits than are converted. -/
  | longInteger
  /-- A text is not the number it should be. -/
  | notNumber
  /-- Bytes are not UTF-8. -/
  | undecodable
  /-- A path holds a null character. -/
  | nullInPath
  /-- A document is nested too deeply to be read. -/
  | tooDeep
  /-- A directory is not there. -/
  | missingDirectory
  /-- A file stands where a directory belongs. -/
  | notDirectory
  /-- A program is not where a path says. -/
  | missingProgram
  /-- A table cannot show a cell. -/
  | unrenderable
  /-- A tag in a text for the console closes what is not open. -/
  | badMarkup
  deriving DecidableEq, Repr

/-- Any way to fail. -/
inductive Failure where
  | configuration (cause : ConfigurationError)
  | engine (error : EngineError)
  /-- A record was refused. -/
  | validation (issues : List Issue)
  | fault (fault : Fault)

/-- Fail with a configuration error. -/
def invalid {α : Type} (cause : ConfigurationError) : Except Failure α :=
  .error (.configuration cause)

/-- Fail with a fault. -/
def impossible {α : Type} (fault : Fault) : Except Failure α :=
  .error (.fault fault)

end LayeredLint
