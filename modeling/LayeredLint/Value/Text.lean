import LayeredLint.Binary64.Decimal
import LayeredLint.Text.Quoted
import LayeredLint.Value

/-!
# Values in messages

- `Value.shown`: a value on one line, texts in quotes, as messages show the value they refuse.
- `Value.display`: the same, but a text appears as it is.
-/

namespace LayeredLint

/-- Texts with commas between them. -/
def commaSeparated (texts : List String) : String :=
  String.intercalate ", " texts

/-- A text in quotes, or the word for none. -/
def shownText? : Option String → String
  | none => "None"
  | some s => Text.quoted s

/-- The name of a severity as a message shows it. -/
def Severity.name : Severity → String
  | .off => "RuleSeverity.OFF"
  | .warn => "RuleSeverity.WARN"
  | .error => "RuleSeverity.ERROR"

/-- A severity as a message shows it. -/
def Severity.shown (s : Severity) : String :=
  "<" ++ s.name ++ ": " ++ Text.quoted s.word ++ ">"

/-- A module reference as a message shows it. -/
def ModuleRef.shown (ref : ModuleRef) : String :=
  "ModuleRef(module=" ++ Text.quoted ref.module ++ ", export=" ++ shownText? ref.exported ++ ")"

/-- A plugin handle as a message shows it. -/
def PluginHandle.shown (handle : PluginHandle) : String :=
  let rules :=
    if handle.typeAwareRules.isEmpty then "frozenset()"
    else "frozenset(\x7b" ++ commaSeparated (handle.typeAwareRules.map Text.quoted) ++ "\x7d)"
  "PluginHandle(source=" ++ handle.source.shown ++ ", type_aware_rules=" ++ rules ++ ")"

namespace Value

/-- Brackets around a list of items. -/
def bracketed (opening closing : String) (items : List String) : String :=
  opening ++ commaSeparated items ++ closing

/-- A sequence in round brackets keeps a comma after its only item. -/
def parenthesised : List String → String
  | [item] => "(" ++ item ++ ",)"
  | items => bracketed "(" ")" items

mutual

/-- A value on one line. -/
def shown : Value → String
  | .null => "None"
  | .bool b => if b then "True" else "False"
  | .int n => toString n
  | .float x => x.text
  | .str s => Text.quoted s
  | .brokenText points => Text.quotedPoints points
  | .bytes bs => Text.quotedBytes bs
  | .list items => bracketed "[" "]" (shownItems items)
  | .tuple items => parenthesised (shownItems items)
  | .dict entries => bracketed "\x7b" "\x7d" (shownEntries entries)
  | .severity s => s.shown
  | .setting s options =>
    "RuleSetting(severity=" ++ s.shown ++ ", options=" ++ parenthesised (shownItems options) ++ ")"
  | .module ref => ref.shown
  | .handle plugin => plugin.shown
  | .language globals version sourceType parser options =>
    "LanguageOptions(globals=mappingproxy(" ++ bracketed "\x7b" "\x7d" (shownGlobals globals) ++
      "), ecma_version=" ++ shown version ++
      ", source_type=" ++ shownText? (sourceType.map SourceType.word) ++
      ", parser=" ++ shown parser ++
      ", parser_options=mappingproxy(" ++ bracketed "\x7b" "\x7d" (shownEntries options) ++ "))"
  | .moment text => text

/-- `shown` for every item. -/
def shownItems : List Value → List String
  | [] => []
  | v :: rest => shown v :: shownItems rest

/-- Every entry as key, colon and value. -/
def shownEntries : List (Value × Value) → List String
  | [] => []
  | (k, v) :: rest => (shown k ++ ": " ++ shown v) :: shownEntries rest

/-- Every global as name, colon and access. -/
def shownGlobals : List (Value × GlobalAccess) → List String
  | [] => []
  | (k, access) :: rest => (shown k ++ ": " ++ Text.quoted access.word) :: shownGlobals rest

end

/-- The text of a rule setting: its severity, and its options in brackets where it has any. -/
def settingText (s : Severity) (options : List Value) : String :=
  if options.isEmpty then s.word else s.word ++ " " ++ bracketed "[" "]" (shownItems options)

/-- A value inside a message: a text appears as it is, everything else as `shown`. -/
def display : Value → String
  | .str s => s
  | .severity s => s.name
  | .setting s options => settingText s options
  | v => shown v

end Value

end LayeredLint
