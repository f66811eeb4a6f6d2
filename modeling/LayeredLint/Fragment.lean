import LayeredLint.Language
import LayeredLint.Name
import LayeredLint.Setting

/-!
# Fragments

A fragment is a named part of a configuration. Every part of it is optional, and patterns, plugins,
rules and language options are checked when it is made.

- `Fragment`: a checked fragment.
- `RawFragment`: its parts as they are given.
- `Fragment.make`: the fragment for raw parts, or what is wrong with them.
- `Fragment.parts`: the parts that a fragment can be made from again.
- `Fragment.ignoresOnly`: a fragment that declares global ignores and nothing else.
-/

namespace LayeredLint

/-- A named part of a configuration. `ignores` and `files` are patterns of the fragment itself and
are never merged with those of another. -/
structure Fragment where
  name : Value
  ignores : Option (List String) := none
  files : Option (List String) := none
  plugins : Table Name PluginHandle := .empty
  rules : Table Name RuleSetting := .empty
  languageOptions : Option LanguageOptions := none
  deriving DecidableEq

/-- The parts of a fragment as they are given. -/
structure RawFragment where
  name : Value
  ignores : Value := .null
  files : Value := .null
  plugins : Value := .dict []
  rules : Value := .dict []
  languageOptions : Value := .null

namespace Fragment

/-- A fragment that declares global ignores and nothing else. -/
def ignoresOnly (f : Fragment) : Bool :=
  f.ignores.isSome && f.files.isNone && f.plugins.isEmpty && f.rules.isEmpty &&
    f.languageOptions.all LanguageOptions.isEmpty

/-! ## Patterns -/

/-- The items of a value that can be gone through: a sequence, the keys of a table, or bytes. -/
def items? : Value → Option (List Value)
  | .list items => some items
  | .tuple items => some items
  | .dict entries => some (entries.map Prod.fst)
  | .bytes bs => some (bs.map fun b => .int b.toNat)
  | _ => none

/-- A pattern is a text that is not blank; broken texts are refused. -/
def patternOfValue (name : Value) (field : PatternField) (v : Value) : Except Failure String :=
  match v.text? with
  | some s => if Text.isBlankText s then invalid (.pattern name field v) else .ok s
  | none => invalid (.pattern name field v)

/-- The patterns of a value; a list of files must not be empty. -/
def patternsOfValue (name : Value) (field : PatternField) (v : Value) :
    Except Failure (List String) :=
  match items? v with
  | none => invalid (.patternsKind name field)
  | some items => do
    let patterns ← items.mapM (patternOfValue name field)
    if field = .files ∧ patterns.isEmpty then
      invalid (.noFiles name)
    return patterns

/-- The patterns of a value; null stands for none. -/
def optionalPatterns (name : Value) (field : PatternField) :
    Value → Except Failure (Option (List String))
  | .null => .ok none
  | v => some <$> patternsOfValue name field v

/-! ## Plugins, rules and language options -/

/-- A key that names a plugin or a rule: a text that is not empty, and not broken. -/
def nameOfKey? (key : Value) : Option Name :=
  (Name.ofValue? key).filter (·.word ≠ "")

/-- One plugin: its name and its handle. -/
def pluginOfEntry (name : Value) : Value × Value → Except Failure (Name × PluginHandle)
  | (key, v) =>
    match nameOfKey? key, v with
    | none, _ => invalid (.pluginName name key)
    | some plugin, .handle handle => .ok (plugin, handle)
    | some _, v => invalid (.pluginHandle name key.display v)

/-- The plugins of a table. -/
def pluginsOfValue (name : Value) : Value → Except Failure (Table Name PluginHandle)
  | .dict entries => Table.ofList <$> entries.mapM (pluginOfEntry name)
  | _ => invalid (.pluginsKind name)

/-- One rule: its id and its setting. -/
def ruleOfEntry (name : Value) : Value × Value → Except Failure (Name × RuleSetting)
  | (key, v) =>
    match nameOfKey? key with
    | none => invalid (.ruleId name key)
    | some rule => do
      let setting ← RuleSetting.ofValue key.display v
      return (rule, setting)

/-- The rules of a table. -/
def rulesOfValue (name : Value) : Value → Except Failure (Table Name RuleSetting)
  | .dict entries => Table.ofList <$> entries.mapM (ruleOfEntry name)
  | _ => invalid (.rulesKind name)

/-- The language options of a value; null stands for none. -/
def languageOfValue (name : Value) : Value → Except Failure (Option LanguageOptions)
  | .null => .ok none
  | v =>
    match LanguageOptions.ofValue? v with
    | some options => .ok (some options)
    | none => invalid (.languageKind name)

/-! ## Construction -/

/-- The fragment for raw parts, which are looked at in the order of the fields. -/
def make (raw : RawFragment) : Except Failure Fragment := do
  if !raw.name.truthy then
    invalid .unnamedFragment
  let ignores ← optionalPatterns raw.name .ignores raw.ignores
  let files ← optionalPatterns raw.name .files raw.files
  let plugins ← pluginsOfValue raw.name raw.plugins
  let rules ← rulesOfValue raw.name raw.rules
  let languageOptions ← languageOfValue raw.name raw.languageOptions
  return ⟨raw.name, ignores, files, plugins, rules, languageOptions⟩

/-- Patterns as a value, null where there are none. -/
def patternsPart : Option (List String) → Value
  | none => .null
  | some patterns => .tuple (patterns.map .str)

/-- The parts of a fragment, from which it can be made again. -/
def parts (f : Fragment) : RawFragment where
  name := f.name
  ignores := patternsPart f.ignores
  files := patternsPart f.files
  plugins := .dict (f.plugins.entries.map fun e => (e.1.toValue, .handle e.2))
  rules := .dict (f.rules.entries.map fun e => (e.1.toValue, e.2.toValue))
  languageOptions := (f.languageOptions.map LanguageOptions.toValue).getD .null

/-! ## Equality -/

/-- Two tables assign equal values to the same names, in any order. -/
def tablesEqual {α : Type} (equal : α → α → Bool) (a b : Table Name α) : Bool :=
  a.size = b.size && a.entries.all fun e =>
    match b.find? e.1 with
    | some v => equal e.2 v
    | none => false

/-- Whether two optional values are both there and equal, or both absent. -/
def optionsEqual {α : Type} (equal : α → α → Bool) : Option α → Option α → Bool
  | none, none => true
  | some a, some b => equal a b
  | _, _ => false

/-- Fragments are equal when their parts are, whatever the order of plugins and rules. -/
def equal (a b : Fragment) : Bool :=
  Value.equal a.name b.name && a.ignores = b.ignores && a.files = b.files &&
    tablesEqual (fun x y => decide (x = y)) a.plugins b.plugins &&
    tablesEqual RuleSetting.equal a.rules b.rules &&
    optionsEqual LanguageOptions.equal a.languageOptions b.languageOptions

end Fragment

end LayeredLint
