import LayeredLint.Composition
import LayeredLint.Json.Printer

/-!
# Configuration modules

The engine reads a configuration from a module whose default export is a list with one entry for
each fragment, in order. Every module that a plugin or parser comes from is imported once.

- `moduleNames`: the modules to import, in order of first reference.
- `aliasOf?`: the name that a module is imported under.
- `entryMembers`: the members of the entry for a fragment.
- `renderModule`: the text of the whole module.
- `snapshot`: a configuration as one value, with descriptions in the place of code.
-/

namespace LayeredLint

/-- The text of a value on one line. -/
def dump (v : Value) : Except Failure String :=
  match Json.line? v with
  | some text => .ok text
  | none => impossible .unserialisable

/-- A list of texts as a value. -/
def textList (texts : List String) : Value :=
  .list (texts.map .str)

/-! ## Imports -/

/-- The module that a parser comes from; a null parser comes from none. -/
def parserModules (parser : Value) : Except Failure (List String) :=
  match parser with
  | .null => .ok []
  | .module ref => .ok [ref.module]
  | _ => impossible .wrongObject

/-- The modules that a fragment refers to: those of its plugins, then that of its parser. -/
def referencedModules (f : Fragment) : Except Failure (List String) := do
  let plugins := f.plugins.values.map fun handle => handle.source.module
  let parser ← match f.languageOptions with
    | none => .ok []
    | some options => parserModules options.parser
  return plugins ++ parser

/-- Add the names that are not in a list yet. -/
def addNames (names : List String) : List String → List String
  | [] => names
  | name :: rest => addNames (if names.contains name then names else names ++ [name]) rest

/-- The modules that fragments refer to, in order of first reference. -/
def moduleNames (fragments : List Fragment) : Except Failure (List String) := do
  let referenced ← fragments.mapM referencedModules
  return addNames [] referenced.flatten

/-- The alias at a place in the list of imports. -/
def aliasAt (n : Nat) : String :=
  "m" ++ String.ofList (Nat.toDigits 10 n)

/-- The name that a module is imported under. -/
def aliasOf? (modules : List String) (module : String) : Option String :=
  (modules.findIdx? (· = module)).map aliasAt

/-- The import of a module. -/
def importLine (n : Nat) (module : String) : String :=
  "import " ++ aliasAt n ++ " from " ++ String.ofList (Json.stringText module)

/-- The expression for a module reference: the alias, and the export of it. -/
def reference (modules : List String) (ref : ModuleRef) : Except Failure String :=
  match aliasOf? modules ref.module with
  | none => impossible .wrongObject
  | some name =>
    .ok (match ref.exported with
      | none => name
      | some exported => name ++ "." ++ exported)

/-! ## Entries -/

/-- A member: its name and the text of its value. -/
abbrev Member := String × String

/-- Members in braces. -/
def braced (members : List Member) : String :=
  "\x7b " ++ commaSeparated (members.map fun m => m.1 ++ ": " ++ m.2) ++ " \x7d"

/-- The member for a value, if there is one. -/
def memberFor (name : String) : Option Value → Except Failure (List Member)
  | none => .ok []
  | some v => do
    let text ← dump v
    return [(name, text)]

/-- A value, unless it is null. -/
def present? : Value → Option Value
  | .null => none
  | v => some v

/-- The globals of language options as a table. -/
def globalsValue (o : LanguageOptions) : Value :=
  .dict (o.globals.entries.map fun e => (e.1, .str e.2.word))

/-- The plain language options that are set, in the order they are written. -/
def languagePayload (o : LanguageOptions) : List (String × Value) :=
  (if o.globals.isEmpty then [] else [("globals", globalsValue o)]) ++
  (present? o.ecmaVersion).toList.map ("ecmaVersion", ·) ++
  o.sourceType.toList.map (fun s => ("sourceType", .str s.word)) ++
  (if o.parserOptions.isEmpty then [] else [("parserOptions", .dict o.parserOptions)])

/-- The member for a parser, if there is one. -/
def parserMember (modules : List String) : Value → Except Failure (List Member)
  | .null => .ok []
  | .module ref => do
    let text ← reference modules ref
    return [("parser", text)]
  | _ => impossible .wrongObject

/-- The members of language options: the plain ones, then the parser. -/
def languageMembers (modules : List String) (o : LanguageOptions) :
    Except Failure (List Member) := do
  let plain ← (languagePayload o).mapM fun e => do
    let text ← dump e.2
    return (e.1, text)
  let parser ← parserMember modules o.parser
  return plain ++ parser

/-- The members for plugins: each name with the expression for its source. -/
def pluginMembers (modules : List String) (plugins : Table Name PluginHandle) :
    Except Failure (List Member) :=
  plugins.entries.mapM fun e => do
    let text ← reference modules e.2.source
    return (String.ofList (Json.stringText e.1.word), text)

/-- The rules of a table, each with its canonical value. -/
def rulesValue (rules : Table Name RuleSetting) : Except Failure Value := do
  let entries ← rules.entries.mapM fun e => do
    let setting ← e.2.canonicalCopy
    return (Value.str e.1.word, setting)
  return .dict entries

/-- The part of an entry for plugins, if there are some. -/
def pluginPart (modules : List String) (plugins : Table Name PluginHandle) :
    Except Failure (List Member) :=
  if plugins.isEmpty then .ok []
  else do
    let members ← pluginMembers modules plugins
    return [("plugins", braced members)]

/-- The part of an entry for language options, if some are set. -/
def languagePart (modules : List String) : Option LanguageOptions → Except Failure (List Member)
  | none => .ok []
  | some options =>
    if options.isEmpty then .ok []
    else do
      let members ← languageMembers modules options
      return [("languageOptions", braced members)]

/-- The part of an entry for rules, if there are some. -/
def rulePart (rules : Table Name RuleSetting) : Except Failure (List Member) :=
  if rules.isEmpty then .ok []
  else do
    let v ← rulesValue rules
    memberFor "rules" (some v)

/-- The members of the entry for a fragment. A part that is absent or empty has none. -/
def entryMembers (modules : List String) (f : Fragment) : Except Failure (List Member) := do
  let name ← dump f.name
  let files ← memberFor "files" (f.files.map textList)
  let ignores ← memberFor "ignores" (f.ignores.map textList)
  let plugins ← pluginPart modules f.plugins
  let language ← languagePart modules f.languageOptions
  let rules ← rulePart f.rules
  return ("name", name) :: files ++ ignores ++ plugins ++ language ++ rules

/-! ## The module -/

/-- The lines of the module: imports, a blank line, and the list with a line for each entry. -/
def moduleLines (fragments : List Fragment) : Except Failure (List String) := do
  let modules ← moduleNames fragments
  let entries ← fragments.mapM fun f => do
    let members ← entryMembers modules f
    return "  " ++ braced members ++ ","
  return modules.mapIdx importLine ++ ["", "export default ["] ++ entries ++ ["]"]

/-- The text of the module whose default export lists the fragments. -/
def renderModule (fragments : List Fragment) : Except Failure String := do
  let lines ← moduleLines fragments
  return String.join (lines.map (· ++ "\n"))

/-! ## Snapshots -/

/-- A table whose keys are texts, as a value. -/
def record (members : List (String × Value)) : Value :=
  .dict (members.map fun m => (.str m.1, m.2))

/-- Patterns with the fragment they belong to. -/
def patternsValue (fragment : Value) (patterns : List String) : Value :=
  record [("fragment", fragment), ("patterns", textList patterns)]

/-- A configuration as one value; a handle is represented by the description of its source. -/
def snapshot (c : EffectiveConfiguration) : Except Failure Value := do
  let parser ← c.languageOptions.describeParser
  let rules ← rulesValue c.rules
  return record
    [("plugins", record (c.plugins.entries.map fun e => (e.1.word, .str e.2.describe))),
      ("rules", rules),
      ("languageOptions", record
        (languagePayload c.languageOptions ++ (present? parser).toList.map ("parser", ·))),
      ("ignores", .list (c.ignores.map fun e => patternsValue e.1 e.2)),
      ("files", .list (c.fragments.filterMap fun f => f.files.map (patternsValue f.name ·))),
      ("fragments", .list (c.fragments.map Fragment.name))]

end LayeredLint
