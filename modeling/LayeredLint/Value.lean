import LayeredLint.Binary64.Basic
import LayeredLint.Capability
import LayeredLint.Severity

/-!
# Values

Fragments are written in configuration code and settings in a document, so what reaches the library
may be any value: plain data, or an object of the library in a place where it may not belong.

- `Value`: the values, with tables as lists of entries.
- `Value.kindName`: the kind of a value as messages name it.
- `Value.truthy`: whether a value counts as present.
- `Value.hashable`: whether a value can be the key of a table.
-/

namespace LayeredLint

/-- How a configuration may use a global name. -/
inductive GlobalAccess where
  | readonly
  | writable
  | off
  deriving DecidableEq, Repr, Inhabited

/-- The word for an access. -/
def GlobalAccess.word : GlobalAccess → String
  | .readonly => "readonly"
  | .writable => "writable"
  | .off => "off"

/-- The access a word stands for. -/
def GlobalAccess.ofWord? (s : String) : Option GlobalAccess :=
  if s = "readonly" then some .readonly
  else if s = "writable" then some .writable
  else if s = "off" then some .off
  else none

/-- What kind of source text a file holds. -/
inductive SourceType where
  | module
  | script
  | commonjs
  deriving DecidableEq, Repr, Inhabited

/-- The word for a source type. -/
def SourceType.word : SourceType → String
  | .module => "module"
  | .script => "script"
  | .commonjs => "commonjs"

/-- The source type a word stands for. -/
def SourceType.ofWord? (s : String) : Option SourceType :=
  if s = "module" then some .module
  else if s = "script" then some .script
  else if s = "commonjs" then some .commonjs
  else none

/-- A value of configuration code or of a document. A sequence is a `list` or a `tuple`, a `dict`
keeps its entries in order, a broken text holds halves of surrogate pairs and is given by its code
points, and the last constructors are objects of the library: a severity, a rule setting, a module
reference, a plugin handle, language options, and the date or time of a settings document. -/
inductive Value where
  | null
  | bool (b : Bool)
  | int (n : Int)
  | float (x : Binary64)
  | str (s : String)
  | brokenText (points : List Nat)
  | bytes (bs : List UInt8)
  | list (items : List Value)
  | tuple (items : List Value)
  | dict (entries : List (Value × Value))
  | severity (s : Severity)
  | setting (severity : Severity) (options : List Value)
  | module (ref : ModuleRef)
  | handle (plugin : PluginHandle)
  | language (globals : List (Value × GlobalAccess)) (ecmaVersion : Value)
      (sourceType : Option SourceType) (parser : Value) (parserOptions : List (Value × Value))
  | moment (text : String)
  deriving Inhabited

namespace Value

/-- The kind of a value as messages name it. -/
def kindName : Value → String
  | .null => "NoneType"
  | .bool _ => "bool"
  | .int _ => "int"
  | .float _ => "float"
  | .str _ => "str"
  | .brokenText _ => "str"
  | .bytes _ => "bytes"
  | .list _ => "list"
  | .tuple _ => "tuple"
  | .dict _ => "dict"
  | .severity _ => "RuleSeverity"
  | .setting .. => "RuleSetting"
  | .module _ => "ModuleRef"
  | .handle _ => "PluginHandle"
  | .language .. => "LanguageOptions"
  | .moment _ => "datetime"

/-- A value counts as present unless it is null, false, a zero, or empty. -/
def truthy : Value → Bool
  | .null => false
  | .bool b => b
  | .int n => n != 0
  | .float x => !x.isZero
  | .str s => s != ""
  | .bytes bs => !bs.isEmpty
  | .list items => !items.isEmpty
  | .tuple items => !items.isEmpty
  | .dict entries => !entries.isEmpty
  | _ => true

/-- The text of a value that is one: a severity is the text of its word. A broken text is none of
characters. -/
def text? : Value → Option String
  | .str s => some s
  | .severity s => some s.word
  | _ => none

/-- Whether a value is a text, broken or not. -/
def isText : Value → Bool
  | .str _ => true
  | .brokenText _ => true
  | .severity _ => true
  | _ => false

/-- The integer of a value that is one: a truth value counts as 0 or 1. -/
def integer? : Value → Option Int
  | .bool b => some (if b then 1 else 0)
  | .int n => some n
  | _ => none

/-- The text of some code points, which is broken where one of them is no character. -/
def ofPoints (points : List Nat) : Value :=
  if points.all fun n => decide n.isValidChar then .str (String.ofList (points.map Char.ofNat))
  else .brokenText points

/-! ## Keys -/

mutual

/-- Whether a value can be the key of a table: it holds no list, table or language options. -/
def hashable : Value → Bool
  | .list _ => false
  | .dict _ => false
  | .language .. => false
  | .tuple items => hashableItems items
  | .setting _ options => hashableItems options
  | _ => true

/-- `hashable` for every item. -/
def hashableItems : List Value → Bool
  | [] => true
  | v :: rest => hashable v && hashableItems rest

end

mutual

/-- Whether a value can be copied in depth: language options inside it prevent that. -/
def copyable : Value → Bool
  | .list items => copyableItems items
  | .tuple items => copyableItems items
  | .dict entries => copyableEntries entries
  | .setting _ options => copyableItems options
  | .language .. => false
  | _ => true

/-- `copyable` for every item. -/
def copyableItems : List Value → Bool
  | [] => true
  | v :: rest => copyable v && copyableItems rest

/-- `copyable` for every key and value. -/
def copyableEntries : List (Value × Value) → Bool
  | [] => true
  | (k, v) :: rest => copyable k && copyable v && copyableEntries rest

end

end Value

end LayeredLint
