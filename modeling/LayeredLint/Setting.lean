import LayeredLint.Failure
import LayeredLint.Text.Blank
import LayeredLint.Value.Equality

/-!
# Rule settings

A rule is set to a severity, with options or without. A setting is atomic: a later one replaces an
earlier one, options included.

- `Severity.ofValue`: the severity that a token stands for.
- `RuleSetting.ofValue`: the setting that a raw value stands for, a severity token alone or a
  sequence of a token and options.
- `RuleSetting.canonical`: the one raw value that is written for a setting.
-/

namespace LayeredLint

/-! ## Severity tokens -/

/-- The severity of a word, whatever its case and the white space around it. -/
def Severity.ofText? (s : String) : Option Severity :=
  Severity.ofWord? (Text.lowerText (Text.stripText s))

/-- The severity of a token: a word, or a level from 0 to 2. A truth value is no level, and a broken
text is no word. -/
def Severity.ofValue (context : String) : Value → Except Failure Severity
  | .severity s => .ok s
  | .int n =>
    match Severity.ofLevel? n with
    | some s => .ok s
    | none => invalid (.severityLevel context n)
  | .str s =>
    match Severity.ofText? s with
    | some severity => .ok severity
    | none => invalid (.severityWord context s)
  | .brokenText points => invalid (.severityWord context (Value.brokenText points).display)
  | v => invalid (.severityKind context v)

/-! ## Options -/

mutual

/-- Options hold what a document can hold: null, truth values, numbers, texts, sequences, and tables
whose keys are texts. -/
def checkOption (rule : String) : Value → Except Failure Unit
  | .null | .bool _ | .int _ | .float _ | .str _ | .brokenText _ | .severity _ => .ok ()
  | .list items => checkOptions rule items
  | .tuple items => checkOptions rule items
  | .dict entries => checkMembers rule entries
  | v => invalid (.optionValue rule v)

/-- `checkOption` for every item, the first fault first. -/
def checkOptions (rule : String) : List Value → Except Failure Unit
  | [] => .ok ()
  | v :: rest => do
    checkOption rule v
    checkOptions rule rest

/-- `checkOption` for every member. -/
def checkMembers (rule : String) : List (Value × Value) → Except Failure Unit
  | [] => .ok ()
  | (k, v) :: rest => do
    if !k.isText then
      invalid (.optionKey rule k)
    checkOption rule v
    checkMembers rule rest

end

/-! ## Settings -/

/-- A severity with options. -/
structure RuleSetting where
  severity : Severity
  options : List Value := []
  deriving DecidableEq, Inhabited

namespace RuleSetting

/-- A rule reports unless it is switched off. -/
def enabled (s : RuleSetting) : Bool :=
  s.severity.enabled

/-- The rule is switched off. -/
def off : RuleSetting := ⟨.off, []⟩

/-- The rule warns, with options or without. -/
def warn (options : List Value) : Except Failure RuleSetting :=
  if Value.copyableItems options then .ok ⟨.warn, options⟩ else impossible .uncopyable

/-- The rule is an error. -/
def error : RuleSetting := ⟨.error, []⟩

/-- The rule is an error, with options. -/
def errorWithOptions (options : List Value) : Except Failure RuleSetting :=
  if options.isEmpty then invalid .missingOptions
  else if Value.copyableItems options then .ok ⟨.error, options⟩
  else impossible .uncopyable

/-- The value that embeds a setting. -/
def toValue (s : RuleSetting) : Value :=
  .setting s.severity s.options

/-- A sequence that starts with a severity. The options are checked before the severity is read. -/
def ofItems (rule : String) : List Value → Except Failure RuleSetting
  | [] => invalid (.emptySetting rule)
  | head :: options => do
    checkOptions rule options
    let severity ← Severity.ofValue rule head
    return ⟨severity, options⟩

/-- The setting that a raw value stands for. -/
def ofValue (rule : String) : Value → Except Failure RuleSetting
  | .setting severity options => .ok ⟨severity, options⟩
  | .list items => ofItems rule items
  | .tuple items => ofItems rule items
  | v =>
    match v with
    | .severity _ | .bool _ | .int _ | .str _ | .brokenText _ => do
      let severity ← Severity.ofValue rule v
      return ⟨severity, []⟩
    | _ => invalid (.settingKind rule v)

/-- The raw value written for a setting: the word of its severity, or a list of it and the
options. -/
def canonical (s : RuleSetting) : Value :=
  if s.options.isEmpty then .str s.severity.word
  else .list (.str s.severity.word :: s.options)

/-- The canonical value on its own, with a copy of the options. -/
def canonicalCopy (s : RuleSetting) : Except Failure Value :=
  if Value.copyableItems s.options then .ok s.canonical else impossible .uncopyable

/-- The setting as tables and traces show it. -/
def text (s : RuleSetting) : String :=
  Value.settingText s.severity s.options

/-- Settings are equal when their severities and options are. -/
def equal (a b : RuleSetting) : Bool :=
  a.severity = b.severity && Value.equalItems a.options b.options

end RuleSetting

end LayeredLint
