import LayeredLint.Record.Field
import LayeredLint.Value.Equality

/-!
# Diagnostics

- `Diagnostic`: one finding of the engine.
- `Diagnostic.ofRecord`: the diagnostic of a record with checked fields.
- `Diagnostic.parseFailure`: the diagnostic for a source that cannot be parsed.
- `Diagnostic.ofMessage`: the diagnostic of a message in an engine's report, which has one unless a
  text in it is broken.
- `Diagnostic.location`: line and column for display.
-/

namespace LayeredLint

/-- One finding of the engine. -/
structure Diagnostic where
  ruleId : Option String := none
  severity : DiagnosticSeverity
  message : String
  /-- The source could not be parsed. -/
  fatal : Bool := false
  line : Option Int := none
  column : Option Int := none
  deriving DecidableEq, Repr

namespace Diagnostic

open Record

/-! ## Records -/

/-- The severity of a level of 1 or 2, in any form that stands for the integer. An integer of more
than 64 bits is too large to be compared. -/
def severityOfValue (v : Value) : Checked DiagnosticSeverity :=
  match intOfValue v with
  | .ok n =>
    if n = 1 then .ok .warning
    else if n = 2 then .ok .error
    else if isWord n then issue .enum
    else issue .intParsingSize
  | .error _ => issue .enum

/-- A message: white space at the ends of a text is dropped. -/
def messageOfValue (v : Value) : Checked String :=
  match v.text? with
  | some s => .ok (Text.stripText s)
  | none => textOfValue v

/-- The rule of a record: what cannot be parsed broke no rule. -/
def refuseFatalRule (d : Diagnostic) : Checked Diagnostic :=
  if d.fatal && d.ruleId.isSome then
    issue (.valueError "fatal diagnostics must not carry a rule id")
  else .ok d

/-- The diagnostic with the fields of a record. -/
def ofEntries (entries : List (Value × Value)) : Checked Diagnostic := do
  let build : Checked (Option String → DiagnosticSeverity → String → Bool → Option Int →
    Option Int → Diagnostic) := .ok Diagnostic.mk
  let build := build.apply (field entries ⟨"ruleId", "rule_id"⟩ (optional textOfValue) none)
  let build := build.apply (requiredField entries (.plain "severity") severityOfValue)
  let build := build.apply (requiredField entries (.plain "message") messageOfValue)
  let build := build.apply (field entries (.plain "fatal") boolOfValue false)
  let build := build.apply (field entries (.plain "line") (optional intOfValue) none)
  let build := build.apply (field entries (.plain "column") (optional intOfValue) none)
  refuseFatalRule (← build)

/-- The diagnostic of a record. -/
def ofRecord (v : Value) : Except Failure Diagnostic :=
  (recordOfValue ofEntries v).mapError .validation

/-! ## Parse failures and reports -/

/-- The diagnostic for a source that cannot be parsed. -/
def parseFailure (message : String) (line column : Option Int := none) : Diagnostic where
  severity := .error
  message := Text.stripText message
  fatal := true
  line := line
  column := column

/-- The member of a message, null where it is absent. -/
def member (entries : List (Value × Value)) (name : String) : Value :=
  (Entries.find? (Value.str name) entries).getD .null

/-- The text of a message: empty for what counts as absent, else as it is displayed. -/
def messageText (v : Value) : String :=
  if v.truthy then v.display else ""

/-- The rule of a message: a text, or else none. -/
def messageRule : Value → Checked (Option String)
  | .brokenText points => some <$> textOfValue (.brokenText points)
  | v => .ok v.text?

/-- The text of a message, which must not be broken. -/
def checkedMessageText : Value → Checked String
  | .brokenText points => textOfValue (.brokenText points)
  | v => .ok (Text.stripText (messageText v))

/-- The diagnostic of a message in a report. A fatal one is an error and has no rule. -/
def ofMessage (entries : List (Value × Value)) : Except Failure Diagnostic :=
  let fatal := (member entries "fatal").truthy
  let isError := fatal || Value.equal (member entries "severity") (.int 2)
  let build (rule : Option String) (message : String) : Diagnostic :=
    { ruleId := rule
      severity := if isError then .error else .warning
      message := message
      fatal := fatal
      line := (member entries "line").integer?
      column := (member entries "column").integer? }
  let rule := if fatal then .ok none else messageRule (member entries "ruleId")
  let message := checkedMessageText (member entries "message")
  (Checked.apply (Checked.apply (.ok build) (rule.under (.field "rule_id")))
    (message.under (.field "message"))).mapError .validation

/-! ## Views -/

/-- Line and column, or a dash where the line is unknown. -/
def location (d : Diagnostic) : String :=
  match d.line with
  | none => "-"
  | some line => (Value.int line).shown ++ ":" ++ (Value.int (d.column.getD 0)).shown

/-- The rule ids of diagnostics, in order. -/
def ruleIds (diagnostics : List Diagnostic) : List String :=
  diagnostics.filterMap Diagnostic.ruleId

end Diagnostic

end LayeredLint
