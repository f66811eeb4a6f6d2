import LayeredLint.Verification

/-!
# The scripted engine

An engine for trying out verification without a linter: the source says what it reports.

- `Directive`: what a line asks for.
- `scriptedDiagnostics`: what a source makes the engine report.
- `scriptedEngine`: the engine, whose state is the list of calls it was given.
-/

namespace LayeredLint

/-- What a line of a source asks for. -/
inductive Directive where
  /-- Report only that the source cannot be parsed. -/
  | fatal (message : String)
  /-- Fail. -/
  | crash (message : String)
  /-- Report a rule where the configuration has it enabled. -/
  | rule (id : String)
  /-- Report a rule whatever the configuration says. -/
  | raw (id : String)
  /-- Report a message without a rule. -/
  | note (message : String)
  | nothing
  deriving DecidableEq, Repr

/-- The text before the first space, and the text after it. -/
def splitAtSpace (cs : List Char) : String × String :=
  (String.ofList (cs.takeWhile (· ≠ ' ')), String.ofList ((cs.dropWhile (· ≠ ' ')).drop 1))

/-- The directive of a line: a word and the text after it. -/
def Directive.ofLine (line : List Char) : Directive :=
  let (word, rest) := splitAtSpace line
  if word = "!fatal" then .fatal rest
  else if word = "!crash" then .crash rest
  else if word = "!rule" then .rule rest
  else if word = "!raw" then .raw rest
  else if word = "!null" then .note rest
  else .nothing

/-- The severity that a diagnostic of an enabled rule has. -/
def diagnosticSeverity? : Severity → Option DiagnosticSeverity
  | .off => none
  | .warn => some .warning
  | .error => some .error

/-- The diagnostic of a rule, if the configuration has it enabled. -/
def triggered? (c : EffectiveConfiguration) (rule : String) (line : Int) : Option Diagnostic := do
  let setting ← c.rules.find? rule
  let severity ← diagnosticSeverity? setting.severity
  return {
    ruleId := some rule
    severity := severity
    message := Text.stripText ("triggered " ++ rule)
    line := some line }

/-- The diagnostics of the lines from number `n` on, after those reported before. -/
def scriptedFrom (c : EffectiveConfiguration) (n : Int) (before : List Diagnostic) :
    List Directive → Except Failure (List Diagnostic)
  | [] => .ok before
  | .fatal message :: _ => .ok [Diagnostic.parseFailure message (some n) (some 1)]
  | .crash message :: _ =>
    .error (.engine { message := message, status := some 2, stderr := "stub" })
  | .rule id :: rest => scriptedFrom c (n + 1) (before ++ (triggered? c id n).toList) rest
  | .raw id :: rest =>
    let raw : Diagnostic :=
      { ruleId := some id, severity := .error, message := "raw", line := some n, column := some 0 }
    scriptedFrom c (n + 1) (before ++ [raw]) rest
  | .note message :: rest =>
    let note : Diagnostic := { severity := .warning, message := Text.stripText message }
    scriptedFrom c (n + 1) (before ++ [note]) rest
  | .nothing :: rest => scriptedFrom c (n + 1) before rest

/-- The directives of a source, one for each line. -/
def directives (source : String) : List Directive :=
  (Path.splitChars '\n' source.toList).map Directive.ofLine

/-- What a source makes the engine report under a configuration. -/
def scriptedDiagnostics (call : Call) : Except Failure (List Diagnostic) :=
  scriptedFrom call.configuration 1 [] (directives call.source)

/-- The engine that reports what the source says, and remembers its calls in order. -/
def scriptedEngine : Engine (List Call) where
  analyze call calls := (scriptedDiagnostics call, calls ++ [call])

end LayeredLint
