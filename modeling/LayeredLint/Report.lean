import LayeredLint.Diagnostic
import LayeredLint.Json.Reader

/-!
# Reports of the engine

The engine reports in a JSON array with an object for each file, each with a list of messages.

- `reportDiagnostics`: the messages of a report, in order; what has another shape is passed over.
- `readReport`: the diagnostics of a report text.
-/

namespace LayeredLint

/-- The messages of the entry for a file: the tables in its list of messages. -/
def entryMessages (entry : Value) : List (List (Value × Value)) :=
  match entry with
  | .dict entries =>
    match Diagnostic.member entries "messages" with
    | .list messages => messages.filterMap fun
      | .dict message => some message
      | _ => none
    | _ => []
  | _ => []

/-- The diagnostics of the entries of a report, in order. -/
def reportDiagnostics (entries : List Value) : Except Failure (List Diagnostic) :=
  (entries.flatMap entryMessages).mapM Diagnostic.ofMessage

/-- The diagnostics of a report text; an empty text reports nothing. -/
def readReport (stdout : String) : Except Failure (List Diagnostic) :=
  let document := if stdout = "" then "[]" else stdout
  match Json.read document with
  | .ok (.list entries) => reportDiagnostics entries
  | .ok _ => .error (.engine { message := "analysis engine report must be a JSON array" })
  | .error fault =>
    match fault.cause with
    | .longInteger => impossible .longInteger
    | .tooDeep => impossible .tooDeep
    | _ => .error (.engine
      { message := "analysis engine produced unreadable output: " ++ fault.message document })

end LayeredLint
