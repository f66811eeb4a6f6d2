import LayeredLint.ScriptedEngine
import LayeredLint.Text.Lines

/-!
# The comment engine

An engine for trying out verification on sources that look like sources: it knows a handful of
rules, and reports every rule that a comment asks for where the configuration has it enabled.

- `unbalancedLine?`: the line where the brackets of a source go wrong.
- `importedNames`: the modules that a source imports.
- `requests`: the rules that a source breaks, with their messages and lines.
- `commentEngine`: the engine, whose state is the list of calls it was given.
-/

namespace LayeredLint

namespace CommentEngine

/-! ## Lines and brackets -/

/-- A carriage return and a line feed are one line end. -/
def joinLineEnds : List Char → List Char
  | '\r' :: '\n' :: rest => '\n' :: joinLineEnds rest
  | c :: rest => c :: joinLineEnds rest
  | [] => []

/-- The lines of a source. What stands behind the last line end is a line unless it is empty. -/
def sourceLines (cs : List Char) : List (List Char) :=
  let lines := Text.splitLines (joinLineEnds cs)
  if lines.getLast? = some [] then lines.dropLast else lines

/-- The bracket that a closing one belongs to. -/
def opening? : Char → Option Char
  | ')' => some '('
  | ']' => some '['
  | '}' => some '{'
  | _ => none

/-- The open brackets after a line, the innermost first, unless one is closed that is not open. -/
def openAfter (stack : List Char) : List Char → Option (List Char)
  | [] => some stack
  | c :: rest =>
    if c ∈ ['(', '[', '{'] then openAfter (c :: stack) rest
    else
      match opening? c, stack with
      | none, _ => openAfter stack rest
      | some _, [] => none
      | some o, top :: below => if top = o then openAfter below rest else none

/-- The line where brackets go wrong, given the open ones and the number of lines in all. -/
def unbalancedFrom (count : Nat) (stack : List Char) : List (List Char × Nat) → Option Nat
  | [] => if stack.isEmpty then none else some (max count 1)
  | (line, n) :: rest =>
    match openAfter stack line with
    | none => some n
    | some stack => unbalancedFrom count stack rest

/-- The line where the brackets of a source go wrong: where one is closed that is not open, or the
last one, where some are left open. -/
def unbalancedLine? (cs : List Char) : Option Nat :=
  let lines := sourceLines cs
  unbalancedFrom lines.length [] (lines.zipIdx 1)

/-! ## Words in a source -/

/-- What stands behind a word that a text starts with. -/
def behind? (word : String) (cs : List Char) : Option (List Char) :=
  if word.toList.isPrefixOf cs then some (cs.drop word.length) else none

/-- What stands behind a blank that a text starts with. -/
def behindBlank? : List Char → Option (List Char)
  | c :: rest => if Text.isBlank c then some rest else none
  | [] => none

/-- A text in quotes at the start, and what stands behind it. Either quote closes. -/
def quoted? : List Char → Option (String × List Char)
  | [] => none
  | c :: rest =>
    let isQuote := fun c => c = '"' || c = '\''
    let name := rest.takeWhile fun c => !isQuote c
    match isQuote c, rest.dropWhile fun c => !isQuote c with
    | true, _ :: after => if name.isEmpty then none else some (String.ofList name, after)
    | _, _ => none

/-- The module named by the first `from` on the line that has one behind it. -/
def fromClause? : List Char → Option (String × List Char)
  | [] => none
  | c :: rest =>
    let here := do
      let after ← behind? "from" (c :: rest)
      let after ← behindBlank? after
      quoted? (after.dropWhile Text.isBlank)
    match here with
    | some found => some found
    | none => if c = '\n' then none else fromClause? rest

/-- The module of an import that a text starts with, blanks before it left aside. -/
def import? (cs : List Char) : Option (String × List Char) := do
  let after ← behind? "import" (cs.dropWhile Text.isBlank)
  let after ← behindBlank? after
  fromClause? after

/-- The modules that a source imports, in order. `atStart` says whether a line starts here; at most
`fuel` characters are looked at. -/
def importedFrom : Nat → Bool → List Char → List String
  | 0, _, _ => []
  | _, _, [] => []
  | fuel + 1, atStart, c :: rest =>
    match if atStart then import? (c :: rest) else none with
    | some (name, after) => name :: importedFrom fuel false after
    | none => importedFrom fuel (c = '\n') rest

/-- The modules that a source imports, in order. -/
def importedNames (cs : List Char) : List String :=
  importedFrom cs.length true cs

/-- A line declares a variable that may be assigned again. -/
def declaresLet (line : List Char) : Bool :=
  ((behind? "let" (line.dropWhile Text.isBlank)).bind behindBlank?).isSome

/-- The rule that a comment at the start of a text asks for, and what stands behind it. -/
def trigger? (cs : List Char) : Option (String × List Char) := do
  let after ← behind? "//" cs
  let after ← behind? "trigger:" (after.dropWhile Text.isBlank)
  let after := after.dropWhile Text.isBlank
  let rule := after.takeWhile fun c => !Text.isBlank c
  if rule.isEmpty then none
  else some (String.ofList rule, after.dropWhile fun c => !Text.isBlank c)

/-- The rules that the comments of a line ask for; at most `fuel` characters are looked at. -/
def triggersFrom : Nat → List Char → List String
  | 0, _ => []
  | _, [] => []
  | fuel + 1, c :: rest =>
    match trigger? (c :: rest) with
    | some (rule, after) => rule :: triggersFrom fuel after
    | none => triggersFrom fuel rest

/-! ## Reporting -/

/-- A rule that a source breaks. -/
structure Request where
  rule : String
  message : String
  line : Nat
  deriving DecidableEq, Repr

/-- The rules that a line breaks. -/
def lineRequests (e : List Char × Nat) : List Request :=
  let (line, n) := e
  let declared : List Request :=
    if declaresLet line then [⟨"functional/no-let", "Unexpected let, use const instead.", n⟩]
    else []
  declared ++ (triggersFrom line.length line).map fun rule => ⟨rule, "triggered " ++ rule, n⟩

/-- The rules that a source breaks, its imports first. -/
def requests (cs : List Char) : List Request :=
  let imports : List Request :=
    if (importedNames cs).Pairwise (· ≤ ·) then []
    else [⟨"simple-import-sort/imports", "Run autofix to sort these imports!", 1⟩]
  imports ++ ((sourceLines cs).zipIdx 1).flatMap lineRequests

/-- The diagnostic of a rule, if the configuration has it enabled. -/
def answer? (c : EffectiveConfiguration) (r : Request) : Option Diagnostic := do
  let setting ← c.rules.find? (.text r.rule)
  let severity ← diagnosticSeverity? setting.severity
  return {
    ruleId := some r.rule
    severity := severity
    message := Text.stripText r.message
    line := some r.line
    column := some 1 }

/-- What a source makes the engine report under a configuration: that it cannot be parsed, or the
rules it breaks. -/
def diagnostics (call : Call) : List Diagnostic :=
  match unbalancedLine? call.source.toList with
  | some line => [Diagnostic.parseFailure "Parsing error: unexpected end of input" (some line) (some 1)]
  | none => (requests call.source.toList).filterMap (answer? call.configuration)

end CommentEngine

/-- The engine that reports what a source asks for, and remembers its calls in order. -/
def commentEngine : Engine (List Call) where
  analyze call calls := (.ok (CommentEngine.diagnostics call), calls ++ [call])

end LayeredLint
