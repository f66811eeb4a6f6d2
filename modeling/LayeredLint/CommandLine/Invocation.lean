import LayeredLint.CommandLine.Arguments
import LayeredLint.Console
import LayeredLint.Path.Resolution

/-!
# Invocations

- `Command`: what can be asked for on the command line.
- `Invocation`: a command, with how its output should look.
- `Misuse`: why a line stands for no invocation.
- `Invocation.ofArguments`: the invocation of a line.
-/

namespace LayeredLint.CommandLine

/-- What can be asked for. -/
inductive Command where
  /-- List the layers with their sizes. -/
  | layers
  /-- Show the rules of a layer, or every assignment of one. -/
  | rules (layer : String) (trace includeOff : Bool)
  /-- Check that each layer extends its parent. -/
  | check (strict : Bool)
  /-- Print a layer for the linter, or as data. -/
  | export (layer format : String)
  /-- Verify a file under a layer. -/
  | verify (layer path : String) (root : Option String)
  /-- Print a preset as data. -/
  | preset (name : String)
  /-- Say how the program is used. -/
  | help
  deriving DecidableEq, Repr

/-- A command, with how its output should look. -/
structure Invocation where
  look : Look := {}
  command : Command
  deriving DecidableEq, Repr

/-- The option that every command has. -/
def helpOption : OptionSpec := { name := "--help" }

/-- The options before the command. -/
def commonOptions : List OptionSpec :=
  [{ name := "--no-color" }, { name := "--no-emoji" }, { name := "--verbose", short := some 'v' },
   helpOption]

/-- The options of each command. -/
def optionsOf? : String → Option (List OptionSpec)
  | "layers" => some [helpOption]
  | "show" => some [{ name := "--trace" }, { name := "--include-off" }, helpOption]
  | "check" => some [{ name := "--strict" }, helpOption]
  | "export" => some [{ name := "--format", short := some 'f', takesValue := true }, helpOption]
  | "verify" => some [{ name := "--root", takesValue := true }, helpOption]
  | "preset" => some [helpOption]
  | _ => none

/-- Why a line stands for no invocation. -/
inductive Misuse where
  /-- The line is not understood. -/
  | unknown
  /-- A path holds a null character. -/
  | nullInPath
  deriving DecidableEq, Repr

/-- The arguments of a command that are paths: the value of an option, then a positional one. -/
def pathsOf (word : String) (a : Arguments) : List String :=
  if word = "verify" then (a.value? "--root").toList ++ ((a.positional.drop 1).take 1) else []

/-- The command of a word with its arguments. Paths are looked at before arguments are counted. -/
def commandOf (word : String) (a : Arguments) : Except Misuse Command :=
  if a.has "--help" then .ok .help
  else if (pathsOf word a).any fun path => (Path.ofString path).hasNull then .error .nullInPath
  else
    match word, a.positional with
    | "layers", [] => .ok .layers
    | "show", [layer] => .ok (.rules layer (a.has "--trace") (a.has "--include-off"))
    | "check", [] => .ok (.check (a.has "--strict"))
    | "export", [layer] => .ok (.export layer ((a.value? "--format").getD "js"))
    | "verify", [layer, path] => .ok (.verify layer path (a.value? "--root"))
    | "preset", [name] => .ok (.preset name)
    | _, _ => .error .unknown

/-- What there is, or a line that is not understood. -/
def understood {α : Type} : Option α → Except Misuse α
  | some a => .ok a
  | none => .error .unknown

/-- How output should look. -/
def lookOf (a : Arguments) : Look where
  useColor := !a.has "--no-color"
  useEmoji := !a.has "--no-emoji"

/-- The invocation of a line: common options, a command, and its arguments. -/
def Invocation.ofArguments (line : List String) : Except Misuse Invocation := do
  let common ← understood (readArguments? commonOptions false line)
  let look := lookOf common
  if common.has "--help" then
    return { look := look, command := .help }
  match common.positional with
  | [] => .error .unknown
  | word :: rest =>
    let options ← understood (optionsOf? word)
    let a ← understood (readArguments? options true rest)
    return { look := look, command := ← commandOf word a }

end LayeredLint.CommandLine
