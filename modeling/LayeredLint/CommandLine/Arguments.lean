/-!
# Arguments of a command line

Arguments that start with a hyphen are options, the others are positional.

- `OptionSpec`: an option, with a long and perhaps a short name.
- `Arguments`: the options and the positional arguments of a command line.
- `readArguments?`: the arguments of a line, none where it is not understood.
-/

namespace LayeredLint.CommandLine

/-- An option: its long name with both hyphens, its short one without, and whether it has a
value. -/
structure OptionSpec where
  name : String
  short : Option Char := none
  takesValue : Bool := false
  deriving DecidableEq, Repr

/-- The options that were given, each with its value, and the positional arguments. The value of a
flag is empty. -/
structure Arguments where
  options : List (String × String) := []
  positional : List String := []
  deriving DecidableEq, Repr

namespace Arguments

/-- A flag was given. -/
def has (a : Arguments) (name : String) : Bool :=
  a.options.any fun e => e.1 = name

/-- The value of an option; the last one given counts. -/
def value? (a : Arguments) (name : String) : Option String :=
  (a.options.reverse.find? fun e => e.1 = name).map Prod.snd

/-- More options in front. -/
def withOptions (options : List (String × String)) (a : Arguments) : Arguments :=
  { a with options := options ++ a.options }

/-- One more positional argument in front. -/
def withPositional (argument : String) (a : Arguments) : Arguments :=
  { a with positional := argument :: a.positional }

end Arguments

/-! ## One option -/

/-- What an argument says: options with their values, and the name of one whose value is the next
argument. -/
structure Reading where
  options : List (String × String) := []
  awaiting : Option String := none
  deriving DecidableEq, Repr

/-- The name and the value of a long option; the value stands after an equals sign. -/
def splitLong (cs : List Char) : String × Option String :=
  let name := String.ofList (cs.takeWhile (· ≠ '='))
  match cs.dropWhile (· ≠ '=') with
  | [] => (name, none)
  | _ :: value => (name, some (String.ofList value))

/-- An argument that starts with two hyphens. -/
def readLong? (specs : List OptionSpec) (cs : List Char) : Option Reading := do
  let (name, value) := splitLong cs
  let spec ← specs.find? fun s => s.name = name
  match spec.takesValue, value with
  | true, some value => some { options := [(spec.name, value)] }
  | true, none => some { awaiting := some spec.name }
  | false, none => some { options := [(spec.name, "")] }
  | false, some _ => none

/-- The letters of an argument that starts with one hyphen. The rest of the argument is the value of
the first option that takes one. -/
def readShort? (specs : List OptionSpec) : List Char → Option Reading
  | [] => some {}
  | c :: rest => do
    let spec ← specs.find? fun s => s.short = some c
    if spec.takesValue then
      if rest.isEmpty then some { awaiting := some spec.name }
      else some { options := [(spec.name, String.ofList rest)] }
    else
      let reading ← readShort? specs rest
      some { reading with options := (spec.name, "") :: reading.options }

/-- An argument that is an option: a hyphen alone is not. -/
def isOption : List Char → Bool
  | '-' :: _ :: _ => true
  | _ => false

/-- An argument that is an option. -/
def readOption? (specs : List OptionSpec) (cs : List Char) : Option Reading :=
  match cs with
  | '-' :: '-' :: _ => readLong? specs cs
  | _ => readShort? specs (cs.drop 1)

/-! ## All arguments -/

/-- The arguments of a line. After two hyphens alone everything is positional; where positional
arguments end the options, everything from the first of them on is, too. -/
def readArguments? (specs : List OptionSpec) (interspersed : Bool) :
    List String → Option Arguments
  | [] => some {}
  | argument :: rest =>
    if argument = "--" then some { positional := rest }
    else if isOption argument.toList then
      match readOption? specs argument.toList, rest with
      | none, _ => none
      | some ⟨options, none⟩, rest =>
        (readArguments? specs interspersed rest).map (·.withOptions options)
      | some ⟨_, some _⟩, [] => none
      | some ⟨options, some name⟩, value :: rest =>
        (readArguments? specs interspersed rest).map (·.withOptions (options ++ [(name, value)]))
    else if interspersed then
      (readArguments? specs interspersed rest).map (·.withPositional argument)
    else some { positional := argument :: rest }

end LayeredLint.CommandLine
