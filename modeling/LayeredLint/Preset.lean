import LayeredLint.Preset.Bundler
import LayeredLint.Preset.Formatter
import LayeredLint.Preset.Packaging

/-!
# Presets

Options for tools that stand beside the linter. They are handed on as they are.

- `Preset`: the presets, each with a name and a description.
- `Preset.payload`: what is handed on.
-/

namespace LayeredLint

/-- The presets. -/
inductive Preset where
  | prettier
  | bundler
  | packaging
  deriving DecidableEq, Repr

namespace Preset

/-- The presets in the order they are listed. -/
def all : List Preset := [.prettier, .bundler, .packaging]

/-- The name of a preset. -/
def name : Preset → String
  | .prettier => "prettier"
  | .bundler => "bundler"
  | .packaging => "packaging"

/-- What a preset is for. -/
def description : Preset → String
  | .prettier => "formatter options"
  | .bundler => "single-page application bundler preset"
  | .packaging => "library and command-line packaging preset"

/-- The preset of a name. -/
def ofName (s : String) : Except Failure Preset :=
  match all.find? fun p => p.name = s with
  | some p => .ok p
  | none => invalid (.unknownPreset s)

/-- What is handed on for a project at a directory. -/
def payload (p : Preset) (directory : Path) (env : Table String String) : Except Failure Value :=
  match p with
  | .prettier => .ok (FormatterOptions.payload {})
  | .bundler => BundlerPreset.payload <$> BundlerPreset.forDirectory directory env
  | .packaging => .ok PackagingPreset.shipped.payload

end Preset

end LayeredLint
