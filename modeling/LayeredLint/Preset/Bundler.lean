import LayeredLint.FlatConfig
import LayeredLint.Path.Resolution
import LayeredLint.Record.Field

/-!
# The bundler preset

- `BundlerBuild`, `BundlerPreset`: how an application of one page is built, and short names for
  paths in its sources.
- `BundlerPreset.ofRecord`: a preset from a record.
- `BundlerPreset.forDirectory`: the preset of a project.
- `BundlerPreset.payload`: a preset as the bundler reads it.
-/

namespace LayeredLint

open Record

/-- How an application is built. -/
structure BundlerBuild where
  outDir : String := "dist"
  sourcemap : Bool := true
  target : String := "es2020"
  minify : Bool := false
  deriving DecidableEq, Repr

namespace BundlerBuild

/-- The build options of a table. -/
def ofEntries (entries : List (Value × Value)) : Checked BundlerBuild :=
  let defaults : BundlerBuild := {}
  let build : Checked (String → Bool → String → Bool → BundlerBuild) := .ok BundlerBuild.mk
  let build := build.apply (field entries ⟨"outDir", "out_dir"⟩ textOfValue defaults.outDir)
  let build := build.apply (field entries (.plain "sourcemap") boolOfValue defaults.sourcemap)
  let build := build.apply (field entries (.plain "target") textOfValue defaults.target)
  build.apply (field entries (.plain "minify") boolOfValue defaults.minify)

/-- The build options as the bundler reads them. -/
def payload (b : BundlerBuild) : Value :=
  record
    [("outDir", .str b.outDir), ("sourcemap", .bool b.sourcemap), ("target", .str b.target),
      ("minify", .bool b.minify)]

end BundlerBuild

/-- Build options, and short names for paths. -/
structure BundlerPreset where
  build : BundlerBuild := {}
  shortNames : Table String String := .empty

namespace BundlerPreset

/-- The preset of a table. -/
def ofEntries (entries : List (Value × Value)) : Checked BundlerPreset :=
  let build : Checked (BundlerBuild → Table String String → BundlerPreset) := .ok BundlerPreset.mk
  let build := build.apply
    (field entries (.plain "build") (recordOfValue BundlerBuild.ofEntries) {})
  build.apply (field entries (.plain "alias") textTableOfValue .empty)

/-- The preset of a record. -/
def ofRecord (v : Value) : Except Failure BundlerPreset :=
  (recordOfValue ofEntries v).mapError .validation

/-- The preset of a project at a directory: `@` stands for its sources, and what goes into
production is made small. -/
def forDirectory (directory : Path) (env : Table String String) : Except Failure BundlerPreset := do
  let sources ← (directory.join (.ofString "src")).resolved
  return {
    build := { minify := env.find? "NODE_ENV" = some "production" }
    shortNames := .ofList [("@", sources.toString)] }

/-- The preset as the bundler reads it. -/
def payload (p : BundlerPreset) : Value :=
  record
    [("build", p.build.payload),
      ("resolve", record
        [("alias", record (p.shortNames.entries.map fun e => (e.1, .str e.2)))])]

end BundlerPreset

end LayeredLint
