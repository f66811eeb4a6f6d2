import LayeredLint.FlatConfig
import LayeredLint.Record.Field

/-!
# The packaging preset

- `PackagingTarget`: one output of a package, a library or a program for the command line.
- `PackagingPreset`: the targets of a package.
- `PackagingPreset.shipped`: the targets that come with the library.
- `PackagingPreset.payload`: a preset as the packager reads it.
-/

namespace LayeredLint

open Record

/-- One output of a package. -/
structure PackagingTarget where
  entry : List String
  format : List String := ["esm"]
  dts : Bool := false
  clean : Bool := false
  outDir : String := "dist"
  splitting : Bool := false
  sourcemap : Bool := false
  minify : Bool := false
  bundle : Bool := false
  skipNodeModulesBundle : Bool := true
  target : String := "es2022"
  outExtension : String := ".js"
  /-- The first line of the output, if there is a special one. -/
  banner : Option String := none
  deriving DecidableEq, Repr

namespace PackagingTarget

/-- A program for the command line: its first line names an interpreter. -/
def executable (t : PackagingTarget) : Bool :=
  t.banner.any fun banner => "#!".toList.isPrefixOf banner.toList

/-- The target of a table. -/
def ofEntries (entries : List (Value × Value)) : Checked PackagingTarget :=
  let defaults : PackagingTarget := { entry := [] }
  let flag (name : FieldName) (default : Bool) : Checked Bool :=
    field entries name boolOfValue default
  let text (name : FieldName) (default : String) : Checked String :=
    field entries name textOfValue default
  let build : Checked (List String → List String → Bool → Bool → String → Bool → Bool → Bool →
    Bool → Bool → String → String → Option String → PackagingTarget) := .ok PackagingTarget.mk
  let build := build.apply (requiredField entries (.plain "entry") textsOfValue)
  let build := build.apply (field entries (.plain "format") textsOfValue defaults.format)
  let build := build.apply (flag (.plain "dts") defaults.dts)
  let build := build.apply (flag (.plain "clean") defaults.clean)
  let build := build.apply (text ⟨"outDir", "out_dir"⟩ defaults.outDir)
  let build := build.apply (flag (.plain "splitting") defaults.splitting)
  let build := build.apply (flag (.plain "sourcemap") defaults.sourcemap)
  let build := build.apply (flag (.plain "minify") defaults.minify)
  let build := build.apply (flag (.plain "bundle") defaults.bundle)
  let build := build.apply
    (flag ⟨"skipNodeModulesBundle", "skip_node_modules_bundle"⟩ defaults.skipNodeModulesBundle)
  let build := build.apply (text (.plain "target") defaults.target)
  let build := build.apply (text ⟨"outExtension", "out_extension"⟩ defaults.outExtension)
  build.apply (field entries (.plain "banner") (optional textOfValue) defaults.banner)

/-- The target as the packager reads it; without a banner it has no such member. -/
def payload (t : PackagingTarget) : Value :=
  record
    ([("entry", textList t.entry), ("format", textList t.format), ("dts", .bool t.dts),
      ("clean", .bool t.clean), ("outDir", .str t.outDir), ("splitting", .bool t.splitting),
      ("sourcemap", .bool t.sourcemap), ("minify", .bool t.minify), ("bundle", .bool t.bundle),
      ("skipNodeModulesBundle", .bool t.skipNodeModulesBundle), ("target", .str t.target),
      ("outExtension", .str t.outExtension)] ++
      t.banner.toList.map fun banner => ("banner", .str banner))

end PackagingTarget

/-- The targets of a package. -/
structure PackagingPreset where
  targets : List PackagingTarget
  deriving DecidableEq, Repr

namespace PackagingPreset

/-- The preset of a table. -/
def ofEntries (entries : List (Value × Value)) : Checked PackagingPreset :=
  PackagingPreset.mk <$> requiredField entries (.plain "targets")
    (itemsOfValue (recordOfValue PackagingTarget.ofEntries))

/-- The preset of a record. -/
def ofRecord (v : Value) : Except Failure PackagingPreset :=
  (recordOfValue ofEntries v).mapError .validation

/-- The targets that are no programs. -/
def libraryTargets (p : PackagingPreset) : List PackagingTarget :=
  p.targets.filter fun t => !t.executable

/-- The targets that are programs. -/
def programTargets (p : PackagingPreset) : List PackagingTarget :=
  p.targets.filter PackagingTarget.executable

/-- The first line of a program. -/
def programBanner : String := "#!/usr/bin/env node"

/-- The targets that come with the library: shared configurations, and a program. -/
def shipped : PackagingPreset where
  targets :=
    [{ entry := ["src/tsup.config.base.ts", "src/vitest.config.base.ts"], clean := true },
     { entry := ["src/cli.ts"], banner := some programBanner }]

/-- The preset as the packager reads it. -/
def payload (p : PackagingPreset) : Value :=
  record [("targets", .list (p.targets.map PackagingTarget.payload))]

end PackagingPreset

end LayeredLint
