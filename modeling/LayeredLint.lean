import LayeredLint.Binary64.Basic
import LayeredLint.Binary64.Decimal
import LayeredLint.Capability
import LayeredLint.Catalog
import LayeredLint.CommandLine
import LayeredLint.CommandLine.Arguments
import LayeredLint.CommandLine.Invocation
import LayeredLint.Composition
import LayeredLint.Console
import LayeredLint.Console.Markup
import LayeredLint.Console.Table
import LayeredLint.Console.Width
import LayeredLint.Diagnostic
import LayeredLint.EngineSettings
import LayeredLint.Environment
import LayeredLint.Failure
import LayeredLint.Filename
import LayeredLint.FlatConfig
import LayeredLint.Fragment
import LayeredLint.Json.Printer
import LayeredLint.Json.Reader
import LayeredLint.Language
import LayeredLint.Layer
import LayeredLint.LinterEngine
import LayeredLint.Main
import LayeredLint.Name
import LayeredLint.Path
import LayeredLint.Path.Resolution
import LayeredLint.Preset
import LayeredLint.Preset.Bundler
import LayeredLint.Preset.Formatter
import LayeredLint.Preset.Packaging
import LayeredLint.Project
import LayeredLint.Provenance
import LayeredLint.Record.Conversion
import LayeredLint.Record.Field
import LayeredLint.Report
import LayeredLint.Sanitizer
import LayeredLint.ScriptedEngine
import LayeredLint.Setting
import LayeredLint.SettingsFile
import LayeredLint.Severity
import LayeredLint.Table
import LayeredLint.Text.Blank
import LayeredLint.Text.Digit
import LayeredLint.Text.Hex
import LayeredLint.Text.Printable
import LayeredLint.Text.Quoted
import LayeredLint.Text.SortedSet
import LayeredLint.Text.Utf8
import LayeredLint.Text.Words
import LayeredLint.Toml.Document
import LayeredLint.Toml.Number
import LayeredLint.Toml.Reader
import LayeredLint.Toml.Text
import LayeredLint.Value
import LayeredLint.Value.Equality
import LayeredLint.Value.Identity
import LayeredLint.Value.Key
import LayeredLint.Value.Text
import LayeredLint.Verification
import LayeredLint.Workspace
import LayeredLint.Proofs.Composition.Flatten
import LayeredLint.Proofs.Except
import LayeredLint.Proofs.Fragment.Made
import LayeredLint.Proofs.Language.Merge
import LayeredLint.Proofs.Sanitizer.Stripping
import LayeredLint.Proofs.Sanitizer.Effect
import LayeredLint.CommentEngine
import LayeredLint.Proofs.Verification.Reports
import LayeredLint.Proofs.Filename.Coverage
import LayeredLint.Proofs.Layer.Extension
import LayeredLint.Proofs.Sanitizer.Ignores
import LayeredLint.Proofs.Composition.Conflicts
import LayeredLint.Proofs.Sanitizer.Declarations
import LayeredLint.Proofs.Linter.Runs
import LayeredLint.Proofs.CommandLine.Verify
import LayeredLint.Proofs.Linter.Silence
import LayeredLint.Proofs.Provenance.Agreement
import LayeredLint.Proofs.Verification.Batch
import LayeredLint.Proofs.Json.Document
import LayeredLint.Proofs.Json.Scalars
import LayeredLint.Proofs.Json.ReadBack
import LayeredLint.Proofs.FlatConfig.ExportedRules
import LayeredLint.Proofs.FlatConfig.Expressions
import LayeredLint.Proofs.FlatConfig.ModuleText
import LayeredLint.Proofs.FlatConfig.Entries
import LayeredLint.Proofs.FlatConfig.Faithful
import LayeredLint.Proofs.Language.Reordered
import LayeredLint.Proofs.Composition.Prefix
import LayeredLint.Proofs.Composition.Commute
import LayeredLint.Proofs.Workspace.NewFile
import LayeredLint.Proofs.Linter.Launching
import LayeredLint.Proofs.Record.Checked
import LayeredLint.Proofs.Text.Words
import LayeredLint.Proofs.EngineSettings.Fields
import LayeredLint.Proofs.EngineSettings.Assignments
import LayeredLint.Proofs.Composition.Repeat
import LayeredLint.Proofs.Json.Refusals
import LayeredLint.Proofs.Report.Normalised
import LayeredLint.Proofs.Report.Escapes
import LayeredLint.Proofs.Text.Lower
import LayeredLint.Proofs.Text.Utf8
import LayeredLint.Proofs.Setting.Grammar
import LayeredLint.Proofs.Linter.Failing
import LayeredLint.Proofs.Toml.Tables
import LayeredLint.Proofs.Toml.Refusals
import LayeredLint.Proofs.SettingsFile.Reading
import LayeredLint.Proofs.SettingsFile.Override
import LayeredLint.Proofs.Json.Serialisable
import LayeredLint.Proofs.Setting.NormalForm
import LayeredLint.Proofs.Composition.TakeOver
import LayeredLint.Proofs.FlatConfig.References
import LayeredLint.Proofs.FlatConfig.Serialisable
import LayeredLint.Proofs.FlatConfig.Omissions
import LayeredLint.Proofs.FlatConfig.Closed
import LayeredLint.Proofs.Sanitizer.Again
import LayeredLint.Proofs.Filename.Recognised
import LayeredLint.Proofs.Diagnostic.Consistent
import LayeredLint.Proofs.CommandLine.Check
import LayeredLint.Proofs.CommandLine.ExitStatus
import LayeredLint.Proofs.Json.OneLine
import LayeredLint.Proofs.FlatConfig.ObjectText
import LayeredLint.Proofs.FlatConfig.Lines
