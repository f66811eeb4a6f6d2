import LayeredLint.FlatConfig
import LayeredLint.Record.Field

/-!
# Formatter options

- `FormatterOptions`: the options that projects share.
- `FormatterOptions.ofRecord`: options from a record.
- `FormatterOptions.payload`: options as the formatter reads them.
-/

namespace LayeredLint

/-- The options of the formatter that projects share. -/
structure FormatterOptions where
  semi : Bool := false
  trailingComma : String := "all"
  singleQuote : Bool := false
  printWidth : Int := 120
  tabWidth : Int := 2
  endOfLine : String := "auto"
  deriving DecidableEq, Repr

namespace FormatterOptions

open Record

/-- Where a comma may follow the last of several items. -/
def trailingCommas : List String := ["all", "es5", "none"]

/-- How a line may end. -/
def lineEnds : List String := ["auto", "lf", "crlf", "cr"]

/-- The options of a table. -/
def ofEntries (entries : List (Value × Value)) : Checked FormatterOptions :=
  let defaults : FormatterOptions := {}
  let build : Checked (Bool → String → Bool → Int → Int → String → FormatterOptions) :=
    .ok FormatterOptions.mk
  let build := build.apply (field entries (.plain "semi") boolOfValue defaults.semi)
  let build := build.apply (field entries ⟨"trailingComma", "trailing_comma"⟩
    (wordOfValue trailingCommas) defaults.trailingComma)
  let build := build.apply
    (field entries ⟨"singleQuote", "single_quote"⟩ boolOfValue defaults.singleQuote)
  let build := build.apply
    (field entries ⟨"printWidth", "print_width"⟩ intOfValue defaults.printWidth)
  let build := build.apply (field entries ⟨"tabWidth", "tab_width"⟩ intOfValue defaults.tabWidth)
  build.apply (field entries ⟨"endOfLine", "end_of_line"⟩ (wordOfValue lineEnds) defaults.endOfLine)

/-- The options of a record. -/
def ofRecord (v : Value) : Except Failure FormatterOptions :=
  (recordOfValue ofEntries v).mapError .validation

/-- The options as the formatter reads them. -/
def payload (o : FormatterOptions) : Value :=
  record
    [("semi", .bool o.semi), ("trailingComma", .str o.trailingComma),
      ("singleQuote", .bool o.singleQuote), ("printWidth", .int o.printWidth),
      ("tabWidth", .int o.tabWidth), ("endOfLine", .str o.endOfLine)]

end FormatterOptions

end LayeredLint
