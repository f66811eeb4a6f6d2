import LayeredLint.Failure
import LayeredLint.Value.Equality

/-!
# Language options

- `LanguageOptions`: globals, language version, source type, parser and parser options.
- `LanguageOptions.make`: the options for raw parts, or what is wrong with them.
- `LanguageOptions.parts`: the parts that options can be made from again.
- `LanguageOptions.isEmpty`: no option is set.
- `mergeEntries`: tables inside parser options are merged key by key, anything else is replaced.
- `LanguageOptions.merge`: options merged in order.
-/

namespace LayeredLint

/-- Options of the language and its parser. A null version or parser is unset; what else stands
there is not checked. -/
structure LanguageOptions where
  globals : Table Value GlobalAccess := .empty
  ecmaVersion : Value := .null
  sourceType : Option SourceType := none
  parser : Value := .null
  parserOptions : List (Value × Value) := []
  deriving DecidableEq

/-- The parts of language options as they are given. -/
structure RawLanguage where
  globals : Value := .dict []
  ecmaVersion : Value := .null
  sourceType : Value := .null
  parser : Value := .null
  parserOptions : Value := .dict []

namespace LanguageOptions

/-- No option is set. -/
def isEmpty (o : LanguageOptions) : Bool :=
  o.globals.isEmpty && o.ecmaVersion = .null && o.sourceType.isNone && o.parser = .null &&
    o.parserOptions.isEmpty

/-! ## Construction -/

/-- The access of one global: a word, or whether the global may be written. -/
def accessOfValue (identifier : Value) : Value → Except Failure GlobalAccess
  | .bool writable => .ok (if writable then .writable else .readonly)
  | v =>
    match v.text?.bind GlobalAccess.ofWord? with
    | some access => .ok access
    | none => invalid (.globalAccess identifier v)

/-- The accesses of a list of globals, the first fault first. -/
def accesses : List (Value × Value) → Except Failure (List (Value × GlobalAccess))
  | [] => .ok []
  | (identifier, v) :: rest => do
    let access ← accessOfValue identifier v
    let others ← accesses rest
    return (identifier, access) :: others

/-- The globals of a table. -/
def globalsOfValue : Value → Except Failure (Table Value GlobalAccess)
  | .dict entries => Table.ofList <$> accesses entries
  | _ => invalid .globalsKind

/-- The parser options of a table, as a copy of their own. -/
def parserOptionsOfValue : Value → Except Failure (List (Value × Value))
  | .dict entries =>
    if Value.copyableEntries entries then .ok entries else impossible .uncopyable
  | _ => invalid .parserOptionsKind

/-- The source type of a word, or none. -/
def sourceTypeOfValue : Value → Except Failure (Option SourceType)
  | .null => .ok none
  | .str s =>
    match SourceType.ofWord? s with
    | some sourceType => .ok (some sourceType)
    | none => invalid (.sourceType (.str s))
  | v => invalid (.sourceType v)

/-- The options for raw parts: the globals are looked at first, then the parser options, then the
source type. -/
def make (raw : RawLanguage) : Except Failure LanguageOptions := do
  let globals ← globalsOfValue raw.globals
  let parserOptions ← parserOptionsOfValue raw.parserOptions
  let sourceType ← sourceTypeOfValue raw.sourceType
  return ⟨globals, raw.ecmaVersion, sourceType, raw.parser, parserOptions⟩

/-- The parts of language options, from which they can be made again. -/
def parts (o : LanguageOptions) : RawLanguage where
  globals := .dict (o.globals.entries.map fun e => (e.1, .str e.2.word))
  ecmaVersion := o.ecmaVersion
  sourceType := (o.sourceType.map fun t => Value.str t.word).getD .null
  parser := o.parser
  parserOptions := .dict o.parserOptions

/-! ## Embedding -/

/-- The value that embeds language options. -/
def toValue (o : LanguageOptions) : Value :=
  .language o.globals.entries o.ecmaVersion o.sourceType o.parser o.parserOptions

/-- The language options that a value embeds. -/
def ofValue? : Value → Option LanguageOptions
  | .language globals ecmaVersion sourceType parser parserOptions =>
    some ⟨Table.ofList globals, ecmaVersion, sourceType, parser, parserOptions⟩
  | _ => none

/-- The description of the parser, null where there is none. -/
def describeParser (o : LanguageOptions) : Except Failure Value :=
  match o.parser with
  | .null => .ok .null
  | .module ref => .ok (.str ref.describe)
  | .handle plugin => .ok (.str plugin.describe)
  | _ => impossible .wrongObject

/-- Options are equal when all their parts are. -/
def equal (a b : LanguageOptions) : Bool :=
  Value.equal a.toValue b.toValue

end LanguageOptions

/-! ## Merging -/

mutual

/-- Merge the entries of `update` into `target`, one after another. -/
def mergeEntries (target : List (Value × Value)) : List (Value × Value) → List (Value × Value)
  | [] => target
  | (k, v) :: rest =>
    mergeEntries (Entries.insert k (mergeValue (Entries.find? k target) v) target) rest

/-- What stands for a key after an update: two tables are merged, else the new value stands. -/
def mergeValue (current : Option Value) : Value → Value
  | .dict update =>
    match current with
    | some (.dict entries) => .dict (mergeEntries entries update)
    | _ => .dict update
  | v => v

end

namespace LanguageOptions

/-- The later value, unless it is unset. -/
def orElse (earlier later : Value) : Value :=
  if later = .null then earlier else later

/-- Set the options of `later` on top of those of `o`. -/
def mergeOne (o later : LanguageOptions) : LanguageOptions where
  globals := o.globals.union later.globals
  ecmaVersion := orElse o.ecmaVersion later.ecmaVersion
  sourceType := later.sourceType <|> o.sourceType
  parser := orElse o.parser later.parser
  parserOptions := mergeEntries o.parserOptions later.parserOptions

/-- Options merged in order: globals are joined, parser options merged, and of every other part the
last one set stands. -/
def merge (options : List LanguageOptions) : LanguageOptions :=
  options.foldl mergeOne {}

end LanguageOptions

end LayeredLint
