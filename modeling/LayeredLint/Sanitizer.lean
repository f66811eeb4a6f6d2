import LayeredLint.Composition
import LayeredLint.Filename

/-!
# Sanitizing

A single source is verified without the types of a whole program. So a configuration is sanitized
first: no fragment asks for type information any more, and a last fragment switches every rule off
that needs it.

- `Sanitizer.typeAwareRules`: rules known to need type information.
- `disabledRules`: these, and the rules that the plugins of a configuration declare.
- `Sanitizer.stripped`: a fragment that does not ask for type information.
- `sanitize`: the sanitized configuration; `sanitizeLogged` also gives what is logged on the way.
-/

namespace LayeredLint

namespace Sanitizer

/-- Rules known to need type information, sorted. -/
def typeAwareRules : List String :=
  ["@typescript-eslint/await-thenable", "@typescript-eslint/no-floating-promises",
   "@typescript-eslint/no-misused-promises", "@typescript-eslint/no-unnecessary-condition",
   "@typescript-eslint/prefer-nullish-coalescing", "@typescript-eslint/prefer-optional-chain",
   "@typescript-eslint/require-await", "@typescript-eslint/strict-boolean-expressions",
   "@typescript-eslint/switch-exhaustiveness-check", "functional/immutable-data",
   "functional/prefer-immutable-types"]

/-- Parser options that ask for type information. -/
def typeInformationOptions : List String :=
  ["project", "projectService", "programs"]

/-- The name of the fragment that switches rules off. -/
def fragmentName : String := "harness/type-aware-off"

/-- The files of that fragment: every name that is verified matches one of the patterns. -/
def files : List String :=
  Filename.extensions.map ("**/*" ++ ·)

/-! ## Type information -/

/-- A parser option that asks for type information. -/
def asksForTypes (key : Value) : Bool :=
  typeInformationOptions.any fun option => same (Value.str option) key

/-- The entries of parser options that do not ask for type information. -/
def keptEntries (entries : List (Value × Value)) : List (Value × Value) :=
  entries.filter fun e => !asksForTypes e.1

/-- Language options made again without the parser options that ask for type information. -/
def strippedOptions (o : LanguageOptions) : Except Failure LanguageOptions :=
  LanguageOptions.make { o.parts with parserOptions := .dict (keptEntries o.parserOptions) }

/-- Whether a fragment asks for type information. -/
def needsStripping (f : Fragment) : Bool :=
  f.languageOptions.any fun o => o.parserOptions.any fun e => asksForTypes e.1

/-- A fragment without the parser options that ask for type information. One that has some of them
is made again, with the checks of a fragment. -/
def stripped (f : Fragment) : Except Failure Fragment :=
  match f.languageOptions with
  | none => .ok f
  | some options =>
    if needsStripping f then do
      let kept ← strippedOptions options
      Fragment.make { f.parts with languageOptions := kept.toValue }
    else .ok f

/-! ## The last fragment -/

/-- The fragment that switches rules off. A rule id must not be empty. -/
def offFragment (rules : List String) : Except Failure Fragment :=
  Fragment.make
    { name := .str fragmentName
      files := .tuple (files.map .str)
      rules := .dict (rules.map fun rule => (.str rule, RuleSetting.off.toValue)) }

/-- What is logged for the fragments that are stripped. -/
def strippingLog (fragments : List Fragment) : List LogEntry :=
  (fragments.filter needsStripping).map fun f =>
    ⟨.debug, "stripping type-information parser options from " ++ f.name.display⟩

end Sanitizer

/-- The rules that are switched off for a configuration, sorted. -/
def disabledRules (c : EffectiveConfiguration) : List String :=
  Text.sortedSet (Sanitizer.typeAwareRules ++ c.typeAwareRules)

/-- The fragments of a sanitized configuration. -/
def sanitizedFragments (c : EffectiveConfiguration) : Except Failure (List Fragment) := do
  let stripped ← c.fragments.mapM Sanitizer.stripped
  let last ← Sanitizer.offFragment (disabledRules c)
  return stripped ++ [last]

/-- The sanitized configuration, and what is logged on the way. -/
def sanitizeLogged (c : EffectiveConfiguration) :
    Except Failure (EffectiveConfiguration × List LogEntry) := do
  let fragments ← sanitizedFragments c
  let count := toString (disabledRules c).length
  return (flatten fragments,
    Sanitizer.strippingLog c.fragments ++
      ⟨.debug, "sanitised configuration: " ++ count ++ " type-aware rules disabled"⟩ ::
      compositionLog fragments)

/-- A configuration that can be applied to a source without type information. -/
def sanitize (c : EffectiveConfiguration) : Except Failure EffectiveConfiguration :=
  flatten <$> sanitizedFragments c

end LayeredLint
