import LayeredLint.Composition
import LayeredLint.Environment

/-!
# The catalog

The fragments that the layers are put together from.

- `Catalog`: the fragments by their part in the layers.
- `Catalog.shipped`: the fragments that come with the library.
-/

namespace LayeredLint

/-- The fragments that the layers are put together from. -/
structure Catalog where
  /-- Files that no layer looks at. -/
  sharedIgnores : Fragment
  /-- The recommended rules of the core. -/
  coreRecommended : Fragment
  /-- Parser, plugin and rules for typed sources. -/
  typedLanguage : List Fragment
  /-- The formatter as a plugin. -/
  formatting : Fragment
  /-- Import sorting, runtime globals and overrides. -/
  projectDefaults : Fragment
  /-- The purity plugin with its rules. -/
  functionalRules : Fragment
  /-- The plugin of the functional library. -/
  libraryPlugin : Fragment
  /-- The preferences of the functional library. -/
  libraryPreferences : Fragment

namespace Catalog

/-- Rules set to one severity, without options. -/
def allAt (severity : Severity) (rules : List String) : Table Name RuleSetting :=
  .ofList (rules.map fun rule => (.text rule, ⟨severity, []⟩))

/-- Rules with a severity each, without options. -/
def bare (rules : List (String × Severity)) : List (Name × RuleSetting) :=
  rules.map fun e => (.text e.1, ⟨e.2, []⟩)

/-! ## Files and plugins -/

/-- Patterns of the files that no layer looks at. -/
def ignoredFiles : List String :=
  ["**/.gitignore", "**/.eslintignore", "**/node_modules", "**/.DS_Store", "**/dist-ssr",
   "**/*.local", "**/tsconfig.json"]

/-- Patterns of typed sources. -/
def typescriptFiles : List String :=
  ["**/*.ts", "**/*.tsx", "**/*.mts", "**/*.cts"]

/-- The plugin of the typed language. -/
def typescriptPlugin : PluginHandle :=
  .of ⟨"typescript-eslint", some "plugin", by decide⟩ typescriptTypeAware
where
  /-- The rules of the plugin that need type information. -/
  typescriptTypeAware : List String :=
    ["@typescript-eslint/await-thenable", "@typescript-eslint/no-floating-promises",
     "@typescript-eslint/no-misused-promises", "@typescript-eslint/no-unnecessary-condition",
     "@typescript-eslint/no-unsafe-argument", "@typescript-eslint/no-unsafe-assignment",
     "@typescript-eslint/no-unsafe-call", "@typescript-eslint/no-unsafe-member-access",
     "@typescript-eslint/no-unsafe-return", "@typescript-eslint/prefer-nullish-coalescing",
     "@typescript-eslint/prefer-optional-chain", "@typescript-eslint/require-await",
     "@typescript-eslint/restrict-template-expressions",
     "@typescript-eslint/strict-boolean-expressions",
     "@typescript-eslint/switch-exhaustiveness-check"]

/-- The purity plugin. -/
def functionalPlugin : PluginHandle :=
  .of { module := "eslint-plugin-functional" }
    ["functional/immutable-data", "functional/prefer-immutable-types",
      "functional/type-declaration-immutability"]

/-! ## Rules -/

/-- The recommended rules of the core, all of them errors. -/
def coreRules : List String :=
  ["constructor-super", "for-direction", "getter-return", "no-async-promise-executor",
   "no-case-declarations", "no-class-assign", "no-compare-neg-zero", "no-cond-assign",
   "no-const-assign", "no-constant-binary-expression", "no-constant-condition",
   "no-control-regex", "no-debugger", "no-delete-var", "no-dupe-args", "no-dupe-class-members",
   "no-dupe-else-if", "no-dupe-keys", "no-duplicate-case", "no-empty", "no-empty-character-class",
   "no-empty-pattern", "no-empty-static-block", "no-ex-assign", "no-extra-boolean-cast",
   "no-fallthrough", "no-func-assign", "no-global-assign", "no-import-assign",
   "no-invalid-regexp", "no-irregular-whitespace", "no-loss-of-precision",
   "no-misleading-character-class", "no-new-native-nonconstructor", "no-nonoctal-decimal-escape",
   "no-obj-calls", "no-octal", "no-prototype-builtins", "no-redeclare", "no-regex-spaces",
   "no-self-assign", "no-setter-return", "no-shadow-restricted-names", "no-sparse-arrays",
   "no-this-before-super", "no-undef", "no-unexpected-multiline", "no-unreachable",
   "no-unsafe-finally", "no-unsafe-negation", "no-unsafe-optional-chaining", "no-unused-labels",
   "no-unused-private-class-members", "no-unused-vars", "no-useless-backreference",
   "no-useless-catch", "no-useless-escape", "no-with", "require-yield", "use-isnan",
   "valid-typeof"]

/-- Rules of the core that the type checker covers for typed sources. -/
def typedOverrides : List (String × Severity) :=
  [("constructor-super", .off), ("getter-return", .off), ("no-class-assign", .off),
   ("no-const-assign", .off), ("no-dupe-args", .off), ("no-dupe-class-members", .off),
   ("no-dupe-keys", .off), ("no-func-assign", .off), ("no-import-assign", .off),
   ("no-new-native-nonconstructor", .off), ("no-obj-calls", .off), ("no-redeclare", .off),
   ("no-setter-return", .off), ("no-this-before-super", .off), ("no-undef", .off),
   ("no-unreachable", .off), ("no-unsafe-negation", .off), ("no-var", .error), ("no-with", .off),
   ("prefer-const", .error), ("prefer-rest-params", .error), ("prefer-spread", .error)]

/-- The recommended rules for typed sources. -/
def typedRules : List (String × Severity) :=
  [("@typescript-eslint/ban-ts-comment", .error), ("no-array-constructor", .off),
   ("@typescript-eslint/no-array-constructor", .error),
   ("@typescript-eslint/no-duplicate-enum-values", .error),
   ("@typescript-eslint/no-empty-object-type", .error),
   ("@typescript-eslint/no-explicit-any", .error),
   ("@typescript-eslint/no-extra-non-null-assertion", .error),
   ("@typescript-eslint/no-misused-new", .error), ("@typescript-eslint/no-namespace", .error),
   ("@typescript-eslint/no-non-null-asserted-optional-chain", .error),
   ("@typescript-eslint/no-require-imports", .error),
   ("@typescript-eslint/no-this-alias", .error),
   ("@typescript-eslint/no-unnecessary-type-constraint", .error),
   ("@typescript-eslint/no-unsafe-declaration-merging", .error),
   ("@typescript-eslint/no-unsafe-function-type", .error), ("no-unused-expressions", .off),
   ("@typescript-eslint/no-unused-expressions", .error), ("no-unused-vars", .off),
   ("@typescript-eslint/no-unused-vars", .error),
   ("@typescript-eslint/no-wrapper-object-types", .error),
   ("@typescript-eslint/prefer-as-const", .error),
   ("@typescript-eslint/prefer-namespace-keyword", .error),
   ("@typescript-eslint/triple-slash-reference", .error)]

/-- The rules of the functional layer without options. -/
def functionalRuleList : List (String × Severity) :=
  [("functional/no-let", .error), ("functional/immutable-data", .warn),
   ("functional/no-loop-statements", .warn), ("functional/prefer-immutable-types", .warn),
   ("functional/no-throw-statements", .off), ("functional/functional-parameters", .off),
   ("prefer-const", .error), ("no-var", .error), ("no-param-reassign", .error),
   ("prefer-spread", .error), ("prefer-rest-params", .error), ("object-shorthand", .error),
   ("@typescript-eslint/no-explicit-any", .error),
   ("@typescript-eslint/no-floating-promises", .error),
   ("@typescript-eslint/await-thenable", .error),
   ("@typescript-eslint/no-misused-promises", .error),
   ("@typescript-eslint/require-await", .warn),
   ("@typescript-eslint/prefer-nullish-coalescing", .warn),
   ("@typescript-eslint/prefer-optional-chain", .warn),
   ("@typescript-eslint/no-unnecessary-condition", .warn),
   ("@typescript-eslint/strict-boolean-expressions", .off),
   ("@typescript-eslint/switch-exhaustiveness-check", .error)]

/-- The preferences of the functional library, all of them warnings. -/
def libraryRules : List String :=
  ["functype/prefer-option", "functype/prefer-either", "functype/prefer-fold",
   "functype/prefer-map", "functype/prefer-flatmap", "functype/no-imperative-loops",
   "functype/prefer-do-notation"]

/-! ## The shipped catalog -/

/-- The fragments for typed sources. -/
def typedFragments : List Fragment :=
  [{ name := .str "typescript-eslint/base"
     plugins := .ofList [("@typescript-eslint", typescriptPlugin)]
     languageOptions := some
       { parser := .module ⟨"typescript-eslint", some "parser", by decide⟩
         sourceType := some .module } },
   { name := .str "typescript-eslint/eslint-recommended"
     files := some typescriptFiles
     rules := .ofList (bare typedOverrides) },
   { name := .str "typescript-eslint/recommended"
     rules := .ofList (bare typedRules) }]

/-- The globals of a project that runs in browsers, with modules loaded on demand, and on
servers. -/
def projectGlobals : Table Value GlobalAccess :=
  [Environment.browser, .amd, .node].foldl (fun globals e =>
    globals.assign (e.globals.entries.map fun g => (Value.str g.1, g.2))) .empty

/-- The fragment that closes the base layer. -/
def projectFragment : Fragment where
  name := .str "project/import-sort"
  plugins := .ofList
    [("simple-import-sort", .of { module := "eslint-plugin-simple-import-sort" })]
  languageOptions := some
    { globals := projectGlobals
      ecmaVersion := .int 2020
      sourceType := some .module }
  rules := .ofList
    [("prettier/prettier",
        ⟨.error, [.dict [], .dict [(.str "usePrettierrc", .bool true)]]⟩),
      ("@typescript-eslint/no-unused-vars", .off),
      ("@typescript-eslint/explicit-function-return-type", .off),
      ("simple-import-sort/imports", .error), ("simple-import-sort/exports", .error)]

/-- The fragments that come with the library. -/
def shipped : Catalog where
  sharedIgnores := { name := .str "shared-ignores", ignores := some ignoredFiles }
  coreRecommended := { name := .str "core/recommended", rules := allAt .error coreRules }
  typedLanguage := typedFragments
  formatting :=
    { name := .str "prettier/recommended"
      plugins := .ofList [("prettier", .of { module := "eslint-plugin-prettier" })]
      rules := .ofList (bare
        [("prettier/prettier", .error), ("arrow-body-style", .off),
          ("prefer-arrow-callback", .off)]) }
  projectDefaults := projectFragment
  functionalRules :=
    { name := .str "functional/recommended"
      plugins := .ofList [("functional", functionalPlugin)]
      languageOptions := some { parserOptions := [(.str "projectService", .bool true)] }
      rules := .ofList (bare functionalRuleList ++
        [(.text "@typescript-eslint/consistent-type-imports",
          ⟨.error, [.dict [(.str "prefer", .str "type-imports")]]⟩)]) }
  libraryPlugin :=
    { name := .str "functype/plugin"
      plugins := .ofList [("functype", .of { module := "eslint-plugin-functype" })] }
  libraryPreferences :=
    { name := .str "functype/preferences", rules := allAt .warn libraryRules }

end Catalog

end LayeredLint
