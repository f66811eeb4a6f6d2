import LayeredLint.Catalog

/-!
# Layers

Three layers are shared. Each extends the one below it by appending fragments and removes nothing.

- `Layer`: the layers, each with its parent.
- `LayerSet`: the items of each layer.
- `Catalog.layers`, `Catalog.overridden`: the layers of a catalog, with or without items put in the
  place of some of them.
- `Finding`: one way in which a layer does not extend its parent.
- `LayerSet.checkExtension`: all findings.
-/

namespace LayeredLint

/-- A layer that can be shared. -/
inductive Layer where
  | base
  | functional
  | functionalLibrary
  deriving DecidableEq, Repr

namespace Layer

/-- The layers, each after the one it extends. -/
def all : List Layer := [.base, .functional, .functionalLibrary]

/-- The name of a layer. -/
def name : Layer → String
  | .base => "base"
  | .functional => "functional"
  | .functionalLibrary => "functional-library"

/-- The layer of a name. -/
def ofName (s : String) : Except Failure Layer :=
  match all.find? fun layer => layer.name = s with
  | some layer => .ok layer
  | none => invalid (.unknownLayer s)

/-- The layer that a layer extends. -/
def parent? : Layer → Option Layer
  | .base => none
  | .functional => some .base
  | .functionalLibrary => some .functional

end Layer

/-- The items of each layer, in order. -/
structure LayerSet where
  items : Layer → List Item

namespace Catalog

/-- The fragments that a layer adds to its parent. -/
def own (c : Catalog) : Layer → List Fragment
  | .base =>
    [c.sharedIgnores, c.coreRecommended] ++ c.typedLanguage ++ [c.formatting, c.projectDefaults]
  | .functional => [c.functionalRules]
  | .functionalLibrary => [c.libraryPlugin, c.libraryPreferences]

/-- The layers where other items are put in the place of some layers. A layer without such items
extends its parent, whatever stands in the parent's place. -/
def overridden (c : Catalog) (override? : Layer → Option (List Item)) : LayerSet :=
  let base := (override? .base).getD ((c.own .base).map .fragment)
  let functional := (override? .functional).getD (base ++ (c.own .functional).map .fragment)
  let library :=
    (override? .functionalLibrary).getD (functional ++ (c.own .functionalLibrary).map .fragment)
  { items := fun
      | .base => base
      | .functional => functional
      | .functionalLibrary => library }

/-- The layers of a catalog. -/
def layers (c : Catalog) : LayerSet :=
  c.overridden fun _ => none

end Catalog

namespace LayerSet

/-- The configuration of a layer. -/
def configuration (layers : LayerSet) (layer : Layer) : Except Failure EffectiveConfiguration :=
  compose (layers.items layer)

end LayerSet

/-! ## Extension -/

/-- What is wrong with a layer that should extend its parent. -/
inductive FindingKind where
  /-- The layer does not start with the fragments of its parent. -/
  | notPrefix
  /-- A plugin of the parent is gone. -/
  | missingPlugin
  /-- A rule of the parent is gone. -/
  | missingRule
  /-- A rule that the parent has enabled is switched off, which is allowed. -/
  | narrowedRule
  deriving DecidableEq, Repr

/-- The word for a kind of finding. -/
def FindingKind.word : FindingKind → String
  | .notPrefix => "not-prefix"
  | .missingPlugin => "missing-plugin"
  | .missingRule => "missing-rule"
  | .narrowedRule => "narrowed-rule"

/-- One way in which a layer does not extend its parent. -/
structure Finding where
  kind : FindingKind
  parent : Layer
  child : Layer
  subject : Name
  deriving DecidableEq, Repr

namespace Finding

/-- The finding breaks the extension; a narrowed rule only limits it. -/
def fatal (f : Finding) : Bool :=
  f.kind ≠ .narrowedRule

/-- A finding on one line. -/
def describe (f : Finding) : String :=
  f.child.name ++ " <- " ++ f.parent.name ++ ": " ++ f.kind.word ++ " " ++ f.subject.display

end Finding

/-- Whether the first items are those of a list: the very same, or equal ones. -/
def startsWith : List Item → List Item → Bool
  | _, [] => true
  | a :: as, b :: bs => (a = b || a.equal b) && startsWith as bs
  | [], _ :: _ => false

/-- The plugins that a configuration lost, sorted. -/
def missingPlugins (parent child : EffectiveConfiguration) : List Name :=
  let missing := parent.plugins.keys.filter fun plugin => !child.plugins.contains plugin
  (Text.sortedSet (missing.map Name.word)).filterMap fun word => missing.find? (·.word = word)

/-- What became of one rule of the parent: it is gone, it is switched off, or neither. -/
def ruleFinding? (child : EffectiveConfiguration) (rule : Name) (setting : RuleSetting) :
    Option FindingKind :=
  match child.rules.find? rule with
  | none => some .missingRule
  | some inherited =>
    if setting.enabled && !inherited.enabled then some .narrowedRule else none

namespace LayerSet

/-- The findings of one layer and its parent. -/
def compare (layers : LayerSet) (parent child : Layer) : Except Failure (List Finding) := do
  let parentConfiguration ← layers.configuration parent
  let childConfiguration ← layers.configuration child
  let order :=
    if startsWith (layers.items child) (layers.items parent) then []
    else [⟨.notPrefix, parent, child, "fragments"⟩]
  let plugins := (missingPlugins parentConfiguration childConfiguration).map fun plugin =>
    (⟨.missingPlugin, parent, child, plugin⟩ : Finding)
  let rules := parentConfiguration.rules.entries.filterMap fun e =>
    (ruleFinding? childConfiguration e.1 e.2).map fun kind =>
      (⟨kind, parent, child, e.1⟩ : Finding)
  return order ++ plugins ++ rules

/-- The findings of all selected layers that have a parent, in the order of the selection. -/
def findings (layers : LayerSet) : List Layer → Except Failure (List Finding)
  | [] => .ok []
  | child :: rest => do
    let here ← match child.parent? with
      | some parent => layers.compare parent child
      | none => .ok []
    let others ← layers.findings rest
    return here ++ others

/-- The findings of the selected layers. A strict check fails when one of them is fatal. -/
def checkExtension (layers : LayerSet) (selected : List Layer := Layer.all)
    (strict : Bool := false) : Except Failure (List Finding) := do
  let found ← layers.findings selected
  let broken := found.filter Finding.fatal
  if strict && !broken.isEmpty then
    invalid (.brokenLayers (broken.map Finding.describe))
  return found

end LayerSet

end LayeredLint
