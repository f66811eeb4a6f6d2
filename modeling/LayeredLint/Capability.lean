import LayeredLint.Text.Blank
import LayeredLint.Text.SortedSet

/-!
# Modules and plugin handles

A configuration refers to the code of plugins and parsers by the module that exports it.

- `ModuleRef`: a module, or one export of it. Its specifier is never blank.
- `PluginHandle`: the module of a plugin, with the ids of those of its rules that need type
  information.
- `PluginHandle.sameCapability`: whether two handles load the same code.
-/

namespace LayeredLint

/-- A module, or one export of it. -/
structure ModuleRef where
  module : String
  exported : Option String := none
  named : Text.isBlankText module = false := by decide
  deriving DecidableEq

namespace ModuleRef

/-- The reference for a specifier, which must not be blank. -/
def of? (module : String) (exported : Option String := none) : Option ModuleRef :=
  if h : Text.isBlankText module = false then some ⟨module, exported, h⟩ else none

/-- The module, followed by `#` and the export where one is named. -/
def describe (ref : ModuleRef) : String :=
  match ref.exported with
  | none => ref.module
  | some name => ref.module ++ "#" ++ name

end ModuleRef

/-- A plugin, with the rules it declares to need type information. The ids are kept as a sorted
set, so that two handles are equal when they declare the same ids. -/
structure PluginHandle where
  source : ModuleRef
  typeAwareRules : List String := []
  deriving DecidableEq

namespace PluginHandle

/-- The handle of a plugin, given the declared ids in any order. -/
def of (source : ModuleRef) (typeAwareRules : List String := []) : PluginHandle :=
  ⟨source, Text.sortedSet typeAwareRules⟩

/-- Both handles load the same code, whatever they declare about it. -/
def sameCapability (a b : PluginHandle) : Bool :=
  a.source = b.source

/-- The module behind a handle. -/
def describe (handle : PluginHandle) : String :=
  handle.source.describe

theorem sameCapability_iff {a b : PluginHandle} :
    a.sameCapability b = true ↔ a.source = b.source := by
  simp [sameCapability]

end PluginHandle

end LayeredLint
