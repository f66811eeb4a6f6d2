import LayeredLint.Fragment

/-!
# Composition

An ordered list of fragments makes one configuration. Plugins and rules are assigned fragment by
fragment, so the last assignment of a key decides; language options are merged; patterns stay with
their fragment.

- `EffectiveConfiguration`: what a list of fragments makes, with the list itself.
- `Conflict`: one plugin name bound to two sources by two fragments.
- `flatten`: the configuration of a list of fragments.
- `compose`: the same for items that may not be fragments, with what is logged.
-/

namespace LayeredLint

/-- What a list of fragments makes. -/
structure EffectiveConfiguration where
  plugins : Table Name PluginHandle
  rules : Table Name RuleSetting
  languageOptions : LanguageOptions
  fragments : List Fragment
  deriving DecidableEq

namespace EffectiveConfiguration

/-- The ignores of each fragment that has some, in order and unmerged. -/
def ignores (c : EffectiveConfiguration) : List (Value × List String) :=
  c.fragments.filterMap fun f => f.ignores.map (f.name, ·)

/-- The rules that are not switched off. -/
def enabledRules (c : EffectiveConfiguration) : Table Name RuleSetting :=
  c.rules.filter fun _ s => s.enabled

/-- The ids that the composed plugins declare to need type information, sorted. -/
def typeAwareRules (c : EffectiveConfiguration) : List String :=
  Text.sortedSet (c.plugins.values.flatMap PluginHandle.typeAwareRules)

end EffectiveConfiguration

/-! ## Conflicts -/

/-- One plugin name bound to two sources: the registration before, and the one that takes over. -/
structure Conflict where
  plugin : Name
  firstFragment : Value
  secondFragment : Value
  firstModule : String
  secondModule : String
  deriving DecidableEq

/-- A conflict on one line. -/
def Conflict.describe (c : Conflict) : String :=
  "plugin '" ++ c.plugin.display ++ "' registered as " ++ c.firstModule ++ " by " ++
    c.firstFragment.display ++ " and as " ++ c.secondModule ++ " by " ++ c.secondFragment.display

/-- One registration of a plugin by a fragment. -/
structure Registration where
  plugin : Name
  fragment : Value
  handle : PluginHandle
  deriving DecidableEq

/-- The registrations of a list of fragments, in order. -/
def registrations (fragments : List Fragment) : List Registration :=
  fragments.flatMap fun f => f.plugins.entries.map fun e => ⟨e.1, f.name, e.2⟩

/-- The conflicts of registrations with the latest earlier ones of the same name; `seen` holds the
latest registration of each name so far. -/
def conflictsFrom (seen : Table Name Registration) : List Registration → List Conflict
  | [] => []
  | r :: rest =>
    let later := conflictsFrom (seen.insert r.plugin r) rest
    match seen.find? r.plugin with
    | some earlier =>
      if earlier.handle.sameCapability r.handle then later
      else
        ⟨r.plugin, earlier.fragment, r.fragment, earlier.handle.describe, r.handle.describe⟩ ::
          later
    | none => later

/-- Every registration that changes the source of its plugin name, in order. -/
def pluginConflicts (fragments : List Fragment) : List Conflict :=
  conflictsFrom .empty (registrations fragments)

/-! ## Flattening -/

/-- The plugins of a list of fragments; the last registration of a name stands. -/
def collectPlugins (fragments : List Fragment) : Table Name PluginHandle :=
  fragments.foldl (fun plugins f => plugins.union f.plugins) .empty

/-- The rules of a list of fragments; the last assignment of an id stands. -/
def collectRules (fragments : List Fragment) : Table Name RuleSetting :=
  fragments.foldl (fun rules f => rules.union f.rules) .empty

/-- The configuration of a list of fragments. -/
def flatten (fragments : List Fragment) : EffectiveConfiguration where
  plugins := collectPlugins fragments
  rules := collectRules fragments
  languageOptions := LanguageOptions.merge (fragments.filterMap Fragment.languageOptions)
  fragments := fragments

/-! ## Composing -/

/-- An item of a sequence that is to be composed. -/
inductive Item where
  | fragment (f : Fragment)
  | other (v : Value)
  deriving DecidableEq

namespace Item

/-- Items are equal when both are equal fragments or both equal values. -/
def equal : Item → Item → Bool
  | .fragment a, .fragment b => a.equal b
  | .other a, .other b => a.equal b
  | _, _ => false

end Item

/-- How important a logged line is. -/
inductive LogLevel where
  | debug
  | warning
  deriving DecidableEq, Repr

/-- A logged line. -/
structure LogEntry where
  level : LogLevel
  message : String
  deriving DecidableEq, Repr

/-- The fragments among items, which all have to be fragments. -/
def fragmentsOf : List Item → Except Failure (List Fragment)
  | [] => .ok []
  | .fragment f :: rest => do
    let fragments ← fragmentsOf rest
    return f :: fragments
  | .other v :: _ => invalid (.notFragment v)

/-- The fragments of a sequence that can be composed: there is at least one item, and each is a
fragment. -/
def validated (items : List Item) : Except Failure (List Fragment) :=
  if items.isEmpty then invalid .noFragments else fragmentsOf items

/-- The fragments of a sequence that is used without being checked: anything else lacks the parts of
a fragment. -/
def uncheckedFragments : List Item → Except Failure (List Fragment)
  | [] => .ok []
  | .fragment f :: rest => do
    let fragments ← uncheckedFragments rest
    return f :: fragments
  | .other _ :: _ => impossible .wrongObject

/-- What is logged while a list of fragments is composed: a warning for each conflict, then the
sizes. -/
def compositionLog (fragments : List Fragment) : List LogEntry :=
  let c := flatten fragments
  (pluginConflicts fragments).map (fun conflict =>
    ⟨.warning, "plugin conflict resolved by last fragment: " ++ conflict.describe⟩) ++
  [⟨.debug, "composed " ++ toString fragments.length ++ " fragments into " ++
    toString c.plugins.size ++ " plugins and " ++ toString c.rules.size ++ " rules"⟩]

/-- The configuration of a sequence, and what is logged on the way. -/
def composeLogged (items : List Item) :
    Except Failure (EffectiveConfiguration × List LogEntry) := do
  let fragments ← validated items
  return (flatten fragments, compositionLog fragments)

/-- The configuration of a sequence. -/
def compose (items : List Item) : Except Failure EffectiveConfiguration :=
  Prod.fst <$> composeLogged items

/-! ## Rule ids -/

/-- What stands before the last slash of a rule id: the plugin it belongs to. The rules of the core
have no slash. -/
def rulePlugin? (rule : String) : Option String :=
  match rule.toList.reverse.dropWhile (· ≠ '/') with
  | [] => none
  | _ :: plugin => some (String.ofList plugin.reverse)

end LayeredLint
