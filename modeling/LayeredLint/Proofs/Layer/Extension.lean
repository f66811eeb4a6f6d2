import LayeredLint.Layer
import LayeredLint.Proofs.Composition.Flatten

/-!
# Layers extend their parents

A layer appends fragments to those of its parent. So its parent's fragments, plugins and rules are
all still there, whatever the appended fragments say; all that they can do to a rule is to set it
again.

- `Catalog.fragments`: the fragments of a layer, with its own ones at the end.
- `find?_rules_append`: a rule has the setting that the appended fragments give it, else the one it
  had.
- `narrowedRules`: the rules that are enabled in one configuration and not in another.
- `LastSwitchesOff`: the last fragment that sets a rule switches it off.
- `mem_narrowedRules_append_iff`: **a rule is narrowed where the appended fragments switch it off
  in the end**.
- `checkExtension_eq_narrowings`: **a check finds the narrowed rules and nothing else**, for every
  catalog.
-/

namespace LayeredLint

/-! ## The fragments of a layer -/

theorem Layer.mem_all (layer : Layer) : layer ∈ Layer.all := by
  cases layer <;> decide

namespace Catalog

/-- The fragments of a layer: those of its parent, and behind them its own. -/
def fragments (c : Catalog) : Layer → List Fragment
  | .base => c.own .base
  | .functional => c.own .base ++ c.own .functional
  | .functionalLibrary => c.own .base ++ c.own .functional ++ c.own .functionalLibrary

/-- The configuration of a layer. -/
def configuration (c : Catalog) (layer : Layer) : EffectiveConfiguration :=
  flatten (c.fragments layer)

theorem items_layers (c : Catalog) (layer : Layer) :
    c.layers.items layer = (c.fragments layer).map .fragment := by
  cases layer with
  | base => rfl
  | functional => exact (List.map_append ..).symm
  | functionalLibrary =>
    show ((c.own .base).map Item.fragment ++ (c.own .functional).map .fragment) ++ _ = _
    rw [← List.map_append, ← List.map_append]
    rfl

theorem fragments_of_parent? (c : Catalog) {child parent : Layer}
    (h : child.parent? = some parent) : c.fragments child = c.fragments parent ++ c.own child := by
  cases child with
  | base => cases h
  | functional => cases h; rfl
  | functionalLibrary => cases h; rfl

theorem fragments_ne_nil (c : Catalog) (layer : Layer) : c.fragments layer ≠ [] := by
  cases layer <;> exact List.cons_ne_nil _ _

/-- No layer of a catalog fails to be composed. -/
theorem configuration_layers (c : Catalog) (layer : Layer) :
    c.layers.configuration layer = .ok (c.configuration layer) := by
  rw [LayerSet.configuration, items_layers, compose_map (c.fragments_ne_nil layer)]
  rfl

end Catalog

/-- A list starts with each of its first parts. -/
theorem startsWith_append (items more : List Item) : startsWith (items ++ more) items = true := by
  induction items with
  | nil => cases more <;> rfl
  | cons item rest ih =>
    rw [List.cons_append, startsWith, ih, decide_eq_true rfl]
    rfl

/-! ## Appended fragments -/

section Appended

variable (fs more : List Fragment)

/-- A rule has the setting that the appended fragments give it, else the one it had. -/
theorem find?_rules_append (rule : Name) :
    (flatten (fs ++ more)).rules.find? rule =
      ((flatten more).rules.find? rule).or ((flatten fs).rules.find? rule) := by
  rw [rules_flatten, rules_flatten, rules_flatten, List.map_append, Table.find?_layered_append]

/-- A plugin has the handle that the appended fragments give it, else the one it had. -/
theorem find?_plugins_append (plugin : Name) :
    (flatten (fs ++ more)).plugins.find? plugin =
      ((flatten more).plugins.find? plugin).or ((flatten fs).plugins.find? plugin) := by
  rw [plugins_flatten, plugins_flatten, plugins_flatten, List.map_append,
    Table.find?_layered_append]

theorem missingPlugins_append : missingPlugins (flatten fs) (flatten (fs ++ more)) = [] := by
  have kept : ((flatten fs).plugins.keys.filter fun plugin =>
      !(flatten (fs ++ more)).plugins.contains plugin) = [] := by
    refine List.filter_eq_nil_iff.2 fun plugin hplugin => ?_
    obtain ⟨e, he, rfl⟩ := List.mem_map.1 hplugin
    have hfind : (flatten fs).plugins.find? e.1 = some e.2 :=
      Entries.find?_of_mem (flatten fs).plugins.distinct he
    have hcontains : (flatten (fs ++ more)).plugins.contains e.1 = true := by
      show ((flatten (fs ++ more)).plugins.find? e.1).isSome = true
      rw [find?_plugins_append, hfind, Option.isSome_or]
      exact Bool.or_true _
    rw [hcontains]
    exact Bool.false_ne_true
  rw [missingPlugins, kept]
  rfl

end Appended

/-! ## Narrowed rules -/

/-- The rules that are enabled in the first configuration and not in the second, in the order of the
first. -/
def narrowedRules (parent child : EffectiveConfiguration) : List Name :=
  parent.enabledRules.keys.filter fun rule => !child.enabledRules.contains rule

/-- The last of the fragments that sets a rule switches it off. -/
def LastSwitchesOff (fragments : List Fragment) (rule : Name) : Prop :=
  ∃ setting, LastGives Fragment.rules fragments rule setting ∧ setting.enabled = false

theorem lastSwitchesOff_iff {fragments : List Fragment} {rule : Name} :
    LastSwitchesOff fragments rule ↔
      ∃ setting, (flatten fragments).rules.find? rule = some setting ∧ setting.enabled = false :=
  exists_congr fun _ => and_congr_left fun _ => find?_rules_flatten_iff.symm

theorem contains_enabledRules (c : EffectiveConfiguration) (rule : Name) :
    c.enabledRules.contains rule = (c.rules.find? rule).any RuleSetting.enabled := by
  show (c.enabledRules.find? rule).isSome = _
  rw [EffectiveConfiguration.enabledRules, Table.find?_filter]
  cases c.rules.find? rule with
  | none => rfl
  | some setting => cases h : setting.enabled <;> simp [h]

theorem exists_of_mem_enabledRules {c : EffectiveConfiguration} {rule : Name}
    (h : rule ∈ c.enabledRules.keys) :
    ∃ setting, c.rules.find? rule = some setting ∧ setting.enabled = true := by
  obtain ⟨e, he, rfl⟩ := List.mem_map.1 h
  obtain ⟨hmem, henabled⟩ := List.mem_filter.1 he
  exact ⟨e.2, Entries.find?_of_mem c.rules.distinct hmem, henabled⟩

/-- **A rule is narrowed** by appended fragments where it was enabled and the last of them that sets
it switches it off. -/
theorem mem_narrowedRules_append_iff (fs more : List Fragment) {rule : Name} :
    rule ∈ narrowedRules (flatten fs) (flatten (fs ++ more)) ↔
      rule ∈ (flatten fs).enabledRules.keys ∧ LastSwitchesOff more rule := by
  rw [narrowedRules, List.mem_filter, lastSwitchesOff_iff]
  refine and_congr_right fun henabled => ?_
  obtain ⟨before, hbefore, hon⟩ := exists_of_mem_enabledRules henabled
  rw [contains_enabledRules, find?_rules_append, hbefore, Bool.not_eq_true']
  cases (flatten more).rules.find? rule with
  | none =>
    -- nothing is set again, so the rule stays as it was
    rw [Option.none_or, Option.any_some, hon]
    simp
  | some setting => simp

/-! ## Findings -/

/-- What the rules of a parent have become in a child, where none of them is gone: those that are
narrowed are found, in their order. -/
theorem filterMap_ruleFinding? {child : EffectiveConfiguration} {α : Type}
    (found : Name → FindingKind → α) {entries : List (Name × RuleSetting)}
    (kept : ∀ e ∈ entries, ∃ setting, child.rules.find? e.1 = some setting) :
    (entries.filterMap fun e => (ruleFinding? child e.1 e.2).map (found e.1)) =
      ((Entries.keys (entries.filter fun e => e.2.enabled)).filter fun rule =>
        !child.enabledRules.contains rule).map (found · .narrowedRule) := by
  induction entries with
  | nil => rfl
  | cons e rest ih =>
    obtain ⟨setting, hsetting⟩ := kept e List.mem_cons_self
    have hrest := ih fun e he => kept e (List.mem_cons_of_mem _ he)
    have hcontains : child.enabledRules.contains e.1 = setting.enabled := by
      rw [contains_enabledRules, hsetting]
      rfl
    rw [List.filterMap_cons, hrest, ruleFinding?, hsetting, List.filter_cons]
    -- The rule is found where it was enabled and no longer is; else both sides pass over it.
    cases hon : e.2.enabled <;> cases hoff : setting.enabled <;>
      simp [Entries.keys, hcontains, hoff]

namespace Catalog

/-- What there is to find in a layer: the rules of its parent that it narrows, in the order of the
parent. -/
def narrowings (c : Catalog) (child : Layer) : List Finding :=
  match child.parent? with
  | none => []
  | some parent =>
    (narrowedRules (c.configuration parent) (c.configuration child)).map fun rule =>
      ⟨.narrowedRule, parent, child, rule⟩

theorem compare_eq_narrowings (c : Catalog) {child parent : Layer}
    (h : child.parent? = some parent) :
    c.layers.compare parent child = .ok (c.narrowings child) := by
  have extended := c.fragments_of_parent? h
  have order : startsWith (c.layers.items child) (c.layers.items parent) = true := by
    rw [items_layers, items_layers, extended, List.map_append]
    exact startsWith_append _ _
  have plugins : missingPlugins (c.configuration parent) (c.configuration child) = [] := by
    rw [configuration, configuration, extended]
    exact missingPlugins_append _ _
  have kept : ∀ e ∈ (c.configuration parent).rules.entries,
      ∃ setting, (c.configuration child).rules.find? e.1 = some setting := by
    intro e he
    have hfind := Entries.find?_of_mem (c.configuration parent).rules.distinct he
    rw [configuration, extended, find?_rules_append]
    cases (flatten (c.own child)).rules.find? e.1 with
    | none => exact ⟨e.2, hfind⟩
    | some setting => exact ⟨setting, rfl⟩
  have rules := filterMap_ruleFinding?
    (fun rule kind => (⟨kind, parent, child, rule⟩ : Finding)) kept
  rw [LayerSet.compare, configuration_layers, configuration_layers]
  show Except.ok ((if _ then _ else _) ++ _ ++ _) = _
  rw [if_pos order, plugins, rules, narrowings, h]
  rfl

/-- The findings of a selection are those of its layers, one after another. -/
theorem findings_eq_narrowings (c : Catalog) (selected : List Layer) :
    c.layers.findings selected = .ok (selected.flatMap c.narrowings) := by
  induction selected with
  | nil => rfl
  | cons child rest ih =>
    rw [LayerSet.findings, ih, List.flatMap_cons]
    cases hparent : child.parent? with
    | none =>
      rw [narrowings, hparent]
      rfl
    | some parent =>
      show (c.layers.compare parent child >>= _) = _
      rw [compare_eq_narrowings c hparent]
      rfl

theorem mem_narrowings_iff {c : Catalog} {child : Layer} {finding : Finding} :
    finding ∈ c.narrowings child ↔ ∃ parent rule, child.parent? = some parent ∧
      rule ∈ narrowedRules (c.configuration parent) (c.configuration child) ∧
      finding = ⟨.narrowedRule, parent, child, rule⟩ := by
  unfold narrowings
  cases child.parent? with
  | none =>
    constructor
    · intro h
      cases h
    · rintro ⟨_, _, h, -⟩
      cases h
  | some parent =>
    rw [List.mem_map]
    constructor
    · rintro ⟨rule, hrule, rfl⟩
      exact ⟨parent, rule, rfl, hrule, rfl⟩
    · rintro ⟨_, rule, hparent, hrule, rfl⟩
      cases hparent
      exact ⟨rule, hrule, rfl⟩

theorem not_fatal_of_mem_narrowings {c : Catalog} {child : Layer} {finding : Finding}
    (h : finding ∈ c.narrowings child) : finding.fatal = false := by
  obtain ⟨parent, rule, -, -, rfl⟩ := mem_narrowings_iff.1 h
  rfl

/-- Nothing that there is to find is fatal. -/
theorem filter_fatal_narrowings (c : Catalog) (selected : List Layer) :
    (selected.flatMap c.narrowings).filter Finding.fatal = [] := by
  refine List.filter_eq_nil_iff.2 fun finding hfinding => ?_
  obtain ⟨child, -, hchild⟩ := List.mem_flatMap.1 hfinding
  rw [not_fatal_of_mem_narrowings hchild]
  exact Bool.false_ne_true

/-- A strict check of layers of a catalog finds what any other one does. -/
theorem checkExtension_layers (c : Catalog) (selected : List Layer) (strict : Bool) :
    c.layers.checkExtension selected strict = .ok (selected.flatMap c.narrowings) := by
  rw [LayerSet.checkExtension, findings_eq_narrowings]
  show (if (strict && !(List.filter Finding.fatal _).isEmpty) = true then _ else _) = _
  rw [c.filter_fatal_narrowings, List.isEmpty_nil, Bool.not_true, Bool.and_false]
  rfl

/-- Rules are narrowed by the fragments that a layer appends to those of its parent. -/
theorem mem_narrowedRules_configuration_iff (c : Catalog) {child parent : Layer}
    (h : child.parent? = some parent) {rule : Name} :
    rule ∈ narrowedRules (c.configuration parent) (c.configuration child) ↔
      rule ∈ (c.configuration parent).enabledRules.keys ∧ LastSwitchesOff (c.own child) rule := by
  rw [configuration, configuration, c.fragments_of_parent? h]
  exact mem_narrowedRules_append_iff _ _

/-- **A check finds the narrowed rules and nothing else**, whatever fragments a catalog holds, and
whichever layers are selected. Being strict makes no difference, since none of that is fatal; and a
rule is narrowed only where the fragments that the layer appends switch it off in the end. -/
theorem checkExtension_eq_narrowings (c : Catalog) :
    (∀ layer, c.layers.configuration layer = .ok (c.configuration layer)) ∧
      (∀ selected strict, c.layers.checkExtension selected strict =
        .ok (selected.flatMap c.narrowings)) ∧
      (∀ child, ∀ finding ∈ c.narrowings child, finding.fatal = false) ∧
      ∀ child parent, child.parent? = some parent → ∀ rule,
        rule ∈ narrowedRules (c.configuration parent) (c.configuration child) ↔
          rule ∈ (c.configuration parent).enabledRules.keys ∧ LastSwitchesOff (c.own child) rule := by
  exact ⟨c.configuration_layers, c.checkExtension_layers,
    fun _ _ => not_fatal_of_mem_narrowings, fun _ _ h _ => c.mem_narrowedRules_configuration_iff h⟩

/-- A catalog in which one rule is switched off and on again on the way up, and another one is set
twice by the uppermost layer and ends up off. -/
def narrowingSample : Catalog where
  sharedIgnores := { name := .str "ignores", ignores := some ["**/dist"] }
  coreRecommended :=
    { name := .str "core", rules := .ofList [("a/x", .error), ("a/y", .error), ("a/z", .off)] }
  typedLanguage := []
  formatting := { name := .str "format" }
  projectDefaults := { name := .str "project", rules := .ofList [("a/y", ⟨.warn, [.int 1]⟩)] }
  functionalRules := { name := .str "pure", rules := .ofList [("a/z", .error), ("a/x", .off)] }
  libraryPlugin := { name := .str "plugin", rules := .ofList [("a/x", .error), ("a/y", .error)] }
  libraryPreferences := { name := .str "preferences", rules := .ofList [("a/y", .off)] }

theorem checkExtension_eq_narrowings_sample :
    Layer.functionalLibrary.parent? = some .functional ∧
      narrowingSample.layers.checkExtension [.functionalLibrary, .base, .functional] true =
        .ok [⟨.narrowedRule, .functional, .functionalLibrary, "a/y"⟩,
          ⟨.narrowedRule, .base, .functional, "a/x"⟩] ∧
      LastSwitchesOff (narrowingSample.own .functionalLibrary) "a/y" := by
  obtain ⟨-, check, -, narrowed⟩ := checkExtension_eq_narrowings narrowingSample
  refine ⟨rfl, ?_, ?_⟩
  · rw [check]
    exact congrArg Except.ok (by decide)
  · exact ((narrowed .functionalLibrary .functional rfl "a/y").1 (by decide)).2

end Catalog

end LayeredLint
