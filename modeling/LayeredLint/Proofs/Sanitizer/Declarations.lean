import LayeredLint.Proofs.Composition.Conflicts
import LayeredLint.Proofs.Sanitizer.Effect

/-!
# Declarations that count

A handle declares rules that need type information. It stands for its plugin name until another one
is registered for the name, and that one is taken whole: it replaces the declarations too, also
where it loads the same plugin.

- `Declared`: a handle that stands for its name declares a rule.
- `mem_disabledRules_flatten`: the rules that are switched off.
- `sanitize_standing_declarations`: **without conflicts, a handle gives way to one of the same plugin
  only; the declarations of the handles that stand are switched off, and no others**.
- `sanitize_drops_replaced_declaration`: a declaration that goes with its handle.
-/

namespace LayeredLint

/-- Of the handles that stand for their names, one declares that a rule needs type information. -/
def Declared (fs : List Fragment) (rule : String) : Prop :=
  ∃ plugin standing, LastGives Fragment.plugins fs plugin standing ∧ rule ∈ standing.typeAwareRules

/-- The handles that stand are those of the composed plugins. -/
theorem declared_iff {fs : List Fragment} {rule : String} :
    Declared fs rule ↔ ∃ handle ∈ (flatten fs).plugins.values, rule ∈ handle.typeAwareRules := by
  constructor
  · rintro ⟨plugin, standing, last, hrule⟩
    have hfound := find?_plugins_flatten_iff.2 last
    exact ⟨standing, ((flatten fs).plugins.mem_values_iff standing).2 ⟨plugin, hfound⟩, hrule⟩
  · rintro ⟨handle, hhandle, hrule⟩
    obtain ⟨plugin, hplugin⟩ := ((flatten fs).plugins.mem_values_iff handle).1 hhandle
    exact ⟨plugin, handle, find?_plugins_flatten_iff.1 hplugin, hrule⟩

theorem mem_disabledRules_flatten {fs : List Fragment} {rule : String} :
    rule ∈ disabledRules (flatten fs) ↔
      rule ∈ Sanitizer.typeAwareRules ∨ Declared fs rule := by
  rw [mem_disabledRules, declared_iff]

/-- **The declarations that stand are switched off.** Without conflicts, the handle that stands for a
plugin name loads the same plugin as each one that was registered for the name. The rules that are
switched off are those known to need type information and those that standing handles declare; the
others, among them such that only replaced handles declare, keep their settings. -/
theorem sanitize_standing_declarations {fs : List Fragment} (nonempty : fs ≠ [])
    (made : ∀ f ∈ fs, f.Made)
    (named : ∀ f ∈ fs, ∀ handle ∈ f.plugins.values, "" ∉ handle.typeAwareRules)
    (agree : pluginConflicts fs = []) :
    ∃ c s, compose (fs.map .fragment) = .ok c ∧ sanitize c = .ok s ∧
      (∀ f ∈ fs, ∀ plugin handle, f.plugins.find? plugin = some handle →
        ∃ standing, LastGives Fragment.plugins fs plugin standing ∧
          standing.source = handle.source) ∧
      (∀ rule, rule ∈ disabledRules c ↔ rule ∈ Sanitizer.typeAwareRules ∨ Declared fs rule) ∧
      (∀ rule ∈ disabledRules c, s.rules.find? (.text rule) = some ⟨.off, []⟩) ∧
      ∀ n : Name, n.word ∉ disabledRules c → s.rules.find? n = c.rules.find? n := by
  have effect := flatten_sanitized fs
  exact ⟨flatten fs, _, compose_map nonempty, sanitize_eq made (namesTypeAware_flatten named),
    fun _ hf _ _ hh => (pluginConflicts_eq_nil_iff.1 agree).standing hf hh,
    fun _ => mem_disabledRules_flatten, effect.off, effect.others⟩

/-! ### A plugin that is registered twice -/

/-- The second fragment registers the plugin of the first one again, with other declarations. -/
def redeclaringSample : List Fragment :=
  [{ name := .str "first"
     plugins := .ofList [("demo", demoPlugin)]
     rules := .ofList [("demo/typed", .error), ("demo/other", .error)] },
   { name := .str "second"
     plugins := .ofList [("demo", .of demoPlugin.source ["demo/other"])] }]

theorem made_redeclaringSample : ∀ f ∈ redeclaringSample, f.Made := by decide

theorem named_redeclaringSample :
    ∀ f ∈ redeclaringSample, ∀ handle ∈ f.plugins.values, "" ∉ handle.typeAwareRules := by decide

theorem pluginConflicts_redeclaringSample : pluginConflicts redeclaringSample = [] := by decide

/-- The handle of the second fragment is the only one that stands. -/
theorem plugins_redeclaringSample :
    (flatten redeclaringSample).plugins.values = [.of demoPlugin.source ["demo/other"]] := by
  decide

theorem declared_redeclaringSample {rule : String} :
    Declared redeclaringSample rule ↔ rule = "demo/other" := by
  have hdeclares : (PluginHandle.of demoPlugin.source ["demo/other"]).typeAwareRules =
      ["demo/other"] := rfl
  rw [declared_iff, plugins_redeclaringSample]
  simp [hdeclares]

theorem sanitize_standing_declarations_redeclared :
    redeclaringSample ≠ [] ∧ (∀ f ∈ redeclaringSample, f.Made) ∧
      (∀ f ∈ redeclaringSample, ∀ handle ∈ f.plugins.values, "" ∉ handle.typeAwareRules) ∧
      pluginConflicts redeclaringSample = [] ∧
      ∃ c s, compose (redeclaringSample.map .fragment) = .ok c ∧ sanitize c = .ok s ∧
        (∃ standing, LastGives Fragment.plugins redeclaringSample "demo" standing ∧
          standing.source = demoPlugin.source) ∧
        "demo/other" ∈ disabledRules c ∧
        s.rules.find? "demo/other" = some ⟨.off, []⟩ := by
  obtain ⟨c, s, hc, hs, standing, disabled, off, -⟩ := sanitize_standing_declarations
    (show redeclaringSample ≠ [] by decide) made_redeclaringSample named_redeclaringSample
    pluginConflicts_redeclaringSample
  have hother : "demo/other" ∈ disabledRules c :=
    (disabled _).2 (.inr (declared_redeclaringSample.2 rfl))
  exact ⟨by decide, made_redeclaringSample, named_redeclaringSample,
    pluginConflicts_redeclaringSample, c, s, hc, hs,
    standing _ List.mem_cons_self "demo" demoPlugin rfl, hother, off _ hother⟩

/-- A handle that is replaced takes its declaration along, though no plugin is in conflict. -/
theorem sanitize_drops_replaced_declaration :
    (∀ f ∈ redeclaringSample, f.Made) ∧ pluginConflicts redeclaringSample = [] ∧
      (∃ f ∈ redeclaringSample, ∃ handle ∈ f.plugins.values,
        "demo/typed" ∈ handle.typeAwareRules) ∧
      ∃ c s, compose (redeclaringSample.map .fragment) = .ok c ∧ sanitize c = .ok s ∧
        "demo/typed" ∉ disabledRules c ∧ s.rules.find? "demo/typed" = some RuleSetting.error := by
  have hkept : "demo/typed" ∉ disabledRules (flatten redeclaringSample) := by
    rw [mem_disabledRules_flatten, declared_redeclaringSample]
    decide
  refine ⟨made_redeclaringSample, pluginConflicts_redeclaringSample, by decide,
    flatten redeclaringSample, _, compose_map (by decide),
    sanitize_eq made_redeclaringSample (namesTypeAware_flatten named_redeclaringSample), hkept, ?_⟩
  exact (flatten_sanitized redeclaringSample).others "demo/typed" hkept

end LayeredLint
