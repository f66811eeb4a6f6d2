import LayeredLint.Proofs.Composition.Flatten
import LayeredLint.Proofs.Sanitizer.Stripping

/-!
# What sanitizing changes

A sanitized configuration differs from the one it is made of in two ways only: the rules that need
type information are off, and nobody asks for type information.

- `mem_disabledRules`: the rules that are switched off.
- `Sanitizer.offFragment_eq`: the fragment that switches them off passes the checks.
- `sanitize_eq`: sanitizing succeeds, and its result is composed of stripped fragments and that one.
- `Sanitized`: all that may differ between a configuration and the sanitized one.
- `sanitize_effect`: **sanitizing changes that and nothing else**.
-/

namespace LayeredLint

/-! ## The rules that are switched off -/

theorem mem_disabledRules {c : EffectiveConfiguration} {rule : String} :
    rule ∈ disabledRules c ↔
      rule ∈ Sanitizer.typeAwareRules ∨ ∃ handle ∈ c.plugins.values, rule ∈ handle.typeAwareRules := by
  rw [disabledRules, Text.mem_sortedSet, List.mem_append, EffectiveConfiguration.typeAwareRules,
    Text.mem_sortedSet, List.mem_flatMap]

theorem pairwise_disabledRules (c : EffectiveConfiguration) :
    (disabledRules c).Pairwise (· < ·) :=
  Text.pairwise_sortedSet _

/-- No plugin of the configuration declares an empty rule id. -/
def EffectiveConfiguration.NamesTypeAware (c : EffectiveConfiguration) : Prop :=
  ∀ handle ∈ c.plugins.values, "" ∉ handle.typeAwareRules

theorem empty_not_mem_disabledRules {c : EffectiveConfiguration} (h : c.NamesTypeAware) :
    "" ∉ disabledRules c := by
  rw [mem_disabledRules]
  rintro (hshipped | ⟨handle, hhandle, hempty⟩)
  · exact absurd hshipped (by decide)
  · exact h handle hhandle hempty

/-- The table that switches rules off. -/
def offRules (rules : List String) : Table Name RuleSetting :=
  .ofList (rules.map fun rule => (.text rule, .off))

theorem distinct_texts {α : Type} {rules : List String} (h : rules.Pairwise (· < ·)) (v : α) :
    Entries.Distinct (rules.map fun rule => (Name.text rule, v)) := by
  refine List.pairwise_map.2 (h.imp fun {a b} hlt => ?_)
  show (a == b) = false
  rw [beq_eq_false_iff_ne]
  rintro rfl
  exact String.lt_irrefl a hlt

theorem keys_offRules {rules : List String} (h : rules.Pairwise (· < ·)) :
    (offRules rules).keys = rules.map .text := by
  rw [Table.keys, offRules, Table.entries_ofList (distinct_texts h _), Entries.keys, List.map_map]
  rfl

theorem find?_offRules {rules : List String} (h : rules.Pairwise (· < ·)) (n : Name) :
    (offRules rules).find? n = if n.word ∈ rules then some .off else none := by
  rw [Table.find?, offRules, Table.entries_ofList (distinct_texts h _)]
  clear h
  induction rules with
  | nil => rfl
  | cons rule rest ih =>
    rw [List.map_cons, Entries.find?, ih]
    by_cases hn : n.word = rule
    · rw [if_pos (Name.same_iff.2 hn), if_pos (hn ▸ List.mem_cons_self)]
    · rw [if_neg (fun hs => hn (Name.same_iff.1 hs))]
      by_cases hrest : n.word ∈ rest
      · rw [if_pos hrest, if_pos (List.mem_cons_of_mem _ hrest)]
      · rw [if_neg hrest, if_neg fun hmem => (List.mem_cons.1 hmem).elim hn hrest]

/-! ## The sanitizer fragment -/

/-- The fragment that switches rules off, for every file that is verified. -/
def sanitizerFragment (rules : List String) : Fragment where
  name := .str Sanitizer.fragmentName
  files := some Sanitizer.files
  rules := offRules rules

namespace Sanitizer

/-- The fragment that switches rules off passes the checks of a fragment. -/
theorem offFragment_eq {rules : List String} (hsorted : rules.Pairwise (· < ·))
    (hnamed : "" ∉ rules) : offFragment rules = .ok (sanitizerFragment rules) := by
  have hgood : (sanitizerFragment rules).Good :=
    { name := rfl
      ignores := fun _ h => (nomatch h)
      files := fun patterns h => by
        cases h
        exact ⟨by decide, fun _ => by decide⟩
      plugins := fun _ h => (nomatch h)
      rules := fun n hn => by
        rw [sanitizerFragment, keys_offRules hsorted] at hn
        obtain ⟨rule, hrule, rfl⟩ := List.mem_map.1 hn
        exact fun hempty => hnamed (hempty ▸ hrule) }
  have hparts : (sanitizerFragment rules).parts.rules =
      .dict (rules.map fun rule => (.str rule, RuleSetting.off.toValue)) := by
    show Value.dict ((offRules rules).entries.map _) = _
    rw [offRules, Table.entries_ofList (distinct_texts hsorted _), List.map_map]
    rfl
  rw [offFragment, ← hparts]
  exact Fragment.make_parts hgood

end Sanitizer

/-! ## The sanitized configuration -/

theorem sanitizedFragments_eq {c : EffectiveConfiguration} (made : ∀ f ∈ c.fragments, f.Made)
    (named : c.NamesTypeAware) :
    sanitizedFragments c =
      .ok (c.fragments.map Fragment.withoutTypes ++ [sanitizerFragment (disabledRules c)]) := by
  have hstripped := mapM_eq_ok_map fun f hf => Sanitizer.stripped_eq (made f hf)
  have hoff := Sanitizer.offFragment_eq (pairwise_disabledRules c) (empty_not_mem_disabledRules named)
  rw [sanitizedFragments, hstripped, hoff]
  rfl

theorem sanitize_eq {c : EffectiveConfiguration} (made : ∀ f ∈ c.fragments, f.Made)
    (named : c.NamesTypeAware) :
    sanitize c = .ok (flatten
      (c.fragments.map Fragment.withoutTypes ++ [sanitizerFragment (disabledRules c)])) := by
  rw [sanitize, sanitizedFragments_eq made named]
  rfl

/-! ### Its parts -/

section Parts

variable (fs : List Fragment) (rules : List String)

/-- The sanitizer fragment binds no plugin, and stripping touches none. -/
theorem plugins_flatten_sanitized :
    (flatten (fs.map Fragment.withoutTypes ++ [sanitizerFragment rules])).plugins =
      (flatten fs).plugins := by
  show collectPlugins _ = collectPlugins fs
  rw [collectPlugins, List.foldl_append, List.foldl_map]
  rfl

/-- The sanitizer fragment is laid over all other rules. -/
theorem rules_flatten_sanitized :
    (flatten (fs.map Fragment.withoutTypes ++ [sanitizerFragment rules])).rules =
      (flatten fs).rules.union (offRules rules) := by
  show collectRules _ = (collectRules fs).union _
  rw [collectRules, List.foldl_append, List.foldl_map]
  rfl

/-- Whatever the fragments say about a rule that is switched off, it is off in the end. -/
theorem find?_flatten_off {rules : List String} (hsorted : rules.Pairwise (· < ·)) {rule : String}
    (hrule : rule ∈ rules) :
    (flatten (fs.map Fragment.withoutTypes ++ [sanitizerFragment rules])).rules.find?
      (.text rule) = some ⟨.off, []⟩ := by
  have hword : (Name.text rule).word ∈ rules := hrule
  rw [rules_flatten_sanitized, Table.find?_union, find?_offRules hsorted, if_pos hword]
  rfl

theorem languageOptions_flatten_sanitized :
    (flatten (fs.map Fragment.withoutTypes ++ [sanitizerFragment rules])).languageOptions =
      (flatten fs).languageOptions.withoutTypes := by
  have hoptions : (fs.map Fragment.withoutTypes ++ [sanitizerFragment rules]).filterMap
      Fragment.languageOptions =
        (fs.filterMap Fragment.languageOptions).map LanguageOptions.withoutTypes := by
    rw [List.filterMap_append, List.filterMap_map, List.map_filterMap]
    exact List.append_nil _
  show LanguageOptions.merge _ = _
  rw [hoptions, LanguageOptions.merge_map_withoutTypes]
  rfl

end Parts

/-! ## The effect of sanitizing -/

/-- All that may differ between the configuration `c` of the fragments `fs` and the sanitized
configuration `s`: rules that need type information are off and stand, where they are new, sorted
behind the others; the keys that ask for type information are gone from the top of the parser
options of each fragment and of the configuration; and the sanitizer fragment is the last one. -/
structure Sanitized (fs : List Fragment) (c s : EffectiveConfiguration) : Prop where
  plugins : s.plugins = c.plugins
  sorted : (disabledRules c).Pairwise (· < ·)
  ruleIds : s.rules.keys =
    c.rules.keys ++ ((disabledRules c).map .text).filter fun n => !c.rules.contains n
  off : ∀ rule ∈ disabledRules c, s.rules.find? (.text rule) = some ⟨.off, []⟩
  others : ∀ n : Name, n.word ∉ disabledRules c → s.rules.find? n = c.rules.find? n
  languageOptions : s.languageOptions = c.languageOptions.withoutTypes
  fragments : s.fragments =
    fs.map Fragment.withoutTypes ++ [sanitizerFragment (disabledRules c)]

theorem flatten_sanitized (fs : List Fragment) :
    Sanitized fs (flatten fs) (flatten
      (fs.map Fragment.withoutTypes ++ [sanitizerFragment (disabledRules (flatten fs))])) where
  plugins := plugins_flatten_sanitized fs _
  sorted := pairwise_disabledRules _
  ruleIds := by
    rw [rules_flatten_sanitized, Table.keys_union_eq_append, keys_offRules (pairwise_disabledRules _)]
  off _ hrule := find?_flatten_off fs (pairwise_disabledRules _) hrule
  others n hn := by
    rw [rules_flatten_sanitized, Table.find?_union, find?_offRules (pairwise_disabledRules _),
      if_neg hn]
    rfl
  languageOptions := languageOptions_flatten_sanitized fs _
  fragments := rfl

/-- No plugin of the fragments declares an empty rule id, so neither does one that is composed. -/
theorem namesTypeAware_flatten {fs : List Fragment}
    (named : ∀ f ∈ fs, ∀ handle ∈ f.plugins.values, "" ∉ handle.typeAwareRules) :
    (flatten fs).NamesTypeAware := by
  intro handle hhandle
  obtain ⟨plugins, hplugins, hmem⟩ := (flatten_composes fs).plugins.mem_values hhandle
  obtain ⟨f, hf, rfl⟩ := List.mem_map.1 hplugins
  exact named f hf handle hmem

/-- **Sanitizing changes nothing else.** Fragments that passed the checks, with plugins that declare
no empty rule id, are composed and sanitized without failure, with exactly the intended effect. -/
theorem sanitize_effect {fs : List Fragment} (nonempty : fs ≠ []) (made : ∀ f ∈ fs, f.Made)
    (named : ∀ f ∈ fs, ∀ handle ∈ f.plugins.values, "" ∉ handle.typeAwareRules) :
    ∃ c s, compose (fs.map .fragment) = .ok c ∧ sanitize c = .ok s ∧ Sanitized fs c s :=
  ⟨flatten fs, _, compose_map nonempty, sanitize_eq made (namesTypeAware_flatten named),
    flatten_sanitized fs⟩

/-! ### A sample -/

/-- A plugin with a rule that needs type information. -/
def demoPlugin : PluginHandle :=
  .of { module := "eslint-plugin-demo" } ["demo/typed"]

/-- Fragments that ask for type information at the top of their parser options and below it; the
second one switches a rule on again that needs it. -/
def typedSample : List Fragment :=
  [{ name := .str "typed"
     plugins := .ofList [("demo", demoPlugin)]
     rules := .ofList [("demo/typed", .error), ("demo/plain", .error)]
     languageOptions := some
       { parserOptions := [(.str "project", .bool true),
           (.str "ecmaFeatures", .dict [(.str "project", .bool true)])] } },
   { name := .str "again"
     rules := .ofList [("demo/typed", ⟨.warn, [.int 1]⟩)]
     languageOptions := some { parserOptions := [(.str "projectService", .bool true)] } }]

theorem made_typedSample : ∀ f ∈ typedSample, f.Made := by decide

theorem named_typedSample :
    ∀ f ∈ typedSample, ∀ handle ∈ f.plugins.values, "" ∉ handle.typeAwareRules := by decide

theorem sanitize_effect_typedSample :
    typedSample ≠ [] ∧ (∀ f ∈ typedSample, f.Made) ∧
      (∀ f ∈ typedSample, ∀ handle ∈ f.plugins.values, "" ∉ handle.typeAwareRules) ∧
      ∃ c s, compose (typedSample.map .fragment) = .ok c ∧ sanitize c = .ok s ∧
        Sanitized typedSample c s :=
  ⟨by decide, made_typedSample, named_typedSample,
    sanitize_effect (by decide) made_typedSample named_typedSample⟩

end LayeredLint
