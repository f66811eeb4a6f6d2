import LayeredLint.Proofs.Composition.Repeat
import LayeredLint.Proofs.Sanitizer.Effect

/-!
# Sanitizing a second time

A sanitized configuration may be handed in to be sanitized. No fragment of it asks for type
information any more, and its plugins are those it had, so the same rules are switched off by one
more copy of the sanitizer fragment, right behind the first.

- `Fragment.Typeless`: a fragment that stripping leaves as it is.
- `typeless_sanitized`, `made_sanitized`: the fragments of a sanitized configuration are such, and
  they pass the checks of a fragment.
- `disabledRules_flatten_sanitized`: the same rules are switched off again.
- `sanitize_again`: **sanitizing twice is sanitizing once**.
-/

namespace LayeredLint

/-! ## Nothing left to strip -/

theorem LanguageOptions.withoutTypes_idem (o : LanguageOptions) :
    o.withoutTypes.withoutTypes = o.withoutTypes := by
  have hentries :
      (o.parserOptions.filter fun e => e.1 ∉ typeKeys).filter (fun e => e.1 ∉ typeKeys) =
        o.parserOptions.filter fun e => e.1 ∉ typeKeys := by
    rw [List.filter_filter]
    simp only [Bool.and_self]
  exact congrArg (fun entries => { o with parserOptions := entries }) hentries

theorem LanguageOptions.made_withoutTypes {o : LanguageOptions} (h : o.Made) :
    o.withoutTypes.Made :=
  ⟨_, strippedOptions_eq h⟩

namespace Fragment

/-- Stripping leaves the fragment as it is. -/
def Typeless (f : Fragment) : Prop :=
  f.withoutTypes = f

theorem typeless_withoutTypes (f : Fragment) : f.withoutTypes.Typeless := by
  have hlanguage : (f.languageOptions.map LanguageOptions.withoutTypes).map
      LanguageOptions.withoutTypes = f.languageOptions.map LanguageOptions.withoutTypes := by
    rw [Option.map_map]
    exact congrFun (congrArg Option.map (funext LanguageOptions.withoutTypes_idem)) _
  exact congrArg (fun language => { f with languageOptions := language }) hlanguage

theorem map_withoutTypes_of_typeless {fs : List Fragment} (h : ∀ f ∈ fs, f.Typeless) :
    fs.map withoutTypes = fs := by
  rw [List.map_congr_left h, List.map_id']

theorem made_withoutTypes {f : Fragment} (h : f.Made) : f.withoutTypes.Made := by
  obtain ⟨good, made⟩ := made_iff.1 h
  refine made_iff.2 ⟨{ good with }, fun o ho => ?_⟩
  obtain ⟨before, hbefore, rfl⟩ := Option.map_eq_some_iff.1 ho
  exact LanguageOptions.made_withoutTypes (made before hbefore)

end Fragment

theorem typeless_sanitizerFragment (rules : List String) : (sanitizerFragment rules).Typeless :=
  rfl

theorem made_sanitizerFragment {rules : List String} (hsorted : rules.Pairwise (· < ·))
    (hnamed : "" ∉ rules) : (sanitizerFragment rules).Made :=
  ⟨⟨_, Sanitizer.offFragment_eq hsorted hnamed⟩, fun _ ho => nomatch ho⟩

/-! ## The fragments of a sanitized configuration -/

theorem typeless_sanitized (fs : List Fragment) (rules : List String) :
    ∀ f ∈ fs.map Fragment.withoutTypes ++ [sanitizerFragment rules], f.Typeless := by
  rw [List.forall_mem_append, List.forall_mem_map, List.forall_mem_singleton]
  exact ⟨fun f _ => f.typeless_withoutTypes, typeless_sanitizerFragment rules⟩

section Sanitized

variable {fs : List Fragment} {rules : List String}

theorem made_sanitized (made : ∀ f ∈ fs, f.Made) (hsorted : rules.Pairwise (· < ·))
    (hnamed : "" ∉ rules) :
    ∀ f ∈ fs.map Fragment.withoutTypes ++ [sanitizerFragment rules], f.Made := by
  rw [List.forall_mem_append, List.forall_mem_map, List.forall_mem_singleton]
  exact ⟨fun f hf => Fragment.made_withoutTypes (made f hf),
    made_sanitizerFragment hsorted hnamed⟩

/-- The rules that are switched off depend on the plugins only, and sanitizing keeps these. -/
theorem disabledRules_flatten_sanitized :
    disabledRules (flatten (fs.map Fragment.withoutTypes ++ [sanitizerFragment rules])) =
      disabledRules (flatten fs) := by
  rw [disabledRules, EffectiveConfiguration.typeAwareRules, plugins_flatten_sanitized]
  rfl

end Sanitized

/-- A sanitized configuration is sanitized again by one more sanitizer fragment, the same as the
first. -/
theorem sanitize_flatten_sanitized {fs : List Fragment} (made : ∀ f ∈ fs, f.Made)
    (named : (flatten fs).NamesTypeAware) :
    sanitize (flatten
        (fs.map Fragment.withoutTypes ++ [sanitizerFragment (disabledRules (flatten fs))])) =
      .ok (flatten (fs.map Fragment.withoutTypes ++
        [sanitizerFragment (disabledRules (flatten fs))] ++
          [sanitizerFragment (disabledRules (flatten fs))])) := by
  have made' := made_sanitized made (pairwise_disabledRules (flatten fs))
    (empty_not_mem_disabledRules named)
  have named' : (flatten (fs.map Fragment.withoutTypes ++
      [sanitizerFragment (disabledRules (flatten fs))])).NamesTypeAware := by
    rw [EffectiveConfiguration.NamesTypeAware, plugins_flatten_sanitized]
    exact named
  rw [sanitize_eq made' named', disabledRules_flatten_sanitized]
  -- stripping finds nothing in fragments that are stripped already
  have hstripped := Fragment.map_withoutTypes_of_typeless
    (typeless_sanitized fs (disabledRules (flatten fs)))
  exact congrArg (fun gs => Except.ok (flatten (gs ++ _))) hstripped

/-- **Sanitizing twice is sanitizing once.** A sanitized configuration can be sanitized again; the
same rules are switched off, and plugins, rules and language options come out equal, with the order
of their keys. All that is added is a second copy of the sanitizer fragment. -/
theorem sanitize_again {fs : List Fragment} (nonempty : fs ≠ []) (made : ∀ f ∈ fs, f.Made)
    (named : ∀ f ∈ fs, ∀ handle ∈ f.plugins.values, "" ∉ handle.typeAwareRules) :
    ∃ c s t, compose (fs.map .fragment) = .ok c ∧ sanitize c = .ok s ∧ sanitize s = .ok t ∧
      disabledRules s = disabledRules c ∧ t.plugins = s.plugins ∧ t.rules = s.rules ∧
      t.languageOptions = s.languageOptions ∧
      s.fragments = fs.map Fragment.withoutTypes ++ [sanitizerFragment (disabledRules c)] ∧
      t.fragments = s.fragments ++ [sanitizerFragment (disabledRules c)] := by
  have named' := namesTypeAware_flatten named
  refine ⟨flatten fs, _, _, compose_map nonempty, sanitize_eq made named',
    sanitize_flatten_sanitized made named', disabledRules_flatten_sanitized,
    plugins_flatten_append_self _ _, rules_flatten_append_self _ _, ?_, rfl, rfl⟩
  -- the second copy declares no language options, as little as the first
  show LanguageOptions.merge _ = LanguageOptions.merge _
  rw [List.filterMap_append]
  exact congrArg LanguageOptions.merge (List.append_nil _)

/-- The rule that a later fragment switches on again is off after the first time and the second. -/
theorem sanitize_again_typedSample :
    typedSample ≠ [] ∧ (∀ f ∈ typedSample, f.Made) ∧
      (∀ f ∈ typedSample, ∀ handle ∈ f.plugins.values, "" ∉ handle.typeAwareRules) ∧
      ∃ c s t, compose (typedSample.map .fragment) = .ok c ∧ sanitize c = .ok s ∧
        sanitize s = .ok t ∧ t.rules = s.rules ∧ t.languageOptions = s.languageOptions ∧
        s.fragments.length = 3 ∧ t.fragments.length = 4 := by
  obtain ⟨c, s, t, hc, hs, ht, -, -, hrules, hlanguage, hfragments, hmore⟩ :=
    sanitize_again (show typedSample ≠ [] by decide) made_typedSample named_typedSample
  have hlength : s.fragments.length = 3 := by rw [hfragments]; rfl
  refine ⟨by decide, made_typedSample, named_typedSample, c, s, t, hc, hs, ht, hrules, hlanguage,
    hlength, ?_⟩
  rw [hmore, List.length_append, hlength]
  rfl

end LayeredLint
