import LayeredLint.Proofs.FlatConfig.References
import LayeredLint.Proofs.Json.Serialisable

/-!
# Fragments that can be rendered

Rendering fails at a value that has no text, and at a parser that is no module. A reference never
fails, as its module was met before. So the fragments that can be rendered are told part by part.

- `LanguageOptions.Serialisable`, `Fragment.Serialisable`: the parts of a fragment can be printed.
- `exists_languageMembers_iff`, `exists_entryMembers_iff`: what is rendered once all references of
  a fragment are among the imports.
- `exists_renderModule_iff`: **a module is rendered for these fragments, and for no others**.
-/

namespace LayeredLint

/-- Language options that can be printed: every option has a text, and the parser is unset or a
module. -/
structure LanguageOptions.Serialisable (o : LanguageOptions) : Prop where
  globals : ∀ e ∈ o.globals.entries, e.1.Scalar
  ecmaVersion : o.ecmaVersion.Serialisable
  parserOptions : (Value.dict o.parserOptions).Serialisable
  parser : o.parser = .null ∨ ∃ ref, o.parser = .module ref

/-- Language options with nothing but a parser can be printed. -/
theorem LanguageOptions.serialisable_of_parser {parser : Value}
    (h : parser = .null ∨ ∃ ref, parser = .module ref) :
    LanguageOptions.Serialisable { parser := parser } where
  globals _ he := nomatch he
  ecmaVersion := Value.Scalar.serialisable trivial
  parserOptions := show (Value.dict []).Serialisable by decide
  parser := h

/-- A fragment that can be printed. -/
structure Fragment.Serialisable (f : Fragment) : Prop where
  name : f.name.Serialisable
  rules : ∀ s ∈ f.rules.values, ∀ v ∈ s.options, v.Serialisable
  languageOptions : ∀ o ∈ f.languageOptions, o.Serialisable

theorem Fragment.Serialisable.importable {f : Fragment} (h : f.Serialisable) : f.Importable :=
  fun o ho => (h.languageOptions o ho).parser

/-! ## Values -/

theorem exists_dump_iff {v : Value} : (∃ text, dump v = .ok text) ↔ v.Serialisable := by
  rw [← Json.isSome_text?_iff Json.oneLine 0 v, dump, Json.line?]
  cases Json.text? Json.oneLine 0 v with
  | none =>
    refine iff_of_false ?_ Bool.false_ne_true
    rintro ⟨text, h⟩
    cases h
  | some cs => exact iff_of_true ⟨_, rfl⟩ rfl

theorem exists_memberFor_iff {name : String} {v? : Option Value} :
    (∃ members, memberFor name v? = .ok members) ↔ ∀ v ∈ v?, v.Serialisable := by
  cases v? with
  | none => exact iff_of_true ⟨[], rfl⟩ fun _ hv => nomatch hv
  | some v =>
    have hone : (∀ w ∈ some v, w.Serialisable) ↔ v.Serialisable :=
      ⟨fun h => h v rfl, fun h w hw => by cases hw; exact h⟩
    rw [hone, ← exists_dump_iff]
    exact exists_bind_return_iff fun text => [(name, text)]

theorem serialisable_textList (texts : List String) : (textList texts).Serialisable := by
  refine Value.serialisable_list.2 fun v hv => ?_
  obtain ⟨s, -, rfl⟩ := List.mem_map.1 hv
  exact Value.Scalar.serialisable trivial

/-- Patterns can be printed always. -/
theorem exists_patternsMember (name : String) (patterns : Option (List String)) :
    ∃ members, memberFor name (patterns.map textList) = .ok members := by
  refine exists_memberFor_iff.2 fun v hv => ?_
  obtain ⟨texts, -, rfl⟩ := Option.map_eq_some_iff.1 hv
  exact serialisable_textList texts

/-! ## Language options -/

section Parts

variable {o : LanguageOptions}

theorem serialisable_present? {v : Value} :
    (∀ w ∈ present? v, w.Serialisable) ↔ v.Serialisable := by
  cases v with
  | null => exact iff_of_true (fun _ hw => nomatch hw) (Value.Scalar.serialisable trivial)
  | _ =>
    refine ⟨fun h => h _ rfl, fun h w hw => ?_⟩
    cases hw
    exact h

theorem serialisable_globalsPart? :
    (∀ v ∈ o.globalsPart?, v.Serialisable) ↔ ∀ e ∈ o.globals.entries, e.1.Scalar := by
  have hvalue : (globalsValue o).Serialisable ↔ ∀ e ∈ o.globals.entries, e.1.Scalar := by
    refine Value.serialisable_dict.trans ⟨fun h e he => ?_, fun h => ⟨fun e he => ?_, fun e he => ?_⟩⟩
    · exact h.1 _ (List.mem_map_of_mem he)
    · obtain ⟨global, hglobal, rfl⟩ := List.mem_map.1 he
      exact h global hglobal
    · obtain ⟨global, -, rfl⟩ := List.mem_map.1 he
      exact Value.Scalar.serialisable trivial
  rw [← hvalue, LanguageOptions.globalsPart?]
  split
  · next hempty =>
    refine iff_of_true (fun _ hv => nomatch hv) (hvalue.2 fun e he => ?_)
    rw [List.isEmpty_iff.1 hempty] at he
    cases he
  · refine ⟨fun h => h _ rfl, fun h v hv => ?_⟩
    cases hv
    exact h

theorem serialisable_sourceTypePart? (o : LanguageOptions) :
    ∀ v ∈ o.sourceTypePart?, v.Serialisable := by
  intro v hv
  obtain ⟨t, -, rfl⟩ := Option.map_eq_some_iff.1 hv
  exact Value.Scalar.serialisable trivial

theorem serialisable_parserOptionsPart? : (∀ v ∈ o.parserOptionsPart?, v.Serialisable) ↔
    (Value.dict o.parserOptions).Serialisable := by
  rw [LanguageOptions.parserOptionsPart?]
  split
  · next hempty =>
    rw [List.isEmpty_iff.1 hempty]
    exact iff_of_true (fun _ hv => nomatch hv) (by decide)
  · refine ⟨fun h => h _ rfl, fun h v hv => ?_⟩
    cases hv
    exact h

end Parts

/-- The plain options are printed where each part can be. -/
theorem exists_plainMembers_iff {o : LanguageOptions} :
    (∃ plain, ((languagePayload o).mapM fun e => do
      let text ← dump e.2
      return (e.1, text)) = .ok plain) ↔
      (∀ e ∈ o.globals.entries, e.1.Scalar) ∧ o.ecmaVersion.Serialisable ∧
        (Value.dict o.parserOptions).Serialisable := by
  have hpart : ∀ (name : String) (v? : Option Value),
      (∀ e ∈ v?.toList.map (name, ·), e.2.Serialisable) ↔ ∀ v ∈ v?, v.Serialisable := by
    intro name v?
    cases v? <;> simp
  rw [exists_mapM_eq_ok_iff]
  simp only [exists_bind_return_iff, exists_dump_iff, languagePayload_eq, List.forall_mem_append, hpart,
    serialisable_globalsPart?, serialisable_present?, serialisable_parserOptionsPart?, and_assoc]
  rw [and_iff_right (serialisable_sourceTypePart? o)]

section Imports

variable {modules : List String}

/-- A parser is rendered if it is unset or a module, where that is among the imports. -/
theorem exists_parserMember_iff {parser : Value}
    (covered : ∀ ref, parser = .module ref → ref.module ∈ modules) :
    (∃ members, parserMember modules parser = .ok members) ↔
      parser = .null ∨ ∃ ref, parser = .module ref := by
  cases parser with
  | null => exact iff_of_true ⟨[], rfl⟩ (.inl rfl)
  | module ref =>
    obtain ⟨text, htext⟩ := exists_reference_iff.2 (covered ref rfl)
    refine iff_of_true ⟨[("parser", text)], ?_⟩ (.inr ⟨ref, rfl⟩)
    exact bind_eq_ok.2 ⟨text, htext, rfl⟩
  | _ =>
    refine iff_of_false (fun ⟨_, h⟩ => nomatch h) ?_
    rintro (hnull | ⟨ref, hmodule⟩)
    · cases hnull
    · cases hmodule

theorem exists_languageMembers_iff {o : LanguageOptions}
    (covered : ∀ ref, o.parser = .module ref → ref.module ∈ modules) :
    (∃ members, languageMembers modules o = .ok members) ↔ o.Serialisable := by
  have hsteps : (∃ members, languageMembers modules o = .ok members) ↔
      ((∀ e ∈ o.globals.entries, e.1.Scalar) ∧ o.ecmaVersion.Serialisable ∧
        (Value.dict o.parserOptions).Serialisable) ∧
      (o.parser = .null ∨ ∃ ref, o.parser = .module ref) ∧ True :=
    exists_bind_eq_ok_iff exists_plainMembers_iff fun plain _ =>
      exists_bind_eq_ok_iff (exists_parserMember_iff covered) fun parser _ =>
        iff_of_true ⟨plain ++ parser, rfl⟩ trivial
  rw [hsteps]
  constructor
  · rintro ⟨⟨globals, ecmaVersion, parserOptions⟩, parser, -⟩
    exact ⟨globals, ecmaVersion, parserOptions, parser⟩
  · rintro ⟨globals, ecmaVersion, parserOptions, parser⟩
    exact ⟨⟨globals, ecmaVersion, parserOptions⟩, parser, trivial⟩

/-- Empty language options are left out, and can be printed. -/
theorem exists_languagePart_iff {options : Option LanguageOptions}
    (covered : ∀ o ∈ options, ∀ ref, o.parser = .module ref → ref.module ∈ modules) :
    (∃ members, languagePart modules options = .ok members) ↔
      ∀ o ∈ options, o.Serialisable := by
  cases options with
  | none => exact iff_of_true ⟨[], rfl⟩ fun _ ho => nomatch ho
  | some o =>
    have hone : (∀ o' ∈ some o, o'.Serialisable) ↔ o.Serialisable :=
      ⟨fun h => h o rfl, fun h o' ho' => by cases ho'; exact h⟩
    rw [hone, languagePart]
    split
    · next hempty =>
      rw [LanguageOptions.eq_of_isEmpty hempty]
      exact iff_of_true ⟨[], rfl⟩ (LanguageOptions.serialisable_of_parser (.inl rfl))
    · rw [← exists_languageMembers_iff (covered o rfl)]
      exact exists_bind_return_iff fun members => [("languageOptions", braced members)]

/-! ## Plugins and rules -/

/-- Plugins are rendered always, where their modules are among the imports. -/
theorem exists_pluginPart {plugins : Table Name PluginHandle}
    (covered : ∀ e ∈ plugins.entries, e.2.source.module ∈ modules) :
    ∃ members, pluginPart modules plugins = .ok members := by
  unfold pluginPart
  split
  · exact ⟨[], rfl⟩
  · have hmembers : ∃ members, pluginMembers modules plugins = .ok members := by
      refine exists_mapM_eq_ok_iff.2 fun e he => ?_
      obtain ⟨text, htext⟩ := exists_reference_iff.2 (covered e he)
      exact ⟨_, bind_eq_ok.2 ⟨text, htext, rfl⟩⟩
    obtain ⟨members, h⟩ := hmembers
    exact ⟨_, bind_eq_ok.2 ⟨members, h, rfl⟩⟩

end Imports

theorem serialisable_canonical {s : RuleSetting} :
    s.canonical.Serialisable ↔ ∀ v ∈ s.options, v.Serialisable := by
  rw [RuleSetting.canonical]
  split
  · next hempty =>
    rw [List.isEmpty_iff.1 hempty]
    exact iff_of_true (Value.Scalar.serialisable trivial) (List.forall_mem_nil _)
  · rw [Value.serialisable_list, List.forall_mem_cons]
    exact and_iff_right (Value.Scalar.serialisable trivial)

theorem serialisable_canonicalRules {rules : Table Name RuleSetting} :
    (canonicalRules rules).Serialisable ↔
      ∀ s ∈ rules.values, ∀ v ∈ s.options, v.Serialisable := by
  refine Value.serialisable_dict.trans ⟨fun h s hs => ?_, fun h => ⟨fun e he => ?_, fun e he => ?_⟩⟩
  · obtain ⟨e, he, rfl⟩ := List.mem_map.1 hs
    exact serialisable_canonical.1 (h.2 _ (List.mem_map_of_mem he))
  · obtain ⟨rule, -, rfl⟩ := List.mem_map.1 he
    trivial
  · obtain ⟨rule, hrule, rfl⟩ := List.mem_map.1 he
    exact serialisable_canonical.2 (h rule.2 (List.mem_map_of_mem hrule))

/-- Rules are rendered if their options can be printed: these can be copied as well. -/
theorem exists_rulePart_iff {rules : Table Name RuleSetting} :
    (∃ members, rulePart rules = .ok members) ↔
      ∀ s ∈ rules.values, ∀ v ∈ s.options, v.Serialisable := by
  rw [rulePart]
  split
  · next hempty =>
    refine iff_of_true ⟨[], rfl⟩ fun s hs => ?_
    rw [Table.values, List.isEmpty_iff.1 hempty] at hs
    cases hs
  · constructor
    · rintro ⟨members, h⟩
      obtain ⟨v, hv, h⟩ := bind_eq_ok.1 h
      obtain ⟨-, rfl⟩ := rulesValue_eq_ok_iff.1 hv
      exact serialisable_canonicalRules.1 (exists_memberFor_iff.1 ⟨members, h⟩ _ rfl)
    · intro h
      have hcopy : ∀ e ∈ rules.entries, Value.copyableItems e.2.options = true := fun e he =>
        Value.copyableItems_of_serialisable (h e.2 (List.mem_map_of_mem he))
      have hmember : ∃ members, memberFor "rules" (some (canonicalRules rules)) = .ok members := by
        refine exists_memberFor_iff.2 fun v hv => ?_
        cases hv
        exact serialisable_canonicalRules.2 h
      obtain ⟨members, hmembers⟩ := hmember
      exact ⟨members, bind_eq_ok.2 ⟨_, rulesValue_eq_ok_iff.2 ⟨hcopy, rfl⟩, hmembers⟩⟩

/-! ## Entries and modules -/

/-- An entry is rendered if the fragment can be printed, once its references are imported. -/
theorem exists_entryMembers_iff {modules : List String} {f : Fragment}
    (covered : ∀ module ∈ f.modules, module ∈ modules) :
    (∃ members, entryMembers modules f = .ok members) ↔ f.Serialisable := by
  have hplugins : ∃ members, pluginPart modules f.plugins = .ok members :=
    exists_pluginPart fun e he => covered _ (Fragment.mem_modules_of_plugin he)
  have hlanguage : (∃ members, languagePart modules f.languageOptions = .ok members) ↔
      ∀ o ∈ f.languageOptions, o.Serialisable :=
    exists_languagePart_iff fun o ho ref href => covered _ (Fragment.mem_modules_of_parser ho href)
  have hsteps : (∃ members, entryMembers modules f = .ok members) ↔
      f.name.Serialisable ∧ True ∧ True ∧ True ∧ (∀ o ∈ f.languageOptions, o.Serialisable) ∧
        (∀ s ∈ f.rules.values, ∀ v ∈ s.options, v.Serialisable) ∧ True :=
    exists_bind_eq_ok_iff exists_dump_iff fun _ _ =>
      exists_bind_eq_ok_iff (iff_of_true (exists_patternsMember "files" f.files) trivial) fun _ _ =>
      exists_bind_eq_ok_iff (iff_of_true (exists_patternsMember "ignores" f.ignores) trivial)
        fun _ _ =>
      exists_bind_eq_ok_iff (iff_of_true hplugins trivial) fun _ _ =>
      exists_bind_eq_ok_iff hlanguage fun _ _ =>
      exists_bind_eq_ok_iff exists_rulePart_iff fun _ _ => iff_of_true ⟨_, rfl⟩ trivial
  rw [hsteps]
  constructor
  · rintro ⟨name, -, -, -, languageOptions, rules, -⟩
    exact ⟨name, rules, languageOptions⟩
  · rintro ⟨name, rules, languageOptions⟩
    exact ⟨name, trivial, trivial, trivial, languageOptions, rules, trivial⟩

/-- The imports cover the references of each fragment. -/
theorem covered_of_moduleNames {fs : List Fragment} {modules : List String}
    (h : moduleNames fs = .ok modules) {f : Fragment} (hf : f ∈ fs) :
    ∀ module ∈ f.modules, module ∈ modules := by
  intro module hmodule
  rw [(moduleNames_eq_ok_iff.1 h).2, mem_firstKeys]
  exact List.mem_flatMap.2 ⟨f, hf, hmodule⟩

/-- **Rendering succeeds** for fragments that can be printed, and for no others. -/
theorem exists_renderModule_iff {fs : List Fragment} :
    (∃ text, renderModule fs = .ok text) ↔ ∀ f ∈ fs, f.Serialisable := by
  have hmodules : (∃ modules, moduleNames fs = .ok modules) ↔ ∀ f ∈ fs, f.Importable := by
    simp only [moduleNames_eq_ok_iff, exists_and_left, exists_eq, and_true]
  have hentries : ∀ modules, moduleNames fs = .ok modules →
      ((∃ entries, (fs.mapM fun f => do
        let members ← entryMembers modules f
        return "  " ++ braced members ++ ",") = .ok entries) ↔ ∀ f ∈ fs, f.Serialisable) := by
    intro modules h
    rw [exists_mapM_eq_ok_iff]
    refine forall₂_congr fun f hf => ?_
    rw [exists_bind_return_iff, exists_entryMembers_iff (covered_of_moduleNames h hf)]
  have hsteps : (∃ text, renderModule fs = .ok text) ↔
      ((∀ f ∈ fs, f.Importable) ∧ (∀ f ∈ fs, f.Serialisable) ∧ True) ∧ True :=
    exists_bind_eq_ok_iff (exists_bind_eq_ok_iff hmodules fun modules h =>
      exists_bind_eq_ok_iff (hentries modules h) fun entries _ => iff_of_true ⟨_, rfl⟩ trivial)
      fun lines _ => iff_of_true ⟨_, rfl⟩ trivial
  rw [hsteps]
  constructor
  · rintro ⟨⟨-, h, -⟩, -⟩
    exact h
  · intro h
    exact ⟨⟨fun f hf => (h f hf).importable, h, trivial⟩, trivial⟩

end LayeredLint
