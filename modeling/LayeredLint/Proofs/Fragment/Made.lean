import LayeredLint.Fragment
import LayeredLint.Proofs.Except
import LayeredLint.Proofs.Table.LastWrite

/-!
# Fragments made again from their parts

The checks of a fragment and of language options look at raw parts. What passed them once passes
them again, and nothing is changed on the way.

- `LanguageOptions.Made`, `Fragment.Made`: options and fragments that passed the checks.
- `LanguageOptions.make_parts_with`, `Fragment.make_parts`: **what passed the checks is made again
  from its own parts**.
- `LanguageOptions.made_iff`, `Fragment.made_iff`: what the checks ask for.
-/

namespace LayeredLint

/-! ## Language options -/

namespace LanguageOptions

/-- The options passed the checks on raw parts. -/
def Made (o : LanguageOptions) : Prop :=
  ∃ raw, make raw = .ok o

theorem accessOfValue_word (identifier : Value) (access : GlobalAccess) :
    accessOfValue identifier (.str access.word) = .ok access := by
  cases access <;> rfl

theorem accesses_words (globals : List (Value × GlobalAccess)) :
    accesses (globals.map fun e => (e.1, .str e.2.word)) = .ok globals := by
  induction globals with
  | nil => rfl
  | cons e rest ih =>
    rw [List.map_cons, accesses, accessOfValue_word, ih]
    rfl

theorem globalsOfValue_parts (o : LanguageOptions) :
    globalsOfValue o.parts.globals = .ok o.globals := by
  rw [parts, globalsOfValue, accesses_words]
  exact congrArg Except.ok o.globals.ofList_entries

theorem sourceTypeOfValue_parts (o : LanguageOptions) :
    sourceTypeOfValue o.parts.sourceType = .ok o.sourceType := by
  rw [parts]
  cases o.sourceType with
  | none => rfl
  | some t => cases t <;> rfl

/-- Options are made again from their parts, with any parser options that can be copied. -/
theorem make_parts_with (o : LanguageOptions) {entries : List (Value × Value)}
    (h : Value.copyableEntries entries = true) :
    make { o.parts with parserOptions := .dict entries } =
      .ok { o with parserOptions := entries } := by
  have hparser : parserOptionsOfValue (.dict entries) = .ok entries := by
    rw [parserOptionsOfValue, if_pos h]
  rw [make, globalsOfValue_parts, hparser, sourceTypeOfValue_parts]
  rfl

/-- The checks ask for parser options that can be copied. -/
theorem made_iff {o : LanguageOptions} :
    o.Made ↔ Value.copyableEntries o.parserOptions = true := by
  constructor
  · rintro ⟨raw, h⟩
    obtain ⟨globals, -, h⟩ := bind_eq_ok.1 h
    obtain ⟨entries, hentries, h⟩ := bind_eq_ok.1 h
    obtain ⟨sourceType, -, h⟩ := bind_eq_ok.1 h
    cases h
    show Value.copyableEntries entries = true
    unfold parserOptionsOfValue at hentries
    split at hentries
    · split at hentries
      · next hcopy => cases hentries; exact hcopy
      · cases hentries
    · cases hentries
  · exact fun h => ⟨_, make_parts_with o h⟩

instance (o : LanguageOptions) : Decidable o.Made :=
  decidable_of_iff _ made_iff.symm

theorem ofValue?_toValue (o : LanguageOptions) : ofValue? o.toValue = some o := by
  rw [toValue, ofValue?, o.globals.ofList_entries]

end LanguageOptions

/-! ## Fragments -/

namespace Fragment

/-- The fragment passed the checks on raw parts, and so did its language options before. -/
def Made (f : Fragment) : Prop :=
  (∃ raw, make raw = .ok f) ∧ ∀ o ∈ f.languageOptions, o.Made

/-- What the checks ask of patterns. -/
def GoodPatterns (field : PatternField) (patterns? : Option (List String)) : Prop :=
  ∀ patterns ∈ patterns?,
    (∀ p ∈ patterns, Text.isBlankText p = false) ∧ (field = .files → patterns ≠ [])

/-- What the checks ask of the names in a table. -/
def GoodNames {α : Type} (t : Table Name α) : Prop :=
  ∀ n ∈ t.keys, n.word ≠ ""

instance (field : PatternField) (patterns? : Option (List String)) :
    Decidable (GoodPatterns field patterns?) :=
  inferInstanceAs (Decidable (∀ patterns ∈ patterns?, _))

instance {α : Type} (t : Table Name α) : Decidable (GoodNames t) :=
  inferInstanceAs (Decidable (∀ n ∈ t.keys, _))

/-- What the checks ask of a fragment, its language options left aside. -/
structure Good (f : Fragment) : Prop where
  name : f.name.truthy = true
  ignores : GoodPatterns .ignores f.ignores
  files : GoodPatterns .files f.files
  plugins : GoodNames f.plugins
  rules : GoodNames f.rules

theorem good_iff {f : Fragment} :
    f.Good ↔ f.name.truthy = true ∧ GoodPatterns .ignores f.ignores ∧ GoodPatterns .files f.files ∧
      GoodNames f.plugins ∧ GoodNames f.rules :=
  ⟨fun ⟨name, ignores, files, plugins, rules⟩ => ⟨name, ignores, files, plugins, rules⟩,
    fun ⟨name, ignores, files, plugins, rules⟩ => ⟨name, ignores, files, plugins, rules⟩⟩

instance (f : Fragment) : Decidable f.Good :=
  decidable_of_iff _ good_iff.symm

/-! ### Patterns -/

theorem patternOfValue_str {p : String} (h : Text.isBlankText p = false) (name : Value)
    (field : PatternField) : patternOfValue name field (.str p) = .ok p := by
  show (if Text.isBlankText p = true then _ else _) = _
  rw [if_neg (by rw [h]; exact Bool.false_ne_true)]

theorem not_blank_of_patternOfValue {name v : Value} {field : PatternField} {p : String}
    (h : patternOfValue name field v = .ok p) : Text.isBlankText p = false := by
  unfold patternOfValue at h
  split at h
  · split at h
    · cases h
    · next hblank => cases h; simpa using hblank
  · cases h

theorem optionalPatterns_part {field : PatternField} {patterns? : Option (List String)}
    (h : GoodPatterns field patterns?) (name : Value) :
    optionalPatterns name field (patternsPart patterns?) = .ok patterns? := by
  cases patterns? with
  | none => rfl
  | some patterns =>
    obtain ⟨hblank, hfiles⟩ := h patterns rfl
    -- The parts hold a tuple, which is checked pattern by pattern and then for being empty.
    have hmap : (patterns.map Value.str).mapM (patternOfValue name field) = .ok patterns := by
      rw [mapM_eq_ok_iff, List.forall₂_map_left_iff, List.forall₂_same]
      exact fun p hp => patternOfValue_str (hblank p hp) name field
    have hsome : ¬(field = .files ∧ patterns.isEmpty = true) := fun ⟨hf, hempty⟩ =>
      hfiles hf (List.isEmpty_iff.1 hempty)
    show some <$> patternsOfValue name field (.tuple (patterns.map .str)) = _
    rw [patternsOfValue]
    simp only [items?, hmap]
    show some <$> (if _ then _ else _) = _
    rw [if_neg hsome]
    rfl

theorem goodPatterns_of_optionalPatterns {name v : Value} {field : PatternField}
    {patterns? : Option (List String)} (h : optionalPatterns name field v = .ok patterns?) :
    GoodPatterns field patterns? := by
  intro patterns hp
  subst hp
  have hv : patternsOfValue name field v = .ok patterns := by
    unfold optionalPatterns at h
    split at h
    · cases h
    · obtain ⟨found, hfound, hsome⟩ := map_eq_ok.1 h
      rw [hfound, Option.some.inj hsome]
  unfold patternsOfValue at hv
  split at hv
  · cases hv
  · obtain ⟨found, hfound, hv⟩ := bind_eq_ok.1 hv
    have hgood : ∀ p ∈ found, Text.isBlankText p = false := by
      intro p hp
      obtain ⟨v, -, hv⟩ := exists_of_mem_mapM hfound hp
      exact not_blank_of_patternOfValue hv
    by_cases hempty : field = .files ∧ found.isEmpty = true
    · rw [if_pos hempty] at hv
      cases hv
    · rw [if_neg hempty] at hv
      cases hv
      exact ⟨hgood, fun hf hnil => hempty ⟨hf, List.isEmpty_iff.2 hnil⟩⟩

/-! ### Plugins and rules -/

section Tables

variable {α : Type} {read : Value × Value → Except Failure (Name × α)}

/-- A table of names is read again from its entries, where each of them is. -/
theorem ofList_mapM_parts {write : Name × α → Value × Value} {t : Table Name α}
    (h : ∀ e ∈ t.entries, read (write e) = .ok e) :
    Table.ofList <$> (t.entries.map write).mapM read = .ok t := by
  have hmap : (t.entries.map write).mapM read = .ok t.entries := by
    rw [mapM_eq_ok_iff, List.forall₂_map_left_iff, List.forall₂_same]
    exact h
  rw [hmap]
  exact congrArg Except.ok t.ofList_entries

theorem goodNames_of_ofList_mapM (h : ∀ v e, read v = .ok e → e.1.word ≠ "")
    {entries : List (Value × Value)} {t : Table Name α}
    (ht : Table.ofList <$> entries.mapM read = .ok t) : GoodNames t := by
  obtain ⟨assignments, hread, rfl⟩ := map_eq_ok.1 ht
  intro n hn
  rw [Table.keys_ofList] at hn
  obtain ⟨e, he, rfl⟩ := List.mem_map.1 ((firstKeys_sublist _).mem hn)
  obtain ⟨v, -, hv⟩ := exists_of_mem_mapM hread he
  exact h v e hv

end Tables

theorem nameOfKey?_toValue {n : Name} (h : n.word ≠ "") : nameOfKey? n.toValue = some n := by
  rw [nameOfKey?, Name.ofValue?_toValue, Option.filter_some, if_pos (by simpa using h)]

theorem word_ne_of_nameOfKey? {key : Value} {n : Name} (h : nameOfKey? key = some n) :
    n.word ≠ "" := by
  simpa using (Option.filter_eq_some_iff.1 h).2

theorem pluginOfEntry_part (name : Value) {n : Name} (h : n.word ≠ "") (handle : PluginHandle) :
    pluginOfEntry name (n.toValue, .handle handle) = .ok (n, handle) := by
  unfold pluginOfEntry
  simp only [nameOfKey?_toValue h]

theorem ruleOfEntry_part (name : Value) {n : Name} (h : n.word ≠ "") (setting : RuleSetting) :
    ruleOfEntry name (n.toValue, setting.toValue) = .ok (n, setting) := by
  unfold ruleOfEntry
  simp only [nameOfKey?_toValue h]
  rfl

theorem word_ne_of_pluginOfEntry {name : Value} (v : Value × Value) (e : Name × PluginHandle)
    (h : pluginOfEntry name v = .ok e) : e.1.word ≠ "" := by
  obtain ⟨key, v⟩ := v
  unfold pluginOfEntry at h
  cases hkey : nameOfKey? key with
  | none => simp only [hkey] at h; cases h
  | some n =>
    cases v with
    | handle plugin => simp only [hkey] at h; cases h; exact word_ne_of_nameOfKey? hkey
    | _ => simp only [hkey] at h; cases h

/-- An entry gives a rule the setting that its value stands for. -/
theorem ruleOfEntry_eq_ok {name : Value} {v : Value × Value} {e : Name × RuleSetting}
    (h : ruleOfEntry name v = .ok e) :
    nameOfKey? v.1 = some e.1 ∧ RuleSetting.ofValue v.1.display v.2 = .ok e.2 := by
  obtain ⟨key, v⟩ := v
  unfold ruleOfEntry at h
  cases hkey : nameOfKey? key with
  | none => simp only [hkey] at h; cases h
  | some n =>
    simp only [hkey] at h
    obtain ⟨setting, hsetting, h⟩ := bind_eq_ok.1 h
    cases h
    exact ⟨rfl, hsetting⟩

theorem word_ne_of_ruleOfEntry {name : Value} (v : Value × Value) (e : Name × RuleSetting)
    (h : ruleOfEntry name v = .ok e) : e.1.word ≠ "" :=
  word_ne_of_nameOfKey? (ruleOfEntry_eq_ok h).1

theorem mem_keys_of_mem_entries {α : Type} {t : Table Name α} {e : Name × α}
    (h : e ∈ t.entries) : e.1 ∈ t.keys :=
  List.mem_map_of_mem h

/-! ### The whole fragment -/

theorem languageOfValue_part (name : Value) (language : Option LanguageOptions) :
    languageOfValue name ((language.map LanguageOptions.toValue).getD .null) = .ok language := by
  cases language with
  | none => rfl
  | some o =>
    have hnull : o.toValue = .null → False := fun h => by cases h
    rw [Option.map_some, Option.getD_some, languageOfValue, o.ofValue?_toValue]
    exact hnull

/-- **What passed the checks is made again** from its own parts, unchanged. -/
theorem make_parts {f : Fragment} (h : f.Good) : make f.parts = .ok f := by
  have hname : ¬((!f.parts.name.truthy) = true) := by
    show ¬((!f.name.truthy) = true)
    rw [h.name]
    exact Bool.false_ne_true
  have hplugins : pluginsOfValue f.name f.parts.plugins = .ok f.plugins :=
    ofList_mapM_parts fun e he =>
      pluginOfEntry_part f.name (h.plugins _ (mem_keys_of_mem_entries he)) e.2
  have hrules : rulesOfValue f.name f.parts.rules = .ok f.rules :=
    ofList_mapM_parts fun e he =>
      ruleOfEntry_part f.name (h.rules _ (mem_keys_of_mem_entries he)) e.2
  have hlanguage : languageOfValue f.name f.parts.languageOptions = .ok f.languageOptions :=
    languageOfValue_part f.name f.languageOptions
  unfold make
  rw [if_neg hname]
  show (do
    let ignores ← optionalPatterns f.name .ignores (patternsPart f.ignores)
    let files ← optionalPatterns f.name .files (patternsPart f.files)
    let plugins ← pluginsOfValue f.name f.parts.plugins
    let rules ← rulesOfValue f.name f.parts.rules
    let languageOptions ← languageOfValue f.name f.parts.languageOptions
    return (⟨f.name, ignores, files, plugins, rules, languageOptions⟩ : Fragment)) = _
  rw [optionalPatterns_part h.ignores, optionalPatterns_part h.files, hplugins, hrules, hlanguage]
  rfl

theorem good_of_make {raw : RawFragment} {f : Fragment} (h : make raw = .ok f) : f.Good := by
  unfold make at h
  by_cases hname : (!raw.name.truthy) = true
  · rw [if_pos hname] at h
    cases h
  · rw [if_neg hname] at h
    obtain ⟨ignores, hignores, h⟩ := bind_eq_ok.1 h
    obtain ⟨files, hfiles, h⟩ := bind_eq_ok.1 h
    obtain ⟨plugins, hplugins, h⟩ := bind_eq_ok.1 h
    obtain ⟨rules, hrules, h⟩ := bind_eq_ok.1 h
    obtain ⟨language, -, h⟩ := bind_eq_ok.1 h
    cases h
    refine
      { name := by simpa using hname
        ignores := goodPatterns_of_optionalPatterns hignores
        files := goodPatterns_of_optionalPatterns hfiles
        plugins := ?_
        rules := ?_ }
    · unfold pluginsOfValue at hplugins
      split at hplugins
      · exact goodNames_of_ofList_mapM word_ne_of_pluginOfEntry hplugins
      · cases hplugins
    · unfold rulesOfValue at hrules
      split at hrules
      · exact goodNames_of_ofList_mapM word_ne_of_ruleOfEntry hrules
      · cases hrules

/-- The checks ask for a good fragment with language options that passed theirs. -/
theorem made_iff {f : Fragment} :
    f.Made ↔ f.Good ∧ ∀ o ∈ f.languageOptions, o.Made :=
  and_congr_left fun _ => ⟨fun ⟨_, h⟩ => good_of_make h, fun h => ⟨_, make_parts h⟩⟩

instance (f : Fragment) : Decidable f.Made :=
  decidable_of_iff _ made_iff.symm

end Fragment

end LayeredLint
