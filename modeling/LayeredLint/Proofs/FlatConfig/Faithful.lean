import LayeredLint.Proofs.FlatConfig.Members

/-!
# Rendering loses nothing

The linter sees of a fragment what its entry says. Fragments whose modules have one text are seen
alike, one by one: no part is dropped, merged with another or ambiguous. Seen alike are a tuple and a
list, though, and what no text tells apart either is a character and its two halves side by side.

- `Fragment.Renderable`: names are texts, options are documents without floating point numbers, and
  exports go by letters, digits, `_` and `$`.
- `Fragment.SeenAlike`: two fragments are equal in what the linter sees of them.
- `inherited_isMember`: the members of an entry are expressions.
- `seenAlike_of_entryParts`: fragments with one entry are seen alike.
- `renderModule_faithful`: **lists of fragments whose modules have one text are seen alike**.
- `renderModule_conflates`: fragments that differ, and have one text.
-/

namespace LayeredLint

open Json (stringText)

/-! ## What can be rendered -/

/-- Language options with texts as the names of globals, and with documents as values. -/
structure LanguageOptions.Renderable (o : LanguageOptions) : Prop where
  globals : ∀ e ∈ o.globals.entries, e.1.IsText
  ecmaVersion : o.ecmaVersion.IsJson
  parserOptions : (Value.dict o.parserOptions).IsJson
  parser : ∀ ref, o.parser = .module ref → ref.Nameable

/-- A fragment with a text as its name, and with documents as options. -/
structure Fragment.Renderable (f : Fragment) : Prop where
  name : f.name.IsText
  plugins : ∀ handle ∈ f.plugins.values, handle.source.Nameable
  rules : ∀ s ∈ f.rules.values, ∀ v ∈ s.options, v.IsJson
  languageOptions : ∀ o ∈ f.languageOptions, o.Renderable

/-! ## What the linter sees -/

/-- Language options that are equal in every part: globals and parser options with the order of
their keys, values as they come back from a document. -/
structure LanguageOptions.SeenAlike (o o' : LanguageOptions) : Prop where
  globals : o.globals.entries.map (fun e => (e.1.plain, e.2)) =
    o'.globals.entries.map (fun e => (e.1.plain, e.2))
  ecmaVersion : o.ecmaVersion.plain = o'.ecmaVersion.plain
  sourceType : o.sourceType = o'.sourceType
  parser : o.parser = o'.parser
  parserOptions : Value.plainMembers o.parserOptions = Value.plainMembers o'.parserOptions

/-- Fragments that are equal in what the linter sees of them: plugins by name and source, rules by
id and canonical value, both in order, and language options, where none count as empty ones. -/
structure Fragment.SeenAlike (f g : Fragment) : Prop where
  name : f.name.plain = g.name.plain
  files : f.files = g.files
  ignores : f.ignores = g.ignores
  plugins : f.plugins.entries.map (fun e => (e.1.word, e.2.source)) =
    g.plugins.entries.map (fun e => (e.1.word, e.2.source))
  rules : f.rules.entries.map (fun e => (e.1.word, e.2.canonical.plain)) =
    g.rules.entries.map (fun e => (e.1.word, e.2.canonical.plain))
  languageOptions : (f.languageOptions.getD {}).SeenAlike (g.languageOptions.getD {})

/-! ## Members are expressions -/

/-- Names of parts are words, so they stand as keys without quotes. -/
theorem key_of_mem_names {name : String} (h : name ∈ entryNames ++ languageNames) :
    Key name.toList := by
  have hwords : ∀ name ∈ entryNames ++ languageNames,
      name.toList ≠ [] ∧ name.toList.all Char.isAlpha = true := by decide
  exact .word (hwords name h).1 (List.all_eq_true.1 (hwords name h).2)

/-- Members are expressions, where values are documents and exports go by letters and the like. -/
theorem inherited_isMember (modules : List String) :
    Inherited modules Value.IsJson ModuleRef.Nameable IsMember where
  document hname hv htext := .of_expression (key_of_mem_names hname) (expression_dump hv htext)
  plugin href htext :=
    .of_expression (String.toList_ofList ▸ .quoted _) (expression_reference href htext)
  parser href htext :=
    have hname : "parser" ∈ entryNames ++ languageNames := by decide
    .of_expression (key_of_mem_names hname) (expression_reference href htext)
  braces hname hinner :=
    .of_expression (key_of_mem_names (List.mem_append_left _ hname)) (expression_braced hinner)

/-! ### Values of the parts -/

theorem isJson_of_isText {v : Value} (h : v.IsText) : v.IsJson := by
  cases v with
  | str _ | severity _ => exact .of_leaf rfl trivial
  | brokenText _ => exact .of_leaf rfl h.2
  | _ => cases h.1

theorem isJson_patterns (patterns : Option (List String)) :
    ∀ v ∈ patterns.map textList, v.IsJson := by
  intro v hv
  obtain ⟨texts, -, rfl⟩ := Option.map_eq_some_iff.1 hv
  refine Value.throughout_list.2 ⟨trivial, fun v hv => ?_⟩
  obtain ⟨s, -, rfl⟩ := List.mem_map.1 hv
  exact .of_leaf rfl trivial

theorem LanguageOptions.Renderable.fits {o : LanguageOptions} (h : o.Renderable) :
    o.Fits Value.IsJson ModuleRef.Nameable where
  globals := by
    intro v hv
    unfold globalsPart? at hv
    split at hv
    · cases hv
    · cases hv
      refine Value.throughout_dict.2 ⟨⟨?_, ?_⟩, ?_⟩
      · intro e he
        obtain ⟨global, hglobal, rfl⟩ := List.mem_map.1 he
        exact h.globals global hglobal
      · exact List.pairwise_map.2 o.globals.distinct
      · intro e he
        obtain ⟨e, -, rfl⟩ := List.mem_map.1 he
        exact .of_leaf rfl trivial
  ecmaVersion := by
    intro v hv
    unfold present? at hv
    split at hv <;> cases hv
    exact h.ecmaVersion
  sourceType := by
    intro v hv
    obtain ⟨t, -, rfl⟩ := Option.map_eq_some_iff.1 hv
    exact .of_leaf rfl trivial
  parserOptions := by
    intro v hv
    unfold parserOptionsPart? at hv
    split at hv
    · cases hv
    · cases hv
      exact h.parserOptions
  parser := h.parser

theorem LanguageOptions.renderable_empty : LanguageOptions.Renderable {} where
  globals _ he := nomatch he
  ecmaVersion := .of_leaf rfl trivial
  parserOptions := show (Value.dict []).IsJson by decide
  parser _ href := nomatch href

theorem Fragment.Renderable.fits {f : Fragment} (h : f.Renderable) :
    f.Fits Value.IsJson ModuleRef.Nameable where
  name := isJson_of_isText h.name
  files := isJson_patterns f.files
  ignores := isJson_patterns f.ignores
  plugins := h.plugins
  languageOptions := by
    cases hlanguage : f.languageOptions with
    | none => exact LanguageOptions.renderable_empty.fits
    | some o => exact (h.languageOptions o hlanguage).fits
  rules := by
    intro v hv
    unfold rulesPart? at hv
    split at hv
    · cases hv
    · cases hv
      exact throughout_canonicalRules (fun _ => trivial) (fun _ => trivial) (fun _ hdict => hdict)
        h.rules

/-! ## Fragments with one entry -/

/-- A table comes back with its entries, also where it is left out when it is empty. -/
theorem map_plain_eq_of_part {α : Type} {write : α → Value × Value} {as bs : List α}
    (h : (if as.isEmpty then none else some (Value.dict (as.map write))).map Value.plain =
      (if bs.isEmpty then none else some (Value.dict (bs.map write))).map Value.plain) :
    as.map (fun e => ((write e).1.plain, (write e).2.plain)) =
      bs.map (fun e => ((write e).1.plain, (write e).2.plain)) := by
  cases as with
  | nil =>
    cases bs with
    | nil => rfl
    | cons b bs => cases h
  | cons a as =>
    cases bs with
    | nil => cases h
    | cons b bs =>
      injection h with h
      injection h with h
      rw [Value.plainMembers_eq_map, Value.plainMembers_eq_map, List.map_map, List.map_map] at h
      exact h

theorem plain_eq_of_present? {v w : Value}
    (h : (present? v).map Value.plain = (present? w).map Value.plain) : v.plain = w.plain := by
  have hset : ∀ {v : Value}, v ≠ .null → present? v = some v := by
    intro v hv
    cases v <;> first | rfl | exact absurd rfl hv
  by_cases hv : v = .null
  · by_cases hw : w = .null
    · rw [hv, hw]
    · rw [hv, hset hw] at h
      cases h
  · by_cases hw : w = .null
    · rw [hw, hset hv] at h
      cases h
    · rw [hset hv, hset hw] at h
      exact Option.some.inj h

/-- Patterns with one member, or none, are the same. -/
theorem patterns_eq_of_plain {patterns patterns' : Option (List String)}
    (h : (patterns.map textList).map Value.plain = (patterns'.map textList).map Value.plain) :
    patterns = patterns' := by
  have htexts : ∀ texts : List String, (textList texts).plain = .list (texts.map .str) := by
    intro texts
    rw [textList, Value.plain, Value.plainItems_eq_map, List.map_map]
    rfl
  rw [Option.map_map, Option.map_map] at h
  refine Option.map_injective (fun texts texts' heq => ?_) h
  rw [Function.comp_apply, Function.comp_apply, htexts, htexts] at heq
  injection heq with heq
  exact List.map_injective_iff.2 (fun _ _ hs => Value.str.inj hs) heq

theorem sourceType_eq_of_plain {o o' : LanguageOptions}
    (h : o.sourceTypePart?.map Value.plain = o'.sourceTypePart?.map Value.plain) :
    o.sourceType = o'.sourceType := by
  -- the words for source types differ
  unfold LanguageOptions.sourceTypePart? at h
  rw [Option.map_map, Option.map_map] at h
  refine Option.map_injective (fun t t' heq => ?_) h
  have hword : t.word = t'.word := Value.str.inj heq
  cases t <;> cases t' <;> first | rfl | exact absurd hword (by decide)

theorem seenAlike_of_languageParts {modules : List String} {o o' : LanguageOptions}
    {members : List Member} (ho : o.Fits Value.IsJson ModuleRef.Nameable)
    (ho' : o'.Fits Value.IsJson ModuleRef.Nameable) (h : LanguageParts modules o members)
    (h' : LanguageParts modules o' members) : o.SeenAlike o' where
  globals := by
    have hplain := map_plain_eq_of_part
      (plain_eq_of_memberFor ho.globals ho'.globals h.globals h'.globals)
    -- names and accesses are told from what comes back
    have hmap := congrArg (List.map fun e : Value × Value =>
      (e.1, (e.2.text?.bind GlobalAccess.ofWord?).getD .off)) hplain
    have haccess : ∀ access : GlobalAccess,
        (((Value.str access.word).plain.text?.bind GlobalAccess.ofWord?).getD .off) = access := by
      intro access
      cases access <;> rfl
    simpa only [List.map_map, Function.comp_def, haccess] using hmap
  ecmaVersion := plain_eq_of_present?
    (plain_eq_of_memberFor ho.ecmaVersion ho'.ecmaVersion h.ecmaVersion h'.ecmaVersion)
  sourceType := sourceType_eq_of_plain
    (plain_eq_of_memberFor ho.sourceType ho'.sourceType h.sourceType h'.sourceType)
  parser := by
    rcases parserMember_eq_ok h.parser with ⟨hnull, hnil⟩ | ⟨ref, text, hmodule, htext, hone⟩
    · rcases parserMember_eq_ok h'.parser with ⟨hnull', -⟩ | ⟨ref', text', -, -, hone'⟩
      · rw [hnull, hnull']
      · rw [hnil] at hone'
        cases hone'
    · rcases parserMember_eq_ok h'.parser with ⟨-, hnil'⟩ | ⟨ref', text', hmodule', htext', hone'⟩
      · rw [hone] at hnil'
        cases hnil'
      · rw [hone] at hone'
        cases hone'
        rw [hmodule, hmodule', reference_inj htext htext']
  parserOptions := by
    have hplain := plain_eq_of_memberFor ho.parserOptions ho'.parserOptions
      h.parserOptions h'.parserOptions
    rw [Value.plainMembers_eq_map, Value.plainMembers_eq_map]
    refine @map_plain_eq_of_part _ id _ _ ?_
    rw [List.map_id, List.map_id]
    exact hplain

/-- Plugins with the same members have the same names and sources. -/
theorem pluginMembers_inj {modules : List String} {plugins plugins' : Table Name PluginHandle}
    {members : List Member} (h : pluginMembers modules plugins = .ok members)
    (h' : pluginMembers modules plugins' = .ok members) :
    plugins.entries.map (fun e => (e.1.word, e.2.source)) =
      plugins'.entries.map (fun e => (e.1.word, e.2.source)) := by
  have hcommon := forall₂_of_common (mapM_eq_ok_iff.1 h) (mapM_eq_ok_iff.1 h')
  rw [← List.forall₂_eq_eq_eq, List.forall₂_map_left_iff, List.forall₂_map_right_iff]
  refine hcommon.imp fun e e' ⟨m, he, he'⟩ => ?_
  obtain ⟨text, htext, he⟩ := bind_eq_ok.1 he
  obtain ⟨text', htext', he'⟩ := bind_eq_ok.1 he'
  have hmember := (Except.ok.inj he).trans (Except.ok.inj he').symm
  obtain ⟨hkey, hvalue⟩ := Prod.ext_iff.1 hmember
  have hword : e.1.word = e'.1.word :=
    (@Json.stringText_append_inj _ _ [] [] (congrArg (· ++ []) (String.ofList_inj.1 hkey))).1
  cases hvalue
  exact Prod.ext hword (reference_inj htext htext')

/-- **Fragments with one entry are seen alike.** -/
theorem seenAlike_of_entryParts {modules : List String} {f g : Fragment} {members : List Member}
    (hf : f.Fits Value.IsJson ModuleRef.Nameable) (hg : g.Fits Value.IsJson ModuleRef.Nameable)
    (h : EntryParts modules f members) (h' : EntryParts modules g members) : f.SeenAlike g where
  name := by
    have hname : ∀ {v : Value}, v.IsJson → ∀ w ∈ some v, w.IsJson := by
      rintro v hv w ⟨⟩
      exact hv
    exact Option.some.inj (plain_eq_of_memberFor (hname hf.name) (hname hg.name) h.name h'.name)
  files := patterns_eq_of_plain (plain_eq_of_memberFor hf.files hg.files h.files h'.files)
  ignores := patterns_eq_of_plain
    (plain_eq_of_memberFor hf.ignores hg.ignores h.ignores h'.ignores)
  plugins := by
    rcases h.plugins.inside_eq h'.plugins
      (fun _ => (inherited_isMember modules).pluginMembers hf.plugins)
      (fun _ => (inherited_isMember modules).pluginMembers hg.plugins)
      with ⟨hempty, hempty'⟩ | ⟨inner, hinner, hinner'⟩
    · rw [List.isEmpty_iff.1 hempty, List.isEmpty_iff.1 hempty']
    · exact pluginMembers_inj hinner hinner'
  rules := by
    have hplain := plain_eq_of_memberFor hf.rules hg.rules h.rules h'.rules
    have hentries := @map_plain_eq_of_part _
      (fun e : Name × RuleSetting => (.str e.1.word, e.2.canonical)) _ _ hplain
    have hmap := congrArg (List.map fun e : Value × Value => (e.1.text?.getD "", e.2)) hentries
    rwa [List.map_map, List.map_map] at hmap
  languageOptions := by
    rcases h.languageOptions.inside_eq h'.languageOptions
      (fun _ => (inherited_isMember modules).languageMembers hf.languageOptions)
      (fun _ => (inherited_isMember modules).languageMembers hg.languageOptions)
      with ⟨hempty, hempty'⟩ | ⟨inner, hinner, hinner'⟩
    · rw [LanguageOptions.eq_of_isEmpty hempty, LanguageOptions.eq_of_isEmpty hempty']
      exact ⟨rfl, rfl, rfl, rfl, rfl⟩
    · exact seenAlike_of_languageParts hf.languageOptions hg.languageOptions
        (languageMembers_parts hinner) (languageMembers_parts hinner')

/-! ## Modules with one text -/

/-- **Rendering loses nothing.** Where two lists of fragments have modules with one text, they are
equally long, and at each place the fragments are seen alike: in name and patterns, in plugins with
module and export, in rules with their canonical values, and in language options, where none count
as empty ones. A tuple comes back as a list, in rules as well as in language options. Names of
fragments and of globals, and options with their keys, may be broken texts in which no two halves make
up a character; patterns, ids and modules are texts of characters. -/
theorem renderModule_faithful {a b : List Fragment} {text : String}
    (ha : ∀ f ∈ a, f.Renderable) (hb : ∀ f ∈ b, f.Renderable) (h : renderModule a = .ok text)
    (h' : renderModule b = .ok text) : List.Forall₂ Fragment.SeenAlike a b := by
  obtain ⟨modules, entries, -, hentries, htext⟩ := renderModule_eq_ok h
  obtain ⟨modules', entries', -, hentries', htext'⟩ := renderModule_eq_ok h'
  rw [htext, linesText_textLines, linesText_textLines] at htext'
  -- the imports come first, so aliases stand for the same modules in both lists
  obtain ⟨rfl, htail⟩ := importLines_append_inj toList_importLine htext'
  have hmembers : ∀ {fs : List Fragment} {entries : List (List Member)},
      (∀ f ∈ fs, f.Renderable) →
      List.Forall₂ (fun f members => entryMembers modules f = .ok members) fs entries →
      ∀ members ∈ entries, ∀ m ∈ members, IsMember m := by
    intro fs entries hfs hentries members hmem
    obtain ⟨f, hf, hentry⟩ := exists_of_mem_mapM (mapM_eq_ok_iff.2 hentries) hmem
    exact (inherited_isMember modules).entryMembers (hfs f hf).fits hentry
  obtain ⟨rfl, -⟩ := entryLines_append_inj (hmembers ha hentries) (hmembers hb hentries')
    (List.append_cancel_left htail)
  -- place by place, the two fragments have one entry
  have hcommon := forall₂_of_common ((List.forall₂_and_left a entries).2 ⟨ha, hentries⟩)
    ((List.forall₂_and_left b entries).2 ⟨hb, hentries'⟩)
  exact hcommon.imp fun f g ⟨members, ⟨hf, hentry⟩, hg, hentry'⟩ =>
    seenAlike_of_entryParts hf.fits hg.fits (entryMembers_parts hentry)
      (entryMembers_parts hentry')

/-- A fragment with every part, and one that only ignores and has half of a surrogate pair in its
name. Open are an option of a rule, the rules that the plugin declares, and language options that say
nothing. -/
def renderedSample (option : Value) (declared : List String) (silent : Option LanguageOptions) :
    List Fragment :=
  [{ name := .str "app", files := some ["**/*.ts"]
     plugins := .ofList [("demo", ⟨{ module := "plugin-demo", exported := some "rules" }, declared⟩)]
     rules := .ofList [("demo/x", ⟨.warn, [option]⟩), ("curly", .off)]
     languageOptions := some
       { globals := .ofList [(.str "window", .readonly)], ecmaVersion := .int 2022
         parser := .module { module := "parser-demo" }
         parserOptions := [(.str "project", .dict [(.str "strict", .bool true)])] } },
   { name := .brokenText [0x67, 0xD83D], ignores := some ["dist/**"], languageOptions := silent }]

/-- An option in a tuple, a plugin that declares a rule, and no language options. -/
def tupleSample : List Fragment :=
  renderedSample (.tuple [.int (-1), .str "\"ü\", "]) ["demo/x"] none

/-- An option in a list, a plugin that declares nothing, and empty language options. -/
def listSample : List Fragment :=
  renderedSample (.list [.int (-1), .str "\"ü\", "]) [] (some {})

/-- Such fragments can be rendered. -/
theorem renderable_renderedSample {option : Value} (hoption : option.IsJson)
    (declared : List String) {silent : Option LanguageOptions} (hsilent : silent.getD {} = {}) :
    ∀ f ∈ renderedSample option declared silent, f.Renderable := by
  intro f hf
  rcases List.mem_pair.1 hf with rfl | rfl
  · refine ⟨⟨rfl, trivial⟩, ?_, ?_, ?_⟩
    · rintro handle hhandle
      cases List.mem_singleton.1 hhandle
      rintro exported ⟨⟩
      exact List.all_eq_true.1 (show "rules".toList.all isNameChar = true by decide)
    · rintro s hs v hv
      rcases List.mem_pair.1 hs with rfl | rfl
      · cases List.mem_singleton.1 hv
        exact hoption
      · cases hv
    · rintro o ⟨⟩
      refine ⟨by decide, by decide, by decide, ?_⟩
      rintro ref ⟨⟩
      exact fun _ h => nomatch h
  · refine ⟨⟨rfl, show Value.LoneHalves [0x67, 0xD83D] by decide⟩, ?_, ?_, ?_⟩
    · rintro _ ⟨⟩
    · rintro _ ⟨⟩
    · rintro o hlanguage
      have hdefault : o = {} := by rwa [show silent = some o from hlanguage] at hsilent
      subst hdefault
      exact ⟨by decide, by decide, by decide, fun _ href => nomatch href⟩

/-- The two samples are not equal, but their modules have one text. -/
theorem renderModule_faithful_samples :
    (∀ f ∈ tupleSample, f.Renderable) ∧ (∀ f ∈ listSample, f.Renderable) ∧
      tupleSample ≠ listSample ∧ ∃ text, renderModule tupleSample = .ok text ∧
        renderModule listSample = .ok text ∧
        List.Forall₂ Fragment.SeenAlike tupleSample listSample := by
  have htuple : ∀ f ∈ tupleSample, f.Renderable := renderable_renderedSample (by decide) _ rfl
  have hlist : ∀ f ∈ listSample, f.Renderable := renderable_renderedSample (by decide) _ rfl
  have htext : ∃ text, renderModule tupleSample = .ok text ∧ renderModule listSample = .ok text :=
    ⟨_, rfl, rfl⟩
  obtain ⟨text, h, h'⟩ := htext
  exact ⟨htuple, hlist, by decide, text, h, h', renderModule_faithful htuple hlist h h'⟩

/-- A fragment with one parser option. -/
def optionSample (option : Value) : Fragment :=
  { name := .str "app", languageOptions := some { parserOptions := [(.str "x", option)] } }

/-- **Fragments that differ may have one text**: where two halves of a surrogate pair in a name stand
in the place of the character that they make up, and where a tuple stands in that of a list. -/
theorem renderModule_conflates :
    (∃ text, renderModule [{ name := .brokenText [0xD83D, 0xDE00] }] = .ok text ∧
      renderModule [{ name := .str "😀" }] = .ok text ∧
      Value.equal (.brokenText [0xD83D, 0xDE00]) (.str "😀") = false) ∧
    ∃ text, renderModule [optionSample (.list [.int 1])] = .ok text ∧
      renderModule [optionSample (.tuple [.int 1])] = .ok text ∧
      (optionSample (.list [.int 1])).equal (optionSample (.tuple [.int 1])) = false :=
  ⟨⟨_, rfl, rfl, by decide⟩, _, rfl, rfl, by decide⟩

end LayeredLint
