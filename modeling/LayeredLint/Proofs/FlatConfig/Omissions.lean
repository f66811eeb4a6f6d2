import LayeredLint.Proofs.FlatConfig.Lines

/-!
# Parts that are left out

The engine takes an entry that only ignores for a global one, so an entry must not have a part that
its fragment lacks, nor lack one. What is left out is told here by the tests of the fragment itself,
and what an entry has is read off its text. An export is written as it is, so it can pass for parts of
an entry unless it is made of letters, digits, `_` and `$`.

- `inherited_passed`: a reader passes over the members of an entry.
- `BracedPart.exists_nested`: a part in braces has a member inside, or is left out.
- `partNames`, `names_entryMembers`: the names of the members of an entry.
- `TellsParts`: an entry has the parts of its fragment, and no others.
- `renderModule_tellsParts`: **every entry of a rendered module tells the parts of its fragment, and
  global ignores are those of the fragments that only ignore**.
- `renderModule_smuggles_parts`: an export that passes for language options.
-/

namespace LayeredLint

open Json (stringText)

/-! ## Members that a reader passes over -/

theorem passed_of_dump {v : Value} {text : String} {sep : Char} (hsep : sep ∈ [',', ':'])
    (h : dump v = .ok text) : Passed sep 0 text.toList :=
  passed_lineText hsep (Json.lineText_of_text? (text?_of_dump h))

/-- A reference is made of letters, digits, points, `_` and `$`. -/
theorem bare_of_refersTo {modules : List String} {ref : ModuleRef} {text : String}
    (href : ref.Nameable) (h : RefersTo modules ref text) : Json.Bare text.toList := by
  obtain ⟨n, -, htext⟩ := h.exists_toList
  have hname : ∀ {c : Char}, isNameChar c = true → Json.isBare c = true := by
    intro c hc
    simp only [isNameChar, Json.isBare, Bool.or_eq_true] at hc ⊢
    tauto
  rw [htext]
  refine .cons rfl ((Json.bare_toDigits n).append ?_)
  cases hexported : ref.exported with
  | none => exact Json.bare_nil
  | some exported =>
    rw [toList_exportText_some]
    exact .cons rfl fun c hc => hname (href exported hexported c hc)

/-- Members in braces are passed over where each of them is. -/
theorem passed_braced {members : List Member} {sep : Char} (hsep : sep ∈ [',', ':'])
    (h : ∀ m ∈ members, PassedMember m) : Passed sep 0 (braced members).toList := by
  have hmembers : Passed sep 1 (membersText members) := by
    rw [← intercalate_eq_membersText]
    exact passed_intercalate (List.forall_mem_map.2 fun m hm =>
      passed_member (h m hm sep hsep).1 (h m hm sep hsep).2)
  have hblank : Passed sep 1 [' '] := passed_singleton (by decide) fun _ => Nat.one_pos
  have hbraces := passed_brackets hsep (show ('\x7b', '\x7d') ∈ _ by decide)
    (hblank.append (hmembers.append hblank))
  simpa [toList_braced] using hbraces

/-- A reader passes over members, where exports go by letters and the like. -/
theorem inherited_passed (modules : List String) :
    Inherited modules (fun _ => True) ModuleRef.Nameable PassedMember := by
  have hall : ∀ name ∈ entryNames ++ languageNames, name.toList.all Json.isBare = true := by decide
  have hnames : ∀ name ∈ entryNames ++ languageNames, Json.Bare name.toList :=
    fun name hname => Json.bare_of_all (hall name hname)
  exact
    { document := fun hname _ htext sep hsep =>
        ⟨passed_bare hsep (hnames _ hname), passed_of_dump hsep htext⟩
      plugin := by
        intro name ref text href htext sep hsep
        refine ⟨?_, passed_bare hsep (bare_of_refersTo href htext)⟩
        rw [String.toList_ofList]
        exact passed_lineText hsep (Json.lineText_stringText name)
      parser := fun href htext sep hsep =>
        ⟨passed_bare hsep (hnames "parser" (by decide)),
          passed_bare hsep (bare_of_refersTo href htext)⟩
      braces := fun hname hinner sep hsep =>
        ⟨passed_bare hsep (hnames _ (List.mem_append_left _ hname)), passed_braced hsep hinner⟩ }

/-! ## Parts in braces -/

/-- The member for some members in braces, or none for no members. -/
def nested (name : String) (inner : List Member) : List Member :=
  if inner.isEmpty then [] else [(name, objectText inner)]

/-- A part in braces is left out exactly where it would have no member inside. -/
theorem BracedPart.exists_nested {name : String} {empty : Bool}
    {inside : Except Failure (List Member)} {members : List Member}
    (h : BracedPart name empty inside members) (hnone : empty = true → inside = .ok [])
    (hempty : inside = .ok [] → empty = true) :
    ∃ inner, inside = .ok inner ∧ members = nested name inner := by
  rcases h with ⟨hleft, rfl⟩ | ⟨hthere, inner, hinner, rfl⟩
  · exact ⟨[], hnone hleft, rfl⟩
  · refine ⟨inner, hinner, ?_⟩
    cases inner with
    | nil =>
      rw [hempty hinner] at hthere
      cases hthere
    | cons m rest => rfl

section Imports

variable {modules : List String}

theorem pluginMembers_eq_nil_iff {plugins : Table Name PluginHandle} :
    pluginMembers modules plugins = .ok [] ↔ plugins.isEmpty = true := by
  rw [pluginMembers, mapM_eq_ok_iff, List.forall₂_nil_right_iff, Table.isEmpty,
    List.isEmpty_iff]

theorem memberFor_eq_nil_iff {name : String} {v? : Option Value} :
    memberFor name v? = .ok [] ↔ v? = none := by
  constructor
  · intro h
    rcases memberFor_eq_ok h with ⟨hnone, -⟩ | ⟨v, text, -, -, hone⟩
    · exact hnone
    · cases hone
  · rintro rfl
    rfl

theorem present?_eq_none_iff {v : Value} : present? v = none ↔ v = .null := by
  cases v with
  | null => exact iff_of_true rfl rfl
  | _ => exact iff_of_false (fun h => nomatch h) (fun h => nomatch h)

/-- **Language options** are rendered with no member exactly if they are empty. -/
theorem languageMembers_eq_nil_iff {o : LanguageOptions} :
    languageMembers modules o = .ok [] ↔ o.isEmpty = true := by
  constructor
  · intro h
    have hparts := languageMembers_parts h
    have hglobals : o.globals.isEmpty = true := by
      have hnone := memberFor_eq_nil_iff.1 hparts.globals
      unfold LanguageOptions.globalsPart? at hnone
      split at hnone
      · assumption
      · cases hnone
    have hversion : o.ecmaVersion = .null :=
      present?_eq_none_iff.1 (memberFor_eq_nil_iff.1 hparts.ecmaVersion)
    have htype : o.sourceType = none :=
      Option.map_eq_none_iff.1 (memberFor_eq_nil_iff.1 hparts.sourceType)
    have hoptions : o.parserOptions.isEmpty = true := by
      have hnone := memberFor_eq_nil_iff.1 hparts.parserOptions
      unfold LanguageOptions.parserOptionsPart? at hnone
      split at hnone
      · assumption
      · cases hnone
    have hparser : o.parser = .null := by
      rcases parserMember_eq_ok hparts.parser with ⟨hnull, -⟩ | ⟨ref, text, -, -, hone⟩
      · exact hnull
      · cases hone
    simp [LanguageOptions.isEmpty, hglobals, hversion, htype, hparser, hoptions]
  · intro h
    rw [LanguageOptions.eq_of_isEmpty h]
    rfl

end Imports

/-! ## Names of members -/

/-- The name of a part that is there. -/
def nameIf (name : String) (there : Bool) : List String :=
  if there then [name] else []

/-- The names of the members of an entry, by the parts that are there. -/
def partNames (files ignores plugins languageOptions rules : Bool) : List String :=
  "name" :: nameIf "files" files ++ nameIf "ignores" ignores ++ nameIf "plugins" plugins ++
    nameIf "languageOptions" languageOptions ++ nameIf "rules" rules

theorem names_memberFor {name : String} {v? : Option Value} {members : List Member}
    (h : memberFor name v? = .ok members) : members.map Prod.fst = nameIf name v?.isSome := by
  rcases memberFor_eq_ok h with ⟨rfl, rfl⟩ | ⟨v, text, rfl, -, rfl⟩
  · rfl
  · rfl

theorem BracedPart.names {name : String} {empty : Bool} {inside : Except Failure (List Member)}
    {members : List Member} (h : BracedPart name empty inside members) :
    members.map Prod.fst = nameIf name (!empty) := by
  rcases h with ⟨rfl, rfl⟩ | ⟨rfl, inner, -, rfl⟩
  · rfl
  · rfl

/-- **The names of an entry**, in their order: each part that its fragment has, and no other. -/
theorem names_entryMembers {modules : List String} {f : Fragment} {members : List Member}
    (h : entryMembers modules f = .ok members) :
    members.map Prod.fst = partNames f.files.isSome f.ignores.isSome (!f.plugins.isEmpty)
      (!(f.languageOptions.getD {}).isEmpty) (!f.rules.isEmpty) := by
  obtain ⟨name, -, h⟩ := bind_eq_ok.1 h
  obtain ⟨files, hfiles, h⟩ := bind_eq_ok.1 h
  obtain ⟨ignores, hignores, h⟩ := bind_eq_ok.1 h
  obtain ⟨plugins, hplugins, h⟩ := bind_eq_ok.1 h
  obtain ⟨language, hlanguage, h⟩ := bind_eq_ok.1 h
  obtain ⟨rules, hrules, h⟩ := bind_eq_ok.1 h
  have hrulesThere : (rulesPart? f.rules).isSome = !f.rules.isEmpty := by
    rw [rulesPart?]
    cases f.rules.isEmpty <;> rfl
  rw [← Except.ok.inj h]
  simp only [List.map_append, List.map_cons, names_memberFor hfiles, names_memberFor hignores,
    (pluginPart_braced hplugins).names, (languagePart_braced hlanguage).names,
    names_memberFor (rulePart_eq_ok hrules), Option.isSome_map, hrulesThere, partNames]

/-- Each part is named once, where it is there. -/
theorem mem_partNames : ∀ files ignores plugins languageOptions rules : Bool,
    let names := partNames files ignores plugins languageOptions rules
    names.Nodup ∧ "name" ∈ names ∧ ("files" ∈ names ↔ files = true) ∧
      ("ignores" ∈ names ↔ ignores = true) ∧ ("plugins" ∈ names ↔ plugins = true) ∧
      ("languageOptions" ∈ names ↔ languageOptions = true) ∧ ("rules" ∈ names ↔ rules = true) := by
  decide

theorem partNames_eq_iff : ∀ files ignores plugins languageOptions rules : Bool,
    partNames files ignores plugins languageOptions rules = ["name", "ignores"] ↔
      (ignores && !files && !plugins && !rules && !languageOptions) = true := by
  decide

/-! ## Entries -/

/-- What is read off an entry tells the parts of its fragment: there is the name, and each part that
the fragment has, once, and nothing else; and language options have a member. An entry is one that
only ignores if its fragment is. -/
structure TellsParts (f : Fragment) (members : List Member) : Prop where
  known : ∀ m ∈ members, m.1 ∈ entryNames
  once : (members.map Prod.fst).Nodup
  named : "name" ∈ members.map Prod.fst
  files : "files" ∈ members.map Prod.fst ↔ f.files ≠ none
  ignores : "ignores" ∈ members.map Prod.fst ↔ f.ignores ≠ none
  plugins : "plugins" ∈ members.map Prod.fst ↔ f.plugins.entries ≠ []
  languageOptions : "languageOptions" ∈ members.map Prod.fst ↔
    ∃ o, f.languageOptions = some o ∧ o.isEmpty = false
  rules : "rules" ∈ members.map Prod.fst ↔ f.rules.entries ≠ []
  inside : ∀ text, ("languageOptions", text) ∈ members →
    ∃ inner, readObject? text = some inner ∧ inner ≠ [] ∧ ∀ m ∈ inner, m.1 ∈ languageNames
  onlyIgnores : members.map Prod.fst = ["name", "ignores"] ↔ f.ignoresOnly = true

theorem Table.not_isEmpty_iff {κ α : Type} [SameKey κ] {t : Table κ α} :
    (!t.isEmpty) = true ↔ t.entries ≠ [] := by
  rw [Table.isEmpty, Bool.not_eq_true', List.isEmpty_eq_false_iff]

theorem not_isEmpty_getD_iff {options : Option LanguageOptions} :
    (!(options.getD {}).isEmpty) = true ↔ ∃ o, options = some o ∧ o.isEmpty = false := by
  rw [Bool.not_eq_true']
  cases options with
  | none => exact iff_of_false (fun h => nomatch h) (fun ⟨_, h, _⟩ => nomatch h)
  | some o => exact ⟨fun h => ⟨o, rfl, h⟩, fun ⟨_, ho, h⟩ => Option.some.inj ho ▸ h⟩

/-- **An entry tells the parts of its fragment.** -/
theorem entryMembers_tellsParts {modules : List String} {f : Fragment} {members : List Member}
    (exports : ∀ ref ∈ f.references, ref.Nameable) (h : entryMembers modules f = .ok members) :
    TellsParts f members := by
  have hnames := names_entryMembers h
  have hmem := mem_partNames f.files.isSome f.ignores.isSome (!f.plugins.isEmpty)
    (!(f.languageOptions.getD {}).isEmpty) (!f.rules.isEmpty)
  simp only [← hnames] at hmem
  obtain ⟨honce, hname, hfiles, hignores, hplugins, hlanguage, hrules⟩ := hmem
  have hlanguages : f.languageOptions.all LanguageOptions.isEmpty =
      (f.languageOptions.getD {}).isEmpty := by
    cases f.languageOptions <;> rfl
  exact
    { known := (entryMembers_parts h).known
      once := honce
      named := hname
      files := hfiles.trans Option.isSome_iff_ne_none
      ignores := hignores.trans Option.isSome_iff_ne_none
      plugins := hplugins.trans Table.not_isEmpty_iff
      languageOptions := hlanguage.trans not_isEmpty_getD_iff
      rules := hrules.trans Table.not_isEmpty_iff
      inside := by
        intro text htext
        have hpart : ("languageOptions", text) ∈ partOf "languageOptions" members :=
          List.mem_filter.2 ⟨htext, decide_eq_true rfl⟩
        obtain ⟨inner, hinner, hnested⟩ := (entryMembers_parts h).languageOptions.exists_nested
          languageMembers_eq_nil_iff.2 languageMembers_eq_nil_iff.1
        have hpassed := (inherited_passed modules).languageMembers
          (Fragment.fits_of_references exports).languageOptions hinner
        rw [hnested] at hpart
        cases inner with
        | nil => cases hpart
        | cons m rest =>
          cases List.mem_singleton.1 hpart
          exact ⟨m :: rest, readObject?_objectText hpassed, List.cons_ne_nil m rest,
            (languageMembers_parts hinner).known⟩
      onlyIgnores := by
        rw [hnames, partNames_eq_iff, Fragment.ignoresOnly, hlanguages]
        simp only [Bool.not_not, Option.not_isSome] }

/-- **What is left out of an entry is what its fragment lacks.** Fragments that can be printed, with
exports of letters, digits, `_` and `$`, have a module with a line for the entry of each. Read off its
text, an entry has patterns, plugins, language options and rules exactly if its fragment does, and
language options always with a member in them. So the entries that have nothing beside their name and
ignores, and are global for it, are those of the fragments that only ignore. -/
theorem renderModule_tellsParts (fs : List Fragment) (h : ∀ f ∈ fs, f.Serialisable)
    (exports : ∀ f ∈ fs, ∀ ref ∈ f.references, ref.Nameable) :
    ∃ text modules entries, renderModule fs = .ok text ∧
      text.toList.splitOn '\n' = (spelledLines modules entries).map String.toList ∧
      List.Forall₂ (fun f entry => ∃ members, readObject? entry = some members ∧
        TellsParts f members) fs entries := by
  obtain ⟨text, modules, entries, htext, -, hentries, hlines⟩ :=
    renderModule_lines h fun f hf ref href => (exports f hf ref href).oneLine
  refine ⟨text, modules, entries.map objectText, htext, hlines, ?_⟩
  rw [List.forall₂_map_right_iff]
  refine ((List.forall₂_and_left fs entries).2 ⟨exports, hentries⟩).imp ?_
  rintro f members ⟨hf, hentry⟩
  have hpassed := (inherited_passed modules).entryMembers (Fragment.fits_of_references hf) hentry
  exact ⟨members, readObject?_objectText hpassed, entryMembers_tellsParts hf hentry⟩

/-! ### Language options that are there and empty, and a parser on its own -/

/-- The first fragment ignores globally, though it has language options; the second one does not,
as it has a parser. -/
def scopeSample : List Fragment :=
  [{ name := .str "global", ignores := some ["dist/**"], languageOptions := some {} },
   { name := .str "parsed", ignores := some ["dist/**"]
     languageOptions := some
       { parser := .module { module := "scope-parser", exported := some "parser" } } }]

theorem serialisable_scopeSample : ∀ f ∈ scopeSample, f.Serialisable := by
  intro f hf
  rcases List.mem_pair.1 hf with rfl | rfl
  · refine ⟨by decide, by decide, fun o ho => ?_⟩
    cases ho
    exact LanguageOptions.serialisable_of_parser (.inl rfl)
  · refine ⟨by decide, by decide, fun o ho => ?_⟩
    cases ho
    exact LanguageOptions.serialisable_of_parser (.inr ⟨_, rfl⟩)

theorem nameable_scopeSample : ∀ f ∈ scopeSample, ∀ ref ∈ f.references, ref.Nameable := by
  intro f hf ref href
  rcases List.mem_pair.1 hf with rfl | rfl
  · cases href
  · cases List.mem_singleton.1 href
    rintro exported ⟨⟩
    exact List.all_eq_true.1 (show "parser".toList.all isNameChar = true by decide)

theorem renderModule_tellsParts_scopes :
    (∀ f ∈ scopeSample, f.Serialisable) ∧
      (∀ f ∈ scopeSample, ∀ ref ∈ f.references, ref.Nameable) ∧
      ∃ text modules ignoring parsed, renderModule scopeSample = .ok text ∧
        text.toList.splitOn '\n' =
          (spelledLines modules [ignoring, parsed]).map String.toList ∧
        (readObject? ignoring).map (·.map Prod.fst) = some ["name", "ignores"] ∧
        ∃ members, readObject? parsed = some members ∧
          members.map Prod.fst ≠ ["name", "ignores"] ∧
          "languageOptions" ∈ members.map Prod.fst := by
  refine ⟨serialisable_scopeSample, nameable_scopeSample, ?_⟩
  obtain ⟨text, modules, entries, htext, hlines, hentries⟩ :=
    renderModule_tellsParts scopeSample serialisable_scopeSample nameable_scopeSample
  obtain ⟨ignoring, _, ⟨members, hread, tells⟩, hrest, rfl⟩ := List.forall₂_cons_left_iff.1 hentries
  obtain ⟨parsed, _, ⟨members', hread', tells'⟩, hnil, rfl⟩ := List.forall₂_cons_left_iff.1 hrest
  cases hnil
  refine ⟨text, modules, ignoring, parsed, htext, hlines, ?_, members', hread', ?_, ?_⟩
  · rw [hread, Option.map_some, tells.onlyIgnores.2 (by decide)]
  · exact fun h => absurd (tells'.onlyIgnores.1 h) (by decide)
  · exact tells'.languageOptions.2 ⟨_, rfl, by decide⟩

/-! ### An export that passes for language options -/

/-- A fragment whose plugin goes by an export, and which has some language options. -/
def exportSample (exported : String) (options : Option LanguageOptions) : Fragment :=
  { name := .str "app"
    plugins := .ofList [("tool", .of { module := "tool", exported := some exported })]
    languageOptions := options }

/-- An export that ends the members for plugins and goes on with a parser. -/
def smugglingExport : String :=
  "x \x7d, languageOptions: \x7b parser: m0"

/-- **An export may pass for a part**: a fragment without language options has the text of one that
has a parser, and language options are read off its entry. -/
theorem renderModule_smuggles_parts :
    (exportSample smugglingExport none).Serialisable ∧
      (exportSample smugglingExport none).languageOptions = none ∧ ∃ text entry,
      renderModule [exportSample smugglingExport none] = .ok text ∧
        renderModule [exportSample "x" (some { parser := .module { module := "tool" } })] = .ok text ∧
        text.toList.splitOn '\n' = (spelledLines ["tool"] [entry]).map String.toList ∧
        (readObject? entry).map (·.map Prod.fst) = some ["name", "plugins", "languageOptions"] :=
  ⟨⟨by decide, by decide, fun _ ho => nomatch ho⟩, rfl, _,
    "\x7b name: \"app\", plugins: \x7b \"tool\": m0.x \x7d, " ++
      "languageOptions: \x7b parser: m0 \x7d \x7d",
    rfl, rfl, by decide +kernel, by decide +kernel⟩

end LayeredLint
