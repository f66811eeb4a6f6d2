import LayeredLint.Proofs.FlatConfig.ExportedRules
import LayeredLint.Proofs.FlatConfig.ModuleText

/-!
# Entries of a configuration module

The members of an entry go by different names, so each part of a fragment is found again among them.

- `partOf`: the members with one name; `forall_mem_of_partOf`: what holds part by part.
- `EntryParts`, `LanguageParts`: the parts of an entry, and of its language options.
- `entryMembers_parts`, `languageMembers_parts`: **what is rendered has these parts**.
- `RefersTo`: what a reference to a module is; `reference_eq_ok` says that rendered ones are such.
- `reference_inj`, `expression_reference`: references are told apart by alias and export, and are
  expressions where an export goes by letters, digits, `_` and `$`.
-/

namespace LayeredLint

open Json (text? oneLine)

/-! ## Documents -/

theorem text?_of_dump {v : Value} {text : String} (h : dump v = .ok text) :
    text? oneLine 0 v = some text.toList := by
  unfold dump Json.line? at h
  cases htext : text? oneLine 0 v with
  | none => rw [htext] at h; cases h
  | some cs => rw [htext] at h; cases h; rw [String.toList_ofList]

/-- Values with one text come back as one value. -/
theorem plain_eq_of_dump {v w : Value} {text : String} (hv : v.IsJson) (hw : w.IsJson)
    (h : dump v = .ok text) (h' : dump w = .ok text) : v.plain = w.plain :=
  (Json.text?_append_inj hv hw (text?_of_dump h) (text?_of_dump h') Json.ended_nil Json.ended_nil
    rfl).1

theorem expression_dump {v : Value} {text : String} (hv : v.IsJson) (h : dump v = .ok text) :
    Expression .document text.toList :=
  .document hv (text?_of_dump h)

/-! ## References -/

/-- What stands behind the alias in a reference: a point and the export, if there is one. -/
def exportText : Option String → String
  | none => ""
  | some exported => "." ++ exported

theorem toList_exportText_some (exported : String) :
    (exportText (some exported)).toList = '.' :: exported.toList := by
  simp [exportText]

theorem exportText_inj {exported exported' : Option String}
    (h : (exportText exported).toList = (exportText exported').toList) : exported = exported' := by
  cases exported with
  | none =>
    cases exported' with
    | none => rfl
    | some name' => rw [toList_exportText_some] at h; cases h
  | some name =>
    rw [toList_exportText_some] at h
    cases exported' with
    | none => cases h
    | some name' =>
      rw [toList_exportText_some] at h
      injection h with _ hname
      exact congrArg some (String.toList_inj.1 hname)

/-- A text refers to a module: it is `m` with the place of the module among the imports, and behind a
point the export, if there is one. -/
def RefersTo (modules : List String) (ref : ModuleRef) (text : String) : Prop :=
  ∃ n : Nat, modules[n]? = some ref.module ∧ text = "m" ++ toString n ++ exportText ref.exported

theorem toList_aliasAt (n : Nat) : (aliasAt n).toList = 'm' :: Nat.toDigits 10 n := by
  simp [aliasAt]

/-- The characters of a reference. -/
theorem RefersTo.exists_toList {modules : List String} {ref : ModuleRef} {text : String}
    (h : RefersTo modules ref text) : ∃ n, modules[n]? = some ref.module ∧
      text.toList = 'm' :: (Nat.toDigits 10 n ++ (exportText ref.exported).toList) := by
  obtain ⟨n, hn, rfl⟩ := h
  refine ⟨n, hn, ?_⟩
  show ("m" ++ String.ofList (Nat.toDigits 10 n) ++ _).toList = _
  simp

theorem reference_eq_ok {modules : List String} {ref : ModuleRef} {text : String}
    (h : reference modules ref = .ok text) : RefersTo modules ref text := by
  unfold reference aliasOf? at h
  cases hfind : modules.findIdx? (· = ref.module) with
  | none => rw [hfind] at h; cases h
  | some n =>
    have hmodule : modules[n]? = some ref.module := by
      have hfound := List.of_findIdx?_eq_some hfind
      cases hat : modules[n]? with
      | none => rw [hat] at hfound; cases hfound
      | some module =>
        rw [hat] at hfound
        exact congrArg some (of_decide_eq_true hfound)
    rw [hfind] at h
    refine ⟨n, hmodule, ?_⟩
    cases hexported : ref.exported with
    | none =>
      rw [hexported] at h
      cases h
      exact String.append_empty.symm
    | some exported =>
      rw [hexported] at h
      cases h
      exact String.append_assoc

/-- References with one expression are one reference. -/
theorem reference_inj {modules : List String} {ref ref' : ModuleRef} {text : String}
    (h : reference modules ref = .ok text) (h' : reference modules ref' = .ok text) :
    ref = ref' := by
  obtain ⟨n, hn, htext⟩ := (reference_eq_ok h).exists_toList
  obtain ⟨n', hn', htext'⟩ := (reference_eq_ok h').exists_toList
  rw [htext] at htext'
  injection htext' with _ htext'
  have hpoint : ∀ exported, ∀ c ∈ (exportText exported).toList.head?, c.isDigit = false := by
    rintro (_ | exported) c hc
    · cases hc
    · rw [toList_exportText_some] at hc
      cases hc
      rfl
  -- the digits end where the export starts
  obtain ⟨hdigits, hexport⟩ := append_inj_of_test (fun _ => Json.isDigit_of_mem_toDigits)
    (fun _ => Json.isDigit_of_mem_toDigits) (hpoint _) (hpoint _) htext'
  have hplace : n = n' := by
    rw [← Json.digitsValue_toDigits n, hdigits, Json.digitsValue_toDigits]
  have hmodule : ref.module = ref'.module := by
    rw [hplace, hn'] at hn
    exact (Option.some.inj hn).symm
  have hexported : ref.exported = ref'.exported := exportText_inj hexport
  cases ref
  cases ref'
  cases hmodule
  cases hexported
  rfl

/-- A character of the names that modules export. -/
def isNameChar (c : Char) : Bool :=
  c.isAlphanum || c = '_' || c = '$'

/-- A reference names no export, or one of letters, digits, `_` and `$`. -/
def ModuleRef.Nameable (ref : ModuleRef) : Prop :=
  ∀ exported ∈ ref.exported, ∀ c ∈ exported.toList, isNameChar c = true

theorem expression_reference {modules : List String} {ref : ModuleRef} {text : String}
    (href : ref.Nameable) (h : RefersTo modules ref text) : Expression .reference text.toList := by
  obtain ⟨n, -, htext⟩ := h.exists_toList
  rw [htext]
  -- neither a comma nor a blank is among letters, digits, points and the other two
  have hstop : ∀ {test : Char → Bool} {c : Char}, test c = true → test ',' = false →
      test ' ' = false → (c != ',' && c != ' ') = true := by
    intro test c hc hcomma hblank
    rw [Bool.and_eq_true, bne_iff_ne, bne_iff_ne]
    refine ⟨?_, ?_⟩ <;> rintro rfl
    · rw [hcomma] at hc; cases hc
    · rw [hblank] at hc; cases hc
  refine .reference rfl fun c hc => ?_
  rcases List.mem_cons.1 hc with rfl | hc
  · rfl
  rcases List.mem_append.1 hc with hdigit | hc
  · exact hstop (Json.isDigit_of_mem_toDigits hdigit) rfl rfl
  cases hexported : ref.exported with
  | none => rw [hexported] at hc; cases hc
  | some exported =>
    rw [hexported, toList_exportText_some] at hc
    rcases List.mem_cons.1 hc with rfl | hc
    · rfl
    · exact hstop (href exported hexported c hc) rfl rfl

/-! ## Members by name -/

/-- The members with one name. -/
def partOf (name : String) (members : List Member) : List Member :=
  members.filter fun m => m.1 = name

/-- All members have one name. -/
def Named (name : String) (members : List Member) : Prop :=
  ∀ m ∈ members, m.1 = name

section Parts

variable {parts : List (String × List Member)}

theorem mem_names_of_mem_parts (h : ∀ part ∈ parts, Named part.1 part.2) :
    ∀ m ∈ parts.flatMap Prod.snd, m.1 ∈ parts.map Prod.fst := by
  intro m hm
  obtain ⟨part, hpart, hm⟩ := List.mem_flatMap.1 hm
  exact List.mem_map.2 ⟨part, hpart, (h part hpart m hm).symm⟩

/-- What holds of the members with each of the names holds of all members. -/
theorem forall_mem_of_partOf {names : List String} {members : List Member} {p : Member → Prop}
    (known : ∀ m ∈ members, m.1 ∈ names) (h : ∀ name ∈ names, ∀ m ∈ partOf name members, p m) :
    ∀ m ∈ members, p m :=
  fun m hm => h m.1 (known m hm) m (List.mem_filter.2 ⟨hm, decide_eq_true rfl⟩)

/-- Each of the parts is found again by its name, where no name is used twice. -/
theorem partOf_parts (h : ∀ part ∈ parts, Named part.1 part.2)
    (hdistinct : (parts.map Prod.fst).Nodup) :
    ∀ part ∈ parts, partOf part.1 (parts.flatMap Prod.snd) = part.2 := by
  have hself : ∀ part ∈ parts, partOf part.1 part.2 = part.2 := by
    intro part hpart
    exact List.filter_eq_self.2 fun m hm => by simpa using h part hpart m hm
  -- members of one part have its name, so no other part finds them
  induction parts with
  | nil => exact fun _ hpart => nomatch hpart
  | cons first parts ih =>
    obtain ⟨hfirst, hrest⟩ := List.nodup_cons.1 hdistinct
    rw [List.forall_mem_cons] at h hself ⊢
    rw [List.flatMap_cons]
    refine ⟨?_, fun part hpart => ?_⟩
    · have hnone : partOf first.1 (parts.flatMap Prod.snd) = [] := by
        refine List.filter_eq_nil_iff.2 fun m hm hname => hfirst ?_
        rw [← of_decide_eq_true hname]
        exact mem_names_of_mem_parts h.2 m hm
      rw [partOf, List.filter_append, ← partOf, ← partOf, hself.1, hnone, List.append_nil]
    · have hnone : partOf part.1 first.2 = [] := by
        refine List.filter_eq_nil_iff.2 fun m hm hname => hfirst ?_
        rw [← h.1 m hm, of_decide_eq_true hname]
        exact List.mem_map_of_mem hpart
      rw [partOf, List.filter_append, ← partOf, ← partOf, hnone, List.nil_append,
        ih h.2 hrest hself.2 part hpart]

end Parts

theorem memberFor_eq_ok {name : String} {v? : Option Value} {members : List Member}
    (h : memberFor name v? = .ok members) :
    v? = none ∧ members = [] ∨
      ∃ v text, v? = some v ∧ dump v = .ok text ∧ members = [(name, text)] := by
  cases v? with
  | none => cases h; exact .inl ⟨rfl, rfl⟩
  | some v =>
    obtain ⟨text, htext, h⟩ := bind_eq_ok.1 h
    cases h
    exact .inr ⟨v, text, rfl, htext, rfl⟩

/-- What holds of the text of a value holds of the member for it. -/
theorem forall_mem_memberFor {name : String} {v? : Option Value} {members : List Member}
    {p : Member → Prop} (h : memberFor name v? = .ok members)
    (hp : ∀ v ∈ v?, ∀ text, dump v = .ok text → p (name, text)) : ∀ m ∈ members, p m := by
  intro m hm
  rcases memberFor_eq_ok h with ⟨-, rfl⟩ | ⟨v, text, hsome, htext, rfl⟩
  · cases hm
  · cases List.mem_singleton.1 hm
    exact hp v hsome text htext

theorem named_memberFor {name : String} {v? : Option Value} {members : List Member}
    (h : memberFor name v? = .ok members) : Named name members :=
  forall_mem_memberFor h fun _ _ _ _ => rfl

/-- Optional values with one member, or none, come back alike. -/
theorem plain_eq_of_memberFor {name : String} {v? w? : Option Value} {members : List Member}
    (hv : ∀ v ∈ v?, v.IsJson) (hw : ∀ w ∈ w?, w.IsJson) (h : memberFor name v? = .ok members)
    (h' : memberFor name w? = .ok members) : v?.map Value.plain = w?.map Value.plain := by
  rcases memberFor_eq_ok h with ⟨rfl, rfl⟩ | ⟨v, text, rfl, htext, rfl⟩
  · rcases memberFor_eq_ok h' with ⟨rfl, -⟩ | ⟨w, text, -, -, hnil⟩
    · rfl
    · cases hnil
  · rcases memberFor_eq_ok h' with ⟨-, hnil⟩ | ⟨w, text', rfl, htext', hcons⟩
    · cases hnil
    · cases hcons
      exact congrArg some (plain_eq_of_dump (hv v rfl) (hw w rfl) htext htext')

/-! ## Parts of an entry -/

/-- A part in braces: no member where the part is empty, or else one with the members inside. -/
def BracedPart (name : String) (empty : Bool) (inside : Except Failure (List Member))
    (members : List Member) : Prop :=
  empty = true ∧ members = [] ∨
    empty = false ∧ ∃ inner, inside = .ok inner ∧ members = [(name, braced inner)]

section BracedPart

variable {name : String} {empty empty' : Bool} {inside inside' : Except Failure (List Member)}
  {members : List Member}

/-- What holds of the members inside, in braces, holds of the part. -/
theorem BracedPart.forall_mem (h : BracedPart name empty inside members) {p : Member → Prop}
    (hp : ∀ inner, inside = .ok inner → p (name, braced inner)) : ∀ m ∈ members, p m := by
  intro m hm
  rcases h with ⟨-, rfl⟩ | ⟨-, inner, hinner, rfl⟩
  · cases hm
  · cases List.mem_singleton.1 hm
    exact hp inner hinner

theorem BracedPart.named (h : BracedPart name empty inside members) : Named name members :=
  h.forall_mem fun _ _ => rfl

/-- Parts in braces with the same members are both empty, or have the same members inside. -/
theorem BracedPart.inside_eq (h : BracedPart name empty inside members)
    (h' : BracedPart name empty' inside' members)
    (hinside : ∀ inner, inside = .ok inner → ∀ m ∈ inner, IsMember m)
    (hinside' : ∀ inner, inside' = .ok inner → ∀ m ∈ inner, IsMember m) :
    empty = true ∧ empty' = true ∨ ∃ inner, inside = .ok inner ∧ inside' = .ok inner := by
  rcases h with ⟨hempty, rfl⟩ | ⟨-, inner, hinner, rfl⟩
  · rcases h' with ⟨hempty', -⟩ | ⟨-, inner', -, hone⟩
    · exact .inl ⟨hempty, hempty'⟩
    · cases hone
  · rcases h' with ⟨-, hnil⟩ | ⟨-, inner', hinner', hone⟩
    · cases hnil
    · have hbraced : braced inner = braced inner' := (Prod.ext_iff.1 (List.cons.inj hone).1).2
      cases braced_inj (hinside inner hinner) (hinside' inner' hinner') hbraced
      exact .inr ⟨inner, hinner, hinner'⟩

end BracedPart

/-- What holds of the references to the sources of plugins, under their names, holds of the members
for them. -/
theorem forall_mem_pluginMembers {modules : List String} {plugins : Table Name PluginHandle}
    {members : List Member} {p : Member → Prop} (h : pluginMembers modules plugins = .ok members)
    (hp : ∀ e ∈ plugins.entries, ∀ text, reference modules e.2.source = .ok text →
      p (String.ofList (Json.stringText e.1.word), text)) : ∀ m ∈ members, p m := by
  intro m hm
  obtain ⟨e, he, hstep⟩ := exists_of_mem_mapM h hm
  obtain ⟨text, htext, hstep⟩ := bind_eq_ok.1 hstep
  cases hstep
  exact hp e he text htext

theorem pluginPart_braced {modules : List String} {plugins : Table Name PluginHandle}
    {members : List Member} (h : pluginPart modules plugins = .ok members) :
    BracedPart "plugins" plugins.isEmpty (pluginMembers modules plugins) members := by
  unfold pluginPart at h
  cases hempty : plugins.isEmpty with
  | true =>
    rw [hempty, if_pos rfl] at h
    cases h
    exact .inl ⟨rfl, rfl⟩
  | false =>
    rw [hempty, if_neg Bool.false_ne_true] at h
    obtain ⟨inner, hinner, h⟩ := bind_eq_ok.1 h
    cases h
    exact .inr ⟨rfl, inner, hinner, rfl⟩

/-- No language options are rendered as empty ones are. -/
theorem languagePart_braced {modules : List String} {options : Option LanguageOptions}
    {members : List Member} (h : languagePart modules options = .ok members) :
    BracedPart "languageOptions" (options.getD {}).isEmpty
      (languageMembers modules (options.getD {})) members := by
  unfold languagePart at h
  cases options with
  | none => cases h; exact .inl ⟨rfl, rfl⟩
  | some o =>
    cases hempty : o.isEmpty with
    | true =>
      simp only [hempty, if_true] at h
      cases h
      exact .inl ⟨hempty, rfl⟩
    | false =>
      simp only [hempty, Bool.false_eq_true, if_false] at h
      obtain ⟨inner, hinner, h⟩ := bind_eq_ok.1 h
      cases h
      exact .inr ⟨hempty, inner, hinner, rfl⟩

/-- The rules of a table as a value, if there are some. -/
def rulesPart? (rules : Table Name RuleSetting) : Option Value :=
  if rules.isEmpty then none else some (canonicalRules rules)

theorem rulePart_eq_ok {rules : Table Name RuleSetting} {members : List Member}
    (h : rulePart rules = .ok members) : memberFor "rules" (rulesPart? rules) = .ok members := by
  unfold rulePart at h
  unfold rulesPart?
  split at h
  · next hempty => rw [if_pos hempty]; exact h
  · next hempty =>
    obtain ⟨v, hv, h⟩ := bind_eq_ok.1 h
    rw [if_neg hempty, ← (rulesValue_eq_ok_iff.1 hv).2]
    exact h

/-- The names of the parts of an entry. -/
def entryNames : List String :=
  ["name", "files", "ignores", "plugins", "languageOptions", "rules"]

/-- The parts of the entry for a fragment, found by their names; it has no others. -/
structure EntryParts (modules : List String) (f : Fragment) (members : List Member) : Prop where
  known : ∀ m ∈ members, m.1 ∈ entryNames
  name : memberFor "name" (some f.name) = .ok (partOf "name" members)
  files : memberFor "files" (f.files.map textList) = .ok (partOf "files" members)
  ignores : memberFor "ignores" (f.ignores.map textList) = .ok (partOf "ignores" members)
  plugins : BracedPart "plugins" f.plugins.isEmpty (pluginMembers modules f.plugins)
    (partOf "plugins" members)
  languageOptions : BracedPart "languageOptions" (f.languageOptions.getD {}).isEmpty
    (languageMembers modules (f.languageOptions.getD {})) (partOf "languageOptions" members)
  rules : memberFor "rules" (rulesPart? f.rules) = .ok (partOf "rules" members)

/-- **An entry has the parts of its fragment.** -/
theorem entryMembers_parts {modules : List String} {f : Fragment} {members : List Member}
    (h : entryMembers modules f = .ok members) : EntryParts modules f members := by
  obtain ⟨name, hname, h⟩ := bind_eq_ok.1 h
  obtain ⟨files, hfiles, h⟩ := bind_eq_ok.1 h
  obtain ⟨ignores, hignores, h⟩ := bind_eq_ok.1 h
  obtain ⟨plugins, hplugins, h⟩ := bind_eq_ok.1 h
  obtain ⟨language, hlanguage, h⟩ := bind_eq_ok.1 h
  obtain ⟨rules, hrules, h⟩ := bind_eq_ok.1 h
  replace hrules := rulePart_eq_ok hrules
  have hname' : memberFor "name" (some f.name) = .ok [("name", name)] :=
    bind_eq_ok.2 ⟨name, hname, rfl⟩
  replace hplugins := pluginPart_braced hplugins
  replace hlanguage := languagePart_braced hlanguage
  let parts : List (String × List Member) :=
    [("name", [("name", name)]), ("files", files), ("ignores", ignores), ("plugins", plugins),
      ("languageOptions", language), ("rules", rules)]
  have hnamed : ∀ part ∈ parts, Named part.1 part.2 := by
    simp only [parts, List.forall_mem_cons]
    exact ⟨named_memberFor hname', named_memberFor hfiles, named_memberFor hignores, hplugins.named,
      hlanguage.named, named_memberFor hrules, fun _ hpart => nomatch hpart⟩
  have hmembers : parts.flatMap Prod.snd = members := by
    rw [← Except.ok.inj h]
    simp [parts]
  have hparts := partOf_parts hnamed (show entryNames.Nodup by decide)
  have hknown := mem_names_of_mem_parts hnamed
  rw [hmembers] at hparts hknown
  simp only [parts, List.forall_mem_cons] at hparts
  obtain ⟨pname, pfiles, pignores, pplugins, planguage, prules, -⟩ := hparts
  exact
    { known := hknown
      name := by rw [pname, hname']
      files := by rw [pfiles, hfiles]
      ignores := by rw [pignores, hignores]
      plugins := by rwa [pplugins]
      languageOptions := by rwa [planguage]
      rules := by rw [prules, hrules] }

/-! ## Parts of language options -/

namespace LanguageOptions

/-- Empty language options are those without any part. -/
theorem eq_of_isEmpty {o : LanguageOptions} (h : o.isEmpty = true) : o = {} := by
  simp only [isEmpty, Bool.and_eq_true, decide_eq_true_eq, Option.isNone_iff_eq_none] at h
  obtain ⟨⟨⟨⟨hglobals, hversion⟩, htype⟩, hparser⟩, hoptions⟩ := h
  obtain ⟨globals, ecmaVersion, sourceType, parser, parserOptions⟩ := o
  have hempty : globals = .empty := Table.ext (List.isEmpty_iff.1 hglobals)
  cases hempty
  cases hversion
  cases htype
  cases hparser
  cases List.isEmpty_iff.1 hoptions
  rfl

/-- The globals as a value, if there are some. -/
def globalsPart? (o : LanguageOptions) : Option Value :=
  if o.globals.isEmpty then none else some (globalsValue o)

/-- The source type as a value, if it is set. -/
def sourceTypePart? (o : LanguageOptions) : Option Value :=
  o.sourceType.map fun t => .str t.word

/-- The parser options as a value, if there are some. -/
def parserOptionsPart? (o : LanguageOptions) : Option Value :=
  if o.parserOptions.isEmpty then none else some (.dict o.parserOptions)

end LanguageOptions

/-- The names of the parts of language options. -/
def languageNames : List String :=
  ["globals", "ecmaVersion", "sourceType", "parserOptions", "parser"]

/-- The parts of rendered language options, found by their names; they have no others. -/
structure LanguageParts (modules : List String) (o : LanguageOptions) (members : List Member) :
    Prop where
  known : ∀ m ∈ members, m.1 ∈ languageNames
  globals : memberFor "globals" o.globalsPart? = .ok (partOf "globals" members)
  ecmaVersion :
    memberFor "ecmaVersion" (present? o.ecmaVersion) = .ok (partOf "ecmaVersion" members)
  sourceType : memberFor "sourceType" o.sourceTypePart? = .ok (partOf "sourceType" members)
  parserOptions :
    memberFor "parserOptions" o.parserOptionsPart? = .ok (partOf "parserOptions" members)
  parser : parserMember modules o.parser = .ok (partOf "parser" members)

theorem languagePayload_eq (o : LanguageOptions) : languagePayload o =
    o.globalsPart?.toList.map ("globals", ·) ++
      (present? o.ecmaVersion).toList.map ("ecmaVersion", ·) ++
      o.sourceTypePart?.toList.map ("sourceType", ·) ++
      o.parserOptionsPart?.toList.map ("parserOptions", ·) := by
  unfold languagePayload LanguageOptions.globalsPart? LanguageOptions.sourceTypePart?
    LanguageOptions.parserOptionsPart?
  cases o.globals.isEmpty <;> cases o.sourceType <;> cases o.parserOptions.isEmpty <;> rfl

/-- One part of the plain language options is rendered as a member of its own. -/
theorem mapM_part (name : String) (v? : Option Value) :
    ((v?.toList.map (name, ·)).mapM fun e => do
      let text ← dump e.2
      return (e.1, text)) = memberFor name v? := by
  cases v? with
  | none => rfl
  | some v =>
    show ((do
      let text ← dump v
      return (name, text)) >>= fun m => pure [m]) = (do
        let text ← dump v
        return [(name, text)])
    cases dump v <;> rfl

theorem parserMember_eq_ok {modules : List String} {parser : Value} {members : List Member}
    (h : parserMember modules parser = .ok members) :
    parser = .null ∧ members = [] ∨ ∃ ref text, parser = .module ref ∧
      reference modules ref = .ok text ∧ members = [("parser", text)] := by
  unfold parserMember at h
  split at h
  · cases h
    exact .inl ⟨rfl, rfl⟩
  · next ref =>
    obtain ⟨text, htext, h⟩ := bind_eq_ok.1 h
    cases h
    exact .inr ⟨ref, text, rfl, htext, rfl⟩
  · cases h

/-- What holds of the reference to a parser holds of the member for it. -/
theorem forall_mem_parserMember {modules : List String} {parser : Value} {members : List Member}
    {p : Member → Prop} (h : parserMember modules parser = .ok members)
    (hp : ∀ ref text, parser = .module ref → reference modules ref = .ok text →
      p ("parser", text)) : ∀ m ∈ members, p m := by
  intro m hm
  rcases parserMember_eq_ok h with ⟨-, rfl⟩ | ⟨ref, text, href, htext, rfl⟩
  · cases hm
  · cases List.mem_singleton.1 hm
    exact hp ref text href htext

/-- **Language options are rendered by their parts.** -/
theorem languageMembers_parts {modules : List String} {o : LanguageOptions} {members : List Member}
    (h : languageMembers modules o = .ok members) : LanguageParts modules o members := by
  obtain ⟨plain, hplain, h⟩ := bind_eq_ok.1 h
  obtain ⟨parser, hparser, h⟩ := bind_eq_ok.1 h
  rw [languagePayload_eq] at hplain
  simp only [List.mapM_append, mapM_part] at hplain
  obtain ⟨_, hfirst, hplain⟩ := bind_eq_ok.1 hplain
  obtain ⟨parserOptions, hparserOptions, hplain⟩ := bind_eq_ok.1 hplain
  obtain ⟨_, hfirst', hfirst⟩ := bind_eq_ok.1 hfirst
  obtain ⟨sourceType, hsourceType, hfirst⟩ := bind_eq_ok.1 hfirst
  obtain ⟨globals, hglobals, hfirst'⟩ := bind_eq_ok.1 hfirst'
  obtain ⟨ecmaVersion, hecmaVersion, hfirst'⟩ := bind_eq_ok.1 hfirst'
  cases hfirst'
  cases hfirst
  cases hplain
  have hparserNamed : Named "parser" parser := forall_mem_parserMember hparser fun _ _ _ _ => rfl
  let parts : List (String × List Member) :=
    [("globals", globals), ("ecmaVersion", ecmaVersion), ("sourceType", sourceType),
      ("parserOptions", parserOptions), ("parser", parser)]
  have hnamed : ∀ part ∈ parts, Named part.1 part.2 := by
    simp only [parts, List.forall_mem_cons]
    exact ⟨named_memberFor hglobals, named_memberFor hecmaVersion, named_memberFor hsourceType,
      named_memberFor hparserOptions, hparserNamed, fun _ hpart => nomatch hpart⟩
  have hmembers : parts.flatMap Prod.snd = members := by
    rw [← Except.ok.inj h]
    simp [parts]
  have hparts := partOf_parts hnamed (show languageNames.Nodup by decide)
  have hknown := mem_names_of_mem_parts hnamed
  rw [hmembers] at hparts hknown
  simp only [parts, List.forall_mem_cons] at hparts
  obtain ⟨pglobals, pecmaVersion, psourceType, pparserOptions, pparser, -⟩ := hparts
  exact
    { known := hknown
      globals := by rw [pglobals, hglobals]
      ecmaVersion := by rw [pecmaVersion, hecmaVersion]
      sourceType := by rw [psourceType, hsourceType]
      parserOptions := by rw [pparserOptions, hparserOptions]
      parser := by rw [pparser, hparser] }

end LayeredLint
