import Mathlib.Data.List.Nodup
import LayeredLint.Proofs.FlatConfig.Omissions

/-!
# Rendered modules are closed

A rendered module imports what its entries refer to, each module once and under an alias of its own.
What stands on its lines is said character by character: an import is `import`, the alias, `from` and
the module in quotes, and a reference is the alias, and behind a point the export if there is one.

- `IsDocument`: the text of a value, which refers to nothing.
- `RefersWithin`: the references of an entry are those of its fragment.
- `ClosedText`: the text of a module that imports what it refers to.
- `renderModule_closed`: **a rendered module is closed and imports each module once**.
-/

namespace LayeredLint

open Json (stringText)

/-! ## References of an entry -/

/-- The text of a value. -/
def IsDocument (text : String) : Prop :=
  ∃ v, Json.line? v = some text

/-- The references of an entry are those of its fragment: every plugin goes by its name, in quotes
and in order, and refers to its source, and the parser to its module; there are no others, as every
further member is the text of a value. -/
structure RefersWithin (modules : List String) (f : Fragment) (members : List Member) : Prop where
  plugins : ∃ inner, partOf "plugins" members = nested "plugins" inner ∧
    List.Forall₂ (fun e m => m.1 = String.ofList (stringText e.1.word) ∧
      RefersTo modules e.2.source m.2) f.plugins.entries inner
  languageOptions : ∃ inner, partOf "languageOptions" members = nested "languageOptions" inner ∧
    List.Forall₂ (fun ref m => m.1 = "parser" ∧ RefersTo modules ref m.2)
      f.parserRef?.toList (partOf "parser" inner) ∧
    ∀ m ∈ inner, m.1 ≠ "parser" → IsDocument m.2
  documents : ∀ m ∈ members, m.1 ≠ "plugins" → m.1 ≠ "languageOptions" → IsDocument m.2

theorem isDocument_of_dump {v : Value} {text : String} (h : dump v = .ok text) :
    IsDocument text := by
  unfold dump at h
  cases htext : Json.line? v with
  | none => rw [htext] at h; cases h
  | some text' => rw [htext] at h; cases h; exact ⟨v, htext⟩

theorem isDocument_of_memberFor {name : String} {v? : Option Value} {members : List Member}
    (h : memberFor name v? = .ok members) : ∀ m ∈ members, IsDocument m.2 :=
  forall_mem_memberFor h fun _ _ _ htext => isDocument_of_dump htext

theorem refersTo_of_pluginMembers {modules : List String} {plugins : Table Name PluginHandle}
    {members : List Member} (h : pluginMembers modules plugins = .ok members) :
    List.Forall₂ (fun e m => m.1 = String.ofList (stringText e.1.word) ∧
      RefersTo modules e.2.source m.2) plugins.entries members := by
  refine (mapM_eq_ok_iff.1 h).imp fun e m hstep => ?_
  obtain ⟨text, htext, hstep⟩ := bind_eq_ok.1 hstep
  cases hstep
  exact ⟨rfl, reference_eq_ok htext⟩

theorem refersTo_of_parserMember {modules : List String} {parser : Value} {members : List Member}
    (h : parserMember modules parser = .ok members) :
    List.Forall₂ (fun ref m => m.1 = "parser" ∧ RefersTo modules ref m.2)
      (parserRef? parser).toList members := by
  rcases parserMember_eq_ok h with ⟨rfl, rfl⟩ | ⟨ref, text, rfl, htext, rfl⟩
  · exact .nil
  · exact .cons ⟨rfl, reference_eq_ok htext⟩ .nil

/-- Beside the parser, language options are texts of values. -/
theorem isDocument_of_languageParts {modules : List String} {o : LanguageOptions}
    {members : List Member} (h : LanguageParts modules o members) :
    ∀ m ∈ members, m.1 ≠ "parser" → IsDocument m.2 := by
  refine forall_mem_of_partOf h.known ?_
  simp only [languageNames, List.forall_mem_cons]
  exact ⟨fun m hm _ => isDocument_of_memberFor h.globals m hm,
    fun m hm _ => isDocument_of_memberFor h.ecmaVersion m hm,
    fun m hm _ => isDocument_of_memberFor h.sourceType m hm,
    fun m hm _ => isDocument_of_memberFor h.parserOptions m hm,
    fun m hm hne => absurd (of_decide_eq_true (List.mem_filter.1 hm).2) hne,
    List.forall_mem_nil _⟩

/-- Beside plugins and language options, the members of an entry are texts of values. -/
theorem isDocument_of_entryParts {modules : List String} {f : Fragment} {members : List Member}
    (h : EntryParts modules f members) :
    ∀ m ∈ members, m.1 ≠ "plugins" → m.1 ≠ "languageOptions" → IsDocument m.2 := by
  refine forall_mem_of_partOf h.known ?_
  simp only [entryNames, List.forall_mem_cons]
  exact ⟨fun m hm _ _ => isDocument_of_memberFor h.name m hm,
    fun m hm _ _ => isDocument_of_memberFor h.files m hm,
    fun m hm _ _ => isDocument_of_memberFor h.ignores m hm,
    fun m hm hne _ => absurd (of_decide_eq_true (List.mem_filter.1 hm).2) hne,
    fun m hm _ hne => absurd (of_decide_eq_true (List.mem_filter.1 hm).2) hne,
    fun m hm _ _ => isDocument_of_memberFor h.rules m hm, List.forall_mem_nil _⟩

theorem refersWithin_entryMembers {modules : List String} {f : Fragment} {members : List Member}
    (h : entryMembers modules f = .ok members) : RefersWithin modules f members where
  plugins := by
    obtain ⟨inner, hinner, hnested⟩ := (entryMembers_parts h).plugins.exists_nested
      pluginMembers_eq_nil_iff.2 pluginMembers_eq_nil_iff.1
    exact ⟨inner, hnested, refersTo_of_pluginMembers hinner⟩
  languageOptions := by
    obtain ⟨inner, hinner, hnested⟩ := (entryMembers_parts h).languageOptions.exists_nested
      languageMembers_eq_nil_iff.2 languageMembers_eq_nil_iff.1
    have hparts := languageMembers_parts hinner
    refine ⟨inner, hnested, ?_, isDocument_of_languageParts hparts⟩
    rw [f.parserRef?_eq]
    exact refersTo_of_parserMember hparts.parser
  documents := isDocument_of_entryParts (entryMembers_parts h)

/-! ## Closed modules -/

/-- The text of a module is closed. Split at its line feeds it has an import for each module under
the alias for its place, a blank line, and a line for each entry between brackets. What an import
names in quotes is read as the module. The modules are those that fragments refer to, each once and in
the order of the first references, and the references of the entries go to them. -/
structure ClosedText (fs : List Fragment) (text : String) (modules entries : List String) :
    Prop where
  lines : text.toList.splitOn '\n' = (spelledLines modules entries).map String.toList
  named : ∀ module ∈ modules, Json.read (String.ofList (stringText module)) = .ok (.str module)
  imported : ∀ module, module ∈ modules ↔ ∃ f ∈ fs, ∃ ref ∈ f.references, ref.module = module
  once : modules.Nodup
  inOrder : modules = firstKeys (fs.flatMap Fragment.modules)
  aliases : ((List.range modules.length).map fun n => "m" ++ toString n).Nodup
  entries : List.Forall₂ (fun f entry =>
    ∃ members, entry = objectText members ∧ RefersWithin modules f members) fs entries

/-- **A rendered module is closed and imports each module once.** Fragments that can be printed have
a module. Where exports have no line feed, its lines are the imports, a blank line, and the list with
one line for each fragment. Every module that a plugin or parser comes from is imported once, where
it is referred to first, under `m0`, `m1` and so on; and each reference is the alias of its module,
with a point and its export behind it if it has one. -/
theorem renderModule_closed (fs : List Fragment) (h : ∀ f ∈ fs, f.Serialisable)
    (exports : ∀ f ∈ fs, ∀ ref ∈ f.references, ref.OneLine) :
    ∃ text modules entries, renderModule fs = .ok text ∧ ClosedText fs text modules entries := by
  obtain ⟨text, modules, entries, htext, hmodules, hentries, hlines⟩ :=
    renderModule_lines h exports
  obtain ⟨-, hfirst⟩ := moduleNames_eq_ok_iff.1 hmodules
  refine ⟨text, modules, entries.map objectText, htext, ?_⟩
  exact
    { lines := hlines
      named := fun module _ => Json.read_stringText module
      imported := by
        intro module
        simp only [hfirst, mem_firstKeys, List.mem_flatMap, Fragment.modules, List.mem_map]
      once := hfirst ▸ nodup_firstKeys _
      inOrder := hfirst
      aliases := List.Nodup.map aliasAt_injective List.nodup_range
      entries := List.forall₂_map_right_iff.2 (hentries.imp fun f members hentry =>
        ⟨members, rfl, refersWithin_entryMembers hentry⟩) }

/-! ### One module in many places -/

/-- One module has two exports, a plugin and the parser, in the first fragment, and is a plugin as a
whole in the second one; an option is a floating point number, and a name is a broken text. -/
def recurringSample : List Fragment :=
  [{ name := .str "first"
     plugins := .ofList [("kit", .of { module := "kit", exported := some "plugin" }),
       ("other", .of { module := "other" })]
     rules := .ofList [("kit/x", ⟨.warn, [.float (.finite false 3 (-1))]⟩)]
     languageOptions := some
       { parser := .module { module := "kit", exported := some "parser" } } },
   { name := .brokenText [0xDE00, 0x62]
     plugins := .ofList [("third", .of { module := "third" }), ("kit", .of { module := "kit" })] }]

theorem serialisable_recurringSample : ∀ f ∈ recurringSample, f.Serialisable := by
  intro f hf
  rcases List.mem_pair.1 hf with rfl | rfl
  · refine ⟨by decide, by decide, fun o ho => ?_⟩
    cases ho
    exact LanguageOptions.serialisable_of_parser (.inr ⟨_, rfl⟩)
  · exact ⟨by decide, by decide, fun _ ho => nomatch ho⟩

theorem renderModule_closed_recurring :
    (∀ f ∈ recurringSample, f.Serialisable) ∧
      (∀ f ∈ recurringSample, ∀ ref ∈ f.references, ref.OneLine) ∧
      ∃ text entries, renderModule recurringSample = .ok text ∧
        ClosedText recurringSample text ["kit", "other", "third"] entries := by
  have exports : ∀ f ∈ recurringSample, ∀ ref ∈ f.references, ref.OneLine := by decide
  obtain ⟨text, modules, entries, htext, closed⟩ :=
    renderModule_closed recurringSample serialisable_recurringSample exports
  have hmodules : modules = ["kit", "other", "third"] := closed.inOrder.trans (by decide)
  exact ⟨serialisable_recurringSample, exports, text, entries, htext, hmodules ▸ closed⟩

end LayeredLint
