import LayeredLint.Proofs.FlatConfig.Members
import LayeredLint.Proofs.FlatConfig.ModuleText
import LayeredLint.Proofs.FlatConfig.ObjectText
import LayeredLint.Proofs.FlatConfig.Serialisable

/-!
# Lines of a configuration module

No text that is printed on one line has a line feed in it, and neither has a reference unless its
export does. So the lines of a module are told from its text, and what stands on them is said here
character by character.

- `OneLine`: a text without a line feed; `inherited_oneLine`: members are such texts.
- `spelledLines`: imports, a blank line, and the entries between brackets.
- `splitOn_linesText`: the lines of a text, split at the line feeds.
- `renderModule_lines`: **the lines of a rendered module**, where exports have no line feed.
-/

namespace LayeredLint

open Json (stringText)

/-! ## What stands on the lines -/

/-- The import of a module under the alias for its place. -/
def importText (n : Nat) (module : String) : String :=
  "import m" ++ toString n ++ " from " ++ String.ofList (stringText module)

/-- The lines of a module: an import each for the modules, a blank line, and one line each for the
entries between brackets. Behind the last line feed there is nothing. -/
def spelledLines (modules entries : List String) : List String :=
  modules.mapIdx importText ++ ["", "export default ["] ++
    entries.map (fun entry => "  " ++ entry ++ ",") ++ ["]", ""]

theorem importLine_eq_importText (n : Nat) (module : String) :
    importLine n module = importText n module := by
  have halias : "import " ++ aliasAt n = "import m" ++ toString n := String.append_assoc.symm
  rw [importLine, halias, importText]

/-- The lines of a module are spelled as is said. -/
theorem spelledLines_eq (modules : List String) (entries : List (List Member)) :
    spelledLines modules (entries.map objectText) = textLines modules entries ++ [""] := by
  have himports : modules.mapIdx importLine = modules.mapIdx importText :=
    congrArg (modules.mapIdx ·) (funext fun n => funext (importLine_eq_importText n))
  rw [spelledLines, textLines, himports, List.map_map, List.append_assoc _ ["]"]]
  rfl

/-! ## Texts on one line -/

/-- A text without a line feed. -/
def OneLine (text : String) : Prop :=
  '\n' ∉ text.toList

instance (text : String) : Decidable (OneLine text) :=
  inferInstanceAs (Decidable ('\n' ∉ text.toList))

/-- A member with both its name and its value on one line. -/
def OneLineMember (m : Member) : Prop :=
  OneLine m.1 ∧ OneLine m.2

/-- The export of a reference, if it names one, has no line feed. -/
def ModuleRef.OneLine (ref : ModuleRef) : Prop :=
  ∀ exported ∈ ref.exported, LayeredLint.OneLine exported

instance (ref : ModuleRef) : Decidable ref.OneLine :=
  inferInstanceAs (Decidable (∀ exported ∈ ref.exported, LayeredLint.OneLine exported))

/-- Letters, digits, `_` and `$` are no line feeds. -/
theorem ModuleRef.Nameable.oneLine {ref : ModuleRef} (h : ref.Nameable) : ref.OneLine := by
  intro exported hexported hmem
  exact absurd (h exported hexported '\n' hmem) (by decide)

theorem oneLine_of_dump {v : Value} {text : String} (h : dump v = .ok text) : OneLine text :=
  (Json.lineText_of_text? (text?_of_dump h)).newline_not_mem

theorem oneLine_of_refersTo {modules : List String} {ref : ModuleRef} {text : String}
    (href : ref.OneLine) (h : RefersTo modules ref text) : OneLine text := by
  obtain ⟨n, -, htext⟩ := h.exists_toList
  have hexport : '\n' ∉ (exportText ref.exported).toList := by
    cases hexported : ref.exported with
    | none => exact List.not_mem_nil
    | some exported =>
      rw [toList_exportText_some]
      exact List.not_mem_cons_of_ne_of_not_mem (by decide) (href exported hexported)
  rw [OneLine, htext]
  simp [(Json.bare_toDigits n).newline_not_mem, hexport]

theorem oneLine_importLine (n : Nat) (module : String) : OneLine (importLine n module) := by
  simp [OneLine, importLine, toList_aliasAt, (Json.bare_toDigits n).newline_not_mem,
    (Json.lineText_stringText module).newline_not_mem]

/-- Members are on one line in braces where each of them is. -/
theorem oneLine_braced {members : List Member} (h : ∀ m ∈ members, OneLineMember m) :
    OneLine (braced members) := by
  have hmember : ∀ m ∈ members, '\n' ∉ memberText m := by
    intro m hm
    obtain ⟨hname, hvalue⟩ := h m hm
    rw [OneLine] at hname hvalue
    simp [memberText, hname, hvalue]
  have hmembers := Json.newline_not_mem_intercalate (List.forall_mem_map.2 hmember)
  rw [intercalate_eq_membersText] at hmembers
  rw [OneLine, toList_braced]
  simp [hmembers]

theorem oneLine_entryLine {members : List Member} (h : ∀ m ∈ members, OneLineMember m) :
    OneLine (entryLine members) := by
  have hbraced := oneLine_braced h
  rw [OneLine] at hbraced
  simp [OneLine, entryLine, hbraced]

/-- Members are on one line, where exports are. -/
theorem inherited_oneLine (modules : List String) :
    Inherited modules (fun _ => True) ModuleRef.OneLine OneLineMember := by
  have hnames : ∀ name ∈ entryNames ++ languageNames, OneLine name := by decide
  exact
    { document := fun hname _ htext => ⟨hnames _ hname, oneLine_of_dump htext⟩
      plugin := by
        intro name ref text href htext
        refine ⟨?_, oneLine_of_refersTo href htext⟩
        rw [OneLine, String.toList_ofList]
        exact (Json.lineText_stringText name).newline_not_mem
      parser := fun href htext => ⟨hnames "parser" (by decide), oneLine_of_refersTo href htext⟩
      braces := fun hname hinner =>
        ⟨hnames _ (List.mem_append_left _ hname), oneLine_braced hinner⟩ }

/-- Of values nothing is asked, and of references what holds of each of them. -/
theorem Fragment.fits_of_references {Ref : ModuleRef → Prop} {f : Fragment}
    (h : ∀ ref ∈ f.references, Ref ref) : f.Fits (fun _ => True) Ref where
  name := trivial
  files _ _ := trivial
  ignores _ _ := trivial
  plugins handle hhandle := h _ (List.mem_append_left _ (List.mem_map_of_mem hhandle))
  languageOptions :=
    { globals := fun _ _ => trivial
      ecmaVersion := fun _ _ => trivial
      sourceType := fun _ _ => trivial
      parserOptions := fun _ _ => trivial
      parser := by
        intro ref href
        refine h ref (List.mem_append_right _ (Option.mem_toList.2 ?_))
        rw [f.parserRef?_eq, href]
        rfl }
  rules _ _ := trivial

/-! ## Lines of a text -/

/-- Lines are told from their text, with nothing behind the last line feed. -/
theorem splitOn_linesText {lines : List String} (h : ∀ line ∈ lines, OneLine line) :
    (linesText lines).splitOn '\n' = (lines ++ [""]).map String.toList := by
  induction lines with
  | nil => rfl
  | cons line rest ih =>
    rw [List.forall_mem_cons] at h
    rw [linesText_cons, List.splitOn_append_cons_self_of_not_mem h.1, ih h.2]
    rfl

theorem oneLine_textLines {modules : List String} {entries : List (List Member)}
    (h : ∀ members ∈ entries, ∀ m ∈ members, OneLineMember m) :
    ∀ line ∈ textLines modules entries, OneLine line := by
  have himports : ∀ line ∈ modules.mapIdx importLine, OneLine line := by
    intro line hline
    obtain ⟨n, _, rfl⟩ := List.mem_mapIdx.1 hline
    exact oneLine_importLine n _
  have hentries : ∀ line ∈ entries.map entryLine, OneLine line := by
    intro line hline
    obtain ⟨members, hmembers, rfl⟩ := List.mem_map.1 hline
    exact oneLine_entryLine (h members hmembers)
  simp only [textLines, List.forall_mem_append]
  exact ⟨⟨⟨himports, by decide⟩, hentries⟩, by decide⟩

/-- **The lines of a rendered module.** Fragments that can be printed have a module, and where no
export has a line feed its lines are the imports, a blank line, and the entries between brackets. -/
theorem renderModule_lines {fs : List Fragment} (h : ∀ f ∈ fs, f.Serialisable)
    (exports : ∀ f ∈ fs, ∀ ref ∈ f.references, ref.OneLine) :
    ∃ text modules entries, renderModule fs = .ok text ∧ moduleNames fs = .ok modules ∧
      List.Forall₂ (fun f members => entryMembers modules f = .ok members) fs entries ∧
      text.toList.splitOn '\n' =
        (spelledLines modules (entries.map objectText)).map String.toList := by
  obtain ⟨text, htext⟩ := exists_renderModule_iff.2 h
  obtain ⟨modules, entries, hmodules, hentries, hlines⟩ := renderModule_eq_ok htext
  have hone : ∀ members ∈ entries, ∀ m ∈ members, OneLineMember m := by
    intro members hmembers
    obtain ⟨f, hf, hentry⟩ := exists_of_mem_mapM (mapM_eq_ok_iff.2 hentries) hmembers
    exact (inherited_oneLine modules).entryMembers
      (Fragment.fits_of_references (exports f hf)) hentry
  refine ⟨text, modules, entries, htext, hmodules, hentries, ?_⟩
  rw [hlines, splitOn_linesText (oneLine_textLines hone), spelledLines_eq]

end LayeredLint
