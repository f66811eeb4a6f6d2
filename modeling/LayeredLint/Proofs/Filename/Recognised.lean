import LayeredLint.Proofs.Filename.Coverage
import LayeredLint.Proofs.Text.Lower

/-!
# Which names are accepted

A name is accepted for the end of its last component. Directories, the kind of separators,
separators behind the name and the case of letters do not matter.

- `components`: the components of a name, split at separators of both kinds.
- `HasExtension`: a component ends with a known extension behind something else.
- `Recognised`: the last component of a name does.
- `accepted_iff_recognised`: **these names are accepted**; `recognised_iff_lowerCase` says the same
  by the lower case of all scripts.
- `components_join`, `components_of_separators`, `components_toLower`: what does not matter.
- `checkFilename_recognises`: **the check answers for the last component alone**.
-/

namespace LayeredLint

namespace Filename

/-! ## Components -/

/-- The components of a name: what stands between separators, without empty pieces and single
dots. -/
def components (cs : List Char) : List (List Char) :=
  ((cs.map normalSlash).splitOn '/').filter fun piece => piece ≠ [] ∧ piece ≠ ['.']

/-- A component ends with a known extension, in small letters or capitals, and something stands
before that. -/
def HasExtension (component : List Char) : Prop :=
  ∃ stem ending, component = stem ++ ending ∧ stem ≠ [] ∧
    ∃ extension ∈ extensions, ending.map Char.toLower = extension.toList

/-- The last component of a name has a known extension. -/
def Recognised (filename : String) : Prop :=
  ∃ component, (components filename.toList).getLast? = some component ∧ HasExtension component

theorem not_hasExtension_nil : ¬HasExtension [] := by
  rintro ⟨stem, ending, hnil, hstem, -⟩
  exact hstem (List.append_eq_nil_iff.1 hnil.symm).1

/-- The name of the path that a text stands for is its last component. -/
theorem toList_name_path (filename : String) :
    (path filename).name.toList = (components filename.toList).getLast?.getD [] := by
  have hparts : (path filename).parts = (components filename.toList).map String.ofList := by
    rw [path, Path.parts_ofString, Path.components, Path.splitChars_eq_splitOn]
    rfl
  rw [Path.name, hparts, List.getLast?_map]
  cases (components filename.toList).getLast? with
  | none => rfl
  | some component => exact String.toList_ofList

theorem recognised_iff {filename : String} :
    Recognised filename ↔ HasExtension (path filename).name.toList := by
  rw [toList_name_path, Recognised]
  cases (components filename.toList).getLast? with
  | none => exact iff_of_false (fun ⟨_, h, _⟩ => nomatch h) not_hasExtension_nil
  | some component => simp

/-! ## Extensions in any letter case -/

/-- What comes to a word with a dot in front starts with that dot. -/
theorem exists_cons_dot {ending word : List Char} (h : ending.map Char.toLower = '.' :: word) :
    ∃ rest, ending = '.' :: rest ∧ rest.map Char.toLower = word := by
  obtain ⟨c, rest, rfl, hc, hrest⟩ := List.map_eq_cons_iff.1 h
  rw [(Text.toLower_eq_iff (by decide)).1 hc]
  exact ⟨rest, rfl, hrest⟩

theorem dot_not_mem_of_map {cs word : List Char} (h : cs.map Char.toLower = word)
    (hdot : '.' ∉ word) : '.' ∉ cs := by
  intro hmem
  have hlower : ('.' : Char).toLower ∈ word := h ▸ List.mem_map_of_mem hmem
  exact hdot hlower

/-- The extension of a component comes to a known one exactly if the component ends so, behind
something else. -/
theorem map_nameSuffix_eq_iff {extension : String} (plain : PlainExtension extension)
    {component : List Char} :
    (Path.nameSuffix component).map Char.toLower = extension.toList ↔
      ∃ stem ending, component = stem ++ ending ∧ stem ≠ [] ∧
        ending.map Char.toLower = extension.toList := by
  constructor
  · intro h
    have hlong : Path.nameSuffix component ≠ [] := by
      intro hnil
      rw [hnil, ← plain.dot] at h
      cases h
    rcases Path.not_mem_or_eq_append '.' component with hnone | ⟨stem, rest, rfl, hrest⟩
    · exact absurd (Path.nameSuffix_eq_nil hnone) hlong
    · rw [Path.nameSuffix_append hrest] at h hlong
      by_cases hshort : rest = [] ∨ stem = []
      · exact absurd (if_pos hshort) hlong
      · rw [if_neg hshort] at h
        exact ⟨stem, '.' :: rest, rfl, fun hstem => hshort (.inr hstem), h⟩
  · rintro ⟨stem, ending, rfl, hstem, h⟩
    rw [← plain.dot] at h ⊢
    obtain ⟨rest, rfl, hrest⟩ := exists_cons_dot h
    have hnil : rest ≠ [] := by
      rintro rfl
      exact plain.rest hrest.symm
    have hdot : '.' ∉ rest := dot_not_mem_of_map hrest plain.lastDot
    rw [Path.nameSuffix_append hdot, if_neg fun hshort => hshort.elim hnil hstem, h]

theorem hasExtension_iff {component : List Char} :
    HasExtension component ↔ ∃ extension ∈ extensions,
      (Path.nameSuffix component).map Char.toLower = extension.toList := by
  constructor
  · rintro ⟨stem, ending, hcomponent, hstem, extension, hext, h⟩
    exact ⟨extension, hext,
      (map_nameSuffix_eq_iff (plainExtension hext)).2 ⟨stem, ending, hcomponent, hstem, h⟩⟩
  · rintro ⟨extension, hext, h⟩
    obtain ⟨stem, ending, hcomponent, hstem, hending⟩ :=
      (map_nameSuffix_eq_iff (plainExtension hext)).1 h
    exact ⟨stem, ending, hcomponent, hstem, extension, hext, hending⟩

/-! ## Accepted names -/

/-- The sign that has a small letter in ASCII comes to none that is in a known extension. -/
theorem signs_not_mem : ∀ extension ∈ extensions,
    'k' ∉ extension.toList ∧ '\u212A' ∉ extension.toList := by
  decide

theorem ascii_extensions : ∀ extension ∈ extensions, ∀ c ∈ extension.toList, c.toNat < 128 := by
  have all : extensions.all (fun extension => extension.toList.all (·.toNat < 128)) = true := by
    decide
  simpa only [List.all_eq_true, decide_eq_true_eq] using all

theorem extensionOf_eq_iff {filename extension : String} :
    extensionOf filename = extension ↔
      (Path.nameSuffix (path filename).name.toList).map Text.lower = extension.toList := by
  rw [extensionOf, Text.lowerText, Path.suffix, String.toList_ofList]
  constructor
  · rintro rfl
    exact String.toList_ofList.symm
  · intro h
    rw [h, String.ofList_toList]

/-- **Accepted names** are those whose last component has a known extension. -/
theorem accepted_iff_recognised {filename : String} :
    accepted filename = true ↔ Recognised filename := by
  rw [accepted_iff, recognised_iff, hasExtension_iff]
  constructor
  · intro h
    obtain ⟨hk, hsign⟩ := signs_not_mem _ h
    exact ⟨_, h, (Text.map_lower_eq_iff hk hsign).1 (extensionOf_eq_iff.1 rfl)⟩
  · rintro ⟨extension, hext, h⟩
    obtain ⟨hk, hsign⟩ := signs_not_mem extension hext
    rw [extensionOf_eq_iff.2 ((Text.map_lower_eq_iff hk hsign).2 h)]
    exact hext

/-- The capitals of other scripts make no difference: the same names are found by the lower case of
all of them. -/
theorem recognised_iff_lowerCase {filename : String} :
    Recognised filename ↔ ∃ extension ∈ extensions,
      Text.lowerCase (Path.nameSuffix (path filename).name.toList) = extension.toList := by
  rw [recognised_iff, hasExtension_iff]
  refine exists_congr fun extension => and_congr_right fun hext => ?_
  obtain ⟨hk, hsign⟩ := signs_not_mem extension hext
  rw [Text.lowerCase_eq_iff (ascii_extensions extension hext), Text.map_lower_eq_iff hk hsign]

/-! ## What does not matter -/

/-- The components of a name behind a directory are those of both. -/
theorem components_join (directory name : List Char) {separator : Char}
    (h : normalSlash separator = '/') :
    components (directory ++ separator :: name) = components directory ++ components name := by
  rw [components, List.map_append, List.map_cons, h, List.splitOn_append_cons_self,
    List.filter_append]
  rfl

theorem components_of_separators {cs : List Char} (h : ∀ c ∈ cs, normalSlash c = '/') :
    components cs = [] := by
  induction cs with
  | nil => rfl
  | cons c rest ih =>
    rw [List.forall_mem_cons] at h
    rw [← List.nil_append (c :: rest), components_join [] rest h.1, ih h.2]
    rfl

theorem components_append_separators {name separators : List Char}
    (h : ∀ c ∈ separators, normalSlash c = '/') :
    components (name ++ separators) = components name := by
  cases separators with
  | nil => rw [List.append_nil]
  | cons c rest =>
    rw [List.forall_mem_cons] at h
    rw [components_join name rest h.1, components_of_separators h.2, List.append_nil]

theorem splitOn_map {f : Char → Char} {separator : Char}
    (h : ∀ c, f c = separator ↔ c = separator) (cs : List Char) :
    (cs.map f).splitOn separator = (cs.splitOn separator).map (List.map f) := by
  induction cs with
  | nil => rfl
  | cons c rest ih =>
    rw [List.map_cons, List.splitOn_cons_eq_if_modifyHead, List.splitOn_cons_eq_if_modifyHead, ih]
    by_cases hc : c = separator
    · rw [if_pos (beq_iff_eq.2 ((h c).2 hc)), if_pos (beq_iff_eq.2 hc)]
      rfl
    · rw [if_neg fun hf => hc ((h c).1 (beq_iff_eq.1 hf)), if_neg (mt beq_iff_eq.1 hc)]
      cases rest.splitOn separator <;> rfl

theorem normalSlash_toLower (c : Char) : normalSlash c.toLower = (normalSlash c).toLower := by
  by_cases hc : c = '\\'
  · rw [hc]
    rfl
  · have hlower : c.toLower ≠ '\\' := fun h => hc ((Text.toLower_eq_iff (by decide)).1 h)
    rw [normalSlash, normalSlash, if_neg hlower, if_neg hc]

/-- Splitting goes by characters that are no letters. -/
theorem components_toLower (cs : List Char) :
    components (cs.map Char.toLower) = (components cs).map (List.map Char.toLower) := by
  have hslash : (cs.map Char.toLower).map normalSlash = (cs.map normalSlash).map Char.toLower := by
    rw [List.map_map, List.map_map]
    exact List.map_congr_left fun c _ => normalSlash_toLower c
  rw [components, components, hslash, splitOn_map (fun _ => Text.toLower_eq_iff (by decide)),
    List.filter_map]
  refine congrArg (List.map _) (List.filter_congr fun piece _ => ?_)
  have hdot : piece.map Char.toLower = ['.'] ↔ piece = ['.'] := by
    constructor
    · intro h
      obtain ⟨rest, rfl, hrest⟩ := exists_cons_dot h
      rw [List.map_eq_nil_iff.1 hrest]
    · rintro rfl
      rfl
  simp [hdot]

theorem hasExtension_toLower {component : List Char} :
    HasExtension (component.map Char.toLower) ↔ HasExtension component := by
  have htwice : ∀ cs : List Char, (cs.map Char.toLower).map Char.toLower = cs.map Char.toLower := by
    intro cs
    rw [List.map_map]
    exact List.map_congr_left fun c _ => Text.toLower_toLower c
  constructor
  · rintro ⟨stem, ending, h, hstem, extension, hext, hending⟩
    obtain ⟨stem', ending', rfl, rfl, rfl⟩ := List.map_eq_append_iff.1 h
    exact ⟨stem', ending', rfl, mt List.map_eq_nil_iff.2 hstem, extension, hext,
      htwice ending' ▸ hending⟩
  · rintro ⟨stem, ending, rfl, hstem, extension, hext, hending⟩
    exact ⟨stem.map Char.toLower, ending.map Char.toLower, List.map_append,
      mt List.map_eq_nil_iff.1 hstem, extension, hext, (htwice ending).trans hending⟩

/-- A name is recognised by its small letters. -/
theorem recognised_toLower {filename : String} :
    Recognised filename.toLower ↔ Recognised filename := by
  rw [Recognised, Recognised, Text.toList_toLower, components_toLower, List.getLast?_map]
  cases (components filename.toList).getLast? with
  | none => exact iff_of_false (fun ⟨_, h, _⟩ => nomatch h) (fun ⟨_, h, _⟩ => nomatch h)
  | some component => simp [hasExtension_toLower]

/-! ## Answers -/

theorem checkFilename_eq_self_iff {filename : String} :
    checkFilename filename = .ok filename ↔ Recognised filename := by
  rw [checkFilename_eq_ok_iff, and_iff_left rfl, accepted_iff_recognised]

theorem checkFilename_eq_invalid_iff {filename : String} :
    checkFilename filename = invalid (.unknownExtension filename) ↔ ¬Recognised filename := by
  rw [← accepted_iff_recognised]
  unfold checkFilename
  split
  · next h => exact iff_of_false (fun heq => nomatch heq) (not_not_intro h)
  · next h => exact iff_of_true rfl h

/-- Two names are both accepted, or both refused. -/
def SameAnswer (a b : String) : Prop :=
  checkFilename a = .ok a ↔ checkFilename b = .ok b

theorem sameAnswer_iff {a b : String} : SameAnswer a b ↔ (Recognised a ↔ Recognised b) := by
  rw [SameAnswer, checkFilename_eq_self_iff, checkFilename_eq_self_iff]

theorem sameAnswer_of_getLast? {a b : String}
    (h : (components a.toList).getLast? = (components b.toList).getLast?) : SameAnswer a b := by
  rw [sameAnswer_iff, Recognised, Recognised, h]

theorem sameAnswer_of_toLower {a b : String} (h : a.toLower = b.toLower) : SameAnswer a b := by
  rw [sameAnswer_iff, ← recognised_toLower, h, recognised_toLower]

/-- A name behind a directory has the answer of the name alone. -/
theorem sameAnswer_join (directory : String) {name : String} (h : components name.toList ≠ []) :
    SameAnswer (directory ++ "/" ++ name) name := by
  refine sameAnswer_of_getLast? ?_
  have htext : (directory ++ "/" ++ name).toList = directory.toList ++ '/' :: name.toList := by
    rw [String.toList_append, String.toList_append, List.append_assoc]
    rfl
  rw [htext, components_join _ _ rfl, List.getLast?_append]
  cases hlast : (components name.toList).getLast? with
  | none => exact absurd (List.getLast?_eq_none_iff.1 hlast) h
  | some component => rfl

theorem sameAnswer_of_slashed {a b : String} (h : slashed a = slashed b) : SameAnswer a b := by
  have hcomponents : components a.toList = components b.toList := by
    unfold slashed at h
    rw [components, components, h]
  exact sameAnswer_of_getLast? (by rw [hcomponents])

theorem sameAnswer_append_separators (name : String) {separators : String}
    (h : ∀ c ∈ separators.toList, c = '/' ∨ c = '\\') :
    SameAnswer (name ++ separators) name := by
  refine sameAnswer_of_getLast? ?_
  have hslash : ∀ c ∈ separators.toList, normalSlash c = '/' := by
    intro c hc
    rcases h c hc with rfl | rfl <;> rfl
  rw [String.toList_append, components_append_separators hslash]

/-- **The check answers for the last component alone.** A name is handed back exactly if its last
component ends, whatever the case of the letters, with a known extension behind something else;
every other name is refused. So the answer does not depend on directories, on which kind of
separator stands where, on separators behind the name, or on the case of letters; and the capitals
of other scripts come to no known extension. -/
theorem checkFilename_recognises :
    (∀ filename, checkFilename filename = .ok filename ↔ Recognised filename) ∧
      (∀ filename, checkFilename filename = invalid (.unknownExtension filename) ↔
        ¬Recognised filename) ∧
      (∀ directory name : String, components name.toList ≠ [] →
        SameAnswer (directory ++ "/" ++ name) name) ∧
      (∀ a b, slashed a = slashed b → SameAnswer a b) ∧
      (∀ name separators : String, (∀ c ∈ separators.toList, c = '/' ∨ c = '\\') →
        SameAnswer (name ++ separators) name) ∧
      (∀ a b : String, a.toLower = b.toLower → SameAnswer a b) ∧
      ∀ filename, Recognised filename ↔ ∃ extension ∈ extensions,
        Text.lowerCase (path filename).suffix.toList = extension.toList := by
  refine ⟨fun _ => checkFilename_eq_self_iff, fun _ => checkFilename_eq_invalid_iff,
    fun directory _ => sameAnswer_join directory, fun _ _ => sameAnswer_of_slashed,
    fun name _ => sameAnswer_append_separators name, fun _ _ => sameAnswer_of_toLower, ?_⟩
  intro filename
  rw [recognised_iff_lowerCase, Path.suffix, String.toList_ofList]

/-- Names that are told apart by their last component only. -/
theorem checkFilename_recognises_samples :
    (checkFilename "..ts" = .ok "..ts" ∧ Recognised "..ts") ∧
      (checkFilename "a.ts/.." = invalid (.unknownExtension "a.ts/..") ∧
        ¬Recognised "a.ts/..") ∧
      (components "b.cTs".toList ≠ [] ∧ SameAnswer ("a.py" ++ "/" ++ "b.cTs") "b.cTs") ∧
      (slashed "a\\b.mjs" = slashed "a/b.mjs" ∧ SameAnswer "a\\b.mjs" "a/b.mjs") ∧
      ((∀ c ∈ "\\/".toList, c = '/' ∨ c = '\\') ∧ SameAnswer ("a.ts" ++ "\\/") "a.ts") ∧
      ("A.TSX".toLower = "a.tsx".toLower ∧ SameAnswer "A.TSX" "a.tsx") := by
  obtain ⟨handed, refused, directory, kind, behind, letters, -⟩ := checkFilename_recognises
  have hdots : checkFilename "..ts" = .ok "..ts" := checkFilename_eq_ok_iff.2 ⟨by decide, rfl⟩
  have habove : checkFilename "a.ts/.." = invalid (.unknownExtension "a.ts/..") := by
    rw [checkFilename, if_neg (by decide)]
  have hname : components "b.cTs".toList ≠ [] := by decide
  have hseparators : ∀ c ∈ "\\/".toList, c = '/' ∨ c = '\\' := by simp
  have hletters : "A.TSX".toLower = "a.tsx".toLower := by
    rw [← String.toList_inj, Text.toList_toLower, Text.toList_toLower]
    decide
  exact ⟨⟨hdots, (handed _).1 hdots⟩, ⟨habove, (refused _).1 habove⟩,
    ⟨hname, directory _ _ hname⟩, ⟨by decide, kind _ _ (by decide)⟩,
    ⟨hseparators, behind _ _ hseparators⟩, hletters, letters _ _ hletters⟩

end Filename

end LayeredLint
