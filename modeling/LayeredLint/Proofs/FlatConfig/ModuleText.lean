import LayeredLint.Proofs.FlatConfig.Expressions

/-!
# The text of a configuration module

The lines of a module are its imports, a blank line, and the entries between brackets. The parts
can be told from the text: a line of an import ends with the name of a module in quotes, and an entry
ends with its closing brace.

- `textLines`: the lines of a module; `renderModule_eq_ok`: **a rendered module has these lines**.
- `importLines_append_inj`, `entryLines_append_inj`: the imports, and the entries, can be told from
  what follows them.
-/

namespace LayeredLint

open Json (stringText)

/-! ## Lines -/

/-- Lines one below the other. -/
def linesText (lines : List String) : List Char :=
  lines.flatMap fun line => line.toList ++ ['\n']

theorem toList_join_lines (lines : List String) :
    (String.join (lines.map (· ++ "\n"))).toList = linesText lines := by
  rw [String.toList_join, List.flatMap_map]
  refine List.flatMap_congr fun line _ => ?_
  exact String.toList_append

theorem linesText_append (lines lines' : List String) :
    linesText (lines ++ lines') = linesText lines ++ linesText lines' :=
  List.flatMap_append

theorem linesText_cons (line : String) (lines : List String) :
    linesText (line :: lines) = line.toList ++ '\n' :: linesText lines := by
  rw [linesText, List.flatMap_cons, List.append_assoc]
  rfl

/-- The line of an entry. -/
def entryLine (members : List Member) : String :=
  "  " ++ braced members ++ ","

/-- The lines of a module that imports some modules and has some entries. -/
def textLines (modules : List String) (entries : List (List Member)) : List String :=
  modules.mapIdx importLine ++ ["", "export default ["] ++ entries.map entryLine ++ ["]"]

/-- The lines of a module in their parts. -/
theorem linesText_textLines (modules : List String) (entries : List (List Member)) :
    linesText (textLines modules entries) = linesText (modules.mapIdx importLine) ++
      '\n' :: ("export default [\n".toList ++ (linesText (entries.map entryLine) ++ "]\n".toList)) := by
  rw [textLines, linesText_append, linesText_append, linesText_append, List.append_assoc,
    List.append_assoc]
  rfl

/-- **The parts of a rendered module**: the modules it imports, and the members of its entries. -/
theorem renderModule_eq_ok {fs : List Fragment} {text : String} (h : renderModule fs = .ok text) :
    ∃ modules entries, moduleNames fs = .ok modules ∧
      List.Forall₂ (fun f members => entryMembers modules f = .ok members) fs entries ∧
      text.toList = linesText (textLines modules entries) := by
  obtain ⟨lines, hlines, h⟩ := bind_eq_ok.1 h
  cases h
  obtain ⟨modules, hmodules, hlines⟩ := bind_eq_ok.1 hlines
  obtain ⟨entryLines, hentries, hlines⟩ := bind_eq_ok.1 hlines
  cases hlines
  obtain ⟨entries, hsteps, rfl⟩ := mapM_return_eq_ok.1 hentries
  refine ⟨modules, entries, hmodules, hsteps, ?_⟩
  show (String.join ((textLines modules entries).map (· ++ "\n"))).toList = _
  rw [toList_join_lines]

/-! ## Imports -/

theorem toList_importLine (n : Nat) (module : String) : (importLine n module).toList =
    'i' :: ("mport ".toList ++ (aliasAt n).toList ++ " from ".toList ++ stringText module) := by
  simp [importLine]

/-- Imports can be told from the blank line that follows them. -/
theorem importLines_append_inj {modules modules' : List String} {rest rest' : List Char}
    {line : Nat → String → String} {front : Nat → List Char}
    (hline : ∀ n module, (line n module).toList = 'i' :: (front n ++ stringText module))
    (h : linesText (modules.mapIdx line) ++ '\n' :: rest =
      linesText (modules'.mapIdx line) ++ '\n' :: rest') : modules = modules' ∧ rest = rest' := by
  -- an import starts with a letter, and the line that follows the imports is blank; the numbers of
  -- the aliases move on with the imports
  induction modules generalizing modules' line front with
  | nil =>
    cases modules' with
    | nil => injection h with _ h; exact ⟨rfl, h⟩
    | cons module' modules' =>
      rw [List.mapIdx_cons, linesText_cons, hline] at h
      cases h
  | cons module modules ih =>
    cases modules' with
    | nil =>
      rw [List.mapIdx_cons, linesText_cons, hline] at h
      cases h
    | cons module' modules' =>
      rw [List.mapIdx_cons, List.mapIdx_cons, linesText_cons, linesText_cons, hline, hline] at h
      simp only [List.cons_append, List.append_assoc] at h
      injection h with _ h
      obtain ⟨rfl, htail⟩ := Json.stringText_append_inj (List.append_cancel_left h)
      injection htail with _ htail
      obtain ⟨rfl, hrest⟩ := ih (fun n => hline (n + 1)) htail
      exact ⟨rfl, hrest⟩

/-! ## Entries -/

/-- Entries can be told from the bracket that follows them. -/
theorem entryLines_append_inj {entries entries' : List (List Member)} {rest rest' : List Char}
    (hentries : ∀ members ∈ entries, ∀ m ∈ members, IsMember m)
    (hentries' : ∀ members ∈ entries', ∀ m ∈ members, IsMember m)
    (h : linesText (entries.map entryLine) ++ ']' :: rest =
      linesText (entries'.map entryLine) ++ ']' :: rest') : entries = entries' ∧ rest = rest' := by
  have hline : ∀ members, (entryLine members).toList =
      ' ' :: ' ' :: ((braced members).toList ++ [',']) := by
    intro members
    simp [entryLine]
  -- an entry is indented, and the bracket is not
  induction entries generalizing entries' with
  | nil =>
    cases entries' with
    | nil => injection h with _ h; exact ⟨rfl, h⟩
    | cons members' entries' =>
      rw [List.map_cons, linesText_cons, hline] at h
      cases h
  | cons members entries ih =>
    cases entries' with
    | nil =>
      rw [List.map_cons, linesText_cons, hline] at h
      cases h
    | cons members' entries' =>
      rw [List.forall_mem_cons] at hentries hentries'
      rw [List.map_cons, List.map_cons, linesText_cons, linesText_cons, hline, hline] at h
      simp only [List.cons_append, List.append_assoc, List.nil_append] at h
      injection h with _ h
      injection h with _ h
      obtain ⟨rfl, htail⟩ := braced_append_inj hentries.1 hentries'.1 h
      injection htail with _ htail
      injection htail with _ htail
      obtain ⟨rfl, hrest⟩ := ih hentries.2 hentries'.2 htail
      exact ⟨rfl, hrest⟩

end LayeredLint
