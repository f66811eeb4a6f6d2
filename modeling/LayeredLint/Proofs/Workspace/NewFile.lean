import LayeredLint.Proofs.Except
import LayeredLint.Workspace
import Mathlib.Data.List.Fold
import Mathlib.Data.List.MinMax

/-!
# New files

A new file is written under a name that no file of the workspace has, so that removing it leaves
everything as it was.

- `Workspace.LeadsTo`: a path leads to a directory.
- `Workspace.addFile_eq_ok_iff`: a file can be written where there is a directory, and what there is
  then.
- `Workspace.ne_of_mem_files`: **no file has the new name**.
- `Workspace.removeFile_addFile`: **removing the new file leaves the workspace as it was**.
- `Workspace.contentAt?_addFile`, `Workspace.contentAt?_addFile_of_ne`: the new file holds its
  content, and every other file is as it was.
-/

namespace LayeredLint.Workspace

/-- A path leads to a directory, seen from the current one. -/
structure LeadsTo (w : Workspace) (p place : Path) : Prop where
  named : p.hasNull = false
  follow : w.follow p = .ok place
  isDirectory : w.isDirectory place = true

theorem enter_eq_ok_iff {w : Workspace} {p place : Path} :
    w.enter p = .ok place ↔ p = place ∧ w.isDirectory place = true := by
  unfold enter
  by_cases h : w.isDirectory p = true
  · rw [if_pos h]
    constructor
    · intro heq
      cases heq
      exact ⟨rfl, h⟩
    · rintro ⟨rfl, -⟩
      rfl
  · rw [if_neg h]
    constructor
    · split <;> exact fun heq => nomatch heq
    · rintro ⟨rfl, hplace⟩
      exact absurd hplace h

/-- A file can be written where there is a directory; it is put at the end of the files. -/
theorem addFile_eq_ok_iff {w after : Workspace} {directory file : Path} {start ending : String}
    {content : List UInt8} : w.addFile directory start ending content = .ok (file, after) ↔
      ∃ place, w.LeadsTo directory place ∧
        file = ⟨place.root, place.parts ++ [w.freshName start ending]⟩ ∧
        after = { w with files := w.files ++ [(file, content)] } := by
  unfold addFile
  by_cases hnull : directory.hasNull = true
  · rw [if_pos hnull]
    constructor
    · exact fun h => nomatch h
    · rintro ⟨_, ⟨named, -, -⟩, -⟩
      rw [hnull] at named
      cases named
  · rw [if_neg hnull]
    constructor
    · intro h
      obtain ⟨followed, hfollow, h⟩ := bind_eq_ok.1 h
      obtain ⟨place, hplace, h⟩ := bind_eq_ok.1 h
      obtain ⟨rfl, hdirectory⟩ := enter_eq_ok_iff.1 hplace
      cases h
      exact ⟨followed, ⟨by simpa using hnull, hfollow, hdirectory⟩, rfl, rfl⟩
    · rintro ⟨place, ⟨-, hfollow, hdirectory⟩, rfl, rfl⟩
      rw [hfollow]
      show (w.enter place >>= _) = _
      rw [enter_eq_ok_iff.2 ⟨rfl, hdirectory⟩]
      rfl

/-! ## A name that is not in use -/

theorem length_name_le_longestName {w : Workspace} {e : Path × List UInt8} (he : e ∈ w.files) :
    e.1.name.length ≤ w.longestName := by
  rw [longestName, List.foldl_eq_foldr]
  exact List.le_max_of_le' 0 (List.mem_map_of_mem he) (Nat.le_refl _)

theorem longestName_lt_length_freshName (w : Workspace) (start ending : String) :
    w.longestName < (w.freshName start ending).length := by
  have hmark : (String.ofList (List.replicate (w.longestName + 1) 'x')).length =
      w.longestName + 1 := by
    rw [String.length_ofList, List.length_replicate]
  rw [freshName, String.length_append, String.length_append, hmark]
  omega

/-- **No file has the new name**, in whatever directory. -/
theorem ne_of_mem_files {w : Workspace} {e : Path × List UInt8} (he : e ∈ w.files)
    (start ending : String) (root : PathRoot) (parts : List String) :
    e.1 ≠ ⟨root, parts ++ [w.freshName start ending]⟩ := by
  intro heq
  have hshort := length_name_le_longestName he
  have hlong := w.longestName_lt_length_freshName start ending
  have hname : e.1.name = w.freshName start ending := by
    rw [heq, Path.name, List.getLast?_concat]
    rfl
  rw [hname] at hshort
  omega

section NewFile

variable {w after : Workspace} {directory file : Path} {start ending : String}
  {content : List UInt8}

theorem ne_of_addFile (h : w.addFile directory start ending content = .ok (file, after))
    {e : Path × List UInt8} (he : e ∈ w.files) : e.1 ≠ file := by
  obtain ⟨place, -, rfl, -⟩ := addFile_eq_ok_iff.1 h
  exact ne_of_mem_files he start ending place.root place.parts

/-- The new file is in the directory that the path leads to. -/
theorem leadsTo_parent_of_addFile
    (h : w.addFile directory start ending content = .ok (file, after)) :
    w.LeadsTo directory file.parent := by
  obtain ⟨place, hplace, rfl, -⟩ := addFile_eq_ok_iff.1 h
  rw [Path.parent, List.dropLast_concat]
  exact hplace

/-- **Removing the new file** leaves the workspace as it was before. -/
theorem removeFile_addFile (h : w.addFile directory start ending content = .ok (file, after)) :
    after.removeFile file = w := by
  have kept : w.files.filter (fun e => e.1 ≠ file) = w.files :=
    List.filter_eq_self.2 fun e he => by simpa using ne_of_addFile h he
  obtain ⟨-, -, -, rfl⟩ := addFile_eq_ok_iff.1 h
  rw [removeFile, List.filter_append, kept]
  simp

/-- The new file was not there before. -/
theorem contentAt?_eq_none_of_addFile
    (h : w.addFile directory start ending content = .ok (file, after)) :
    w.contentAt? file = none := by
  have absent : w.files.find? (fun e => e.1 = file) = none :=
    List.find?_eq_none.2 fun e he => by simpa using ne_of_addFile h he
  rw [contentAt?, absent]
  rfl

/-- The new file holds its content. -/
theorem contentAt?_addFile (h : w.addFile directory start ending content = .ok (file, after)) :
    after.contentAt? file = some content := by
  have absent := contentAt?_eq_none_of_addFile h
  obtain ⟨-, -, -, rfl⟩ := addFile_eq_ok_iff.1 h
  rw [contentAt?, Option.map_eq_none_iff] at absent
  rw [contentAt?, List.find?_append, absent]
  simp

/-- Every other file is as it was. -/
theorem contentAt?_addFile_of_ne
    (h : w.addFile directory start ending content = .ok (file, after)) {p : Path} (hp : p ≠ file) :
    after.contentAt? p = w.contentAt? p := by
  obtain ⟨-, -, -, rfl⟩ := addFile_eq_ok_iff.1 h
  rw [contentAt?, contentAt?, List.find?_append]
  simp [Ne.symm hp]

end NewFile

end LayeredLint.Workspace
