import LayeredLint.Path
import Mathlib.Data.List.TakeWhile

/-!
# The end of a path

- `splitChars_eq_splitOn`: the pieces of a text are those of the library's split.
- `splitChars_eq_singleton`, `splitChars_append_cons`: the pieces of a text, from its end.
- `lastPiece`: what stands behind the last separator.
- `suffix_lastPiece_iff`: the last piece ends as the text does.
- `name_eq_lastPiece`: the last piece is the name of a path, where it is a component.
- `nameSuffix_append`, `nameSuffix_suffix`: the extension of a name, and where it stands.
-/

namespace LayeredLint.Path

/-! ## Pieces -/

section Pieces

variable {sep : Char}

/-- The pieces are those of the library's split. -/
theorem splitChars_eq_splitOn (sep : Char) (cs : List Char) :
    splitChars sep cs = cs.splitOn sep := by
  induction cs with
  | nil => rfl
  | cons c rest ih =>
    rw [splitChars, ih, List.splitOn_cons_eq_if_modifyHead]
    by_cases hc : c = sep
    · rw [if_pos hc, if_pos (beq_iff_eq.2 hc)]
    · rw [if_neg hc, if_neg (mt beq_iff_eq.1 hc)]
      cases hrest : rest.splitOn sep with
      | nil => exact absurd hrest (List.splitOn_ne_nil sep rest)
      | cons piece pieces => rfl

theorem splitChars_eq_singleton {cs : List Char} (h : sep ∉ cs) : splitChars sep cs = [cs] := by
  rw [splitChars_eq_splitOn, List.splitOn_eq_singleton h]

/-- A piece without a separator is split off at the end. -/
theorem splitChars_append_cons (before : List Char) {last : List Char} (h : sep ∉ last) :
    splitChars sep (before ++ sep :: last) = splitChars sep before ++ [last] := by
  rw [splitChars_eq_splitOn, splitChars_eq_splitOn, List.splitOn_append_cons_self,
    List.splitOn_eq_singleton h]

/-- A text has no separator, or a last one. -/
theorem not_mem_or_eq_append (sep : Char) (cs : List Char) :
    sep ∉ cs ∨ ∃ before last, cs = before ++ sep :: last ∧ sep ∉ last := by
  induction cs with
  | nil => exact .inl List.not_mem_nil
  | cons c rest ih =>
    rcases ih with hrest | ⟨before, last, rfl, hlast⟩
    · by_cases hc : c = sep
      · exact .inr ⟨[], rest, by rw [hc]; rfl, hrest⟩
      · exact .inl fun h => (List.mem_cons.1 h).elim (fun h => hc h.symm) hrest
    · exact .inr ⟨c :: before, last, rfl, hlast⟩

/-- What stands behind the last separator. -/
def lastPiece (sep : Char) (cs : List Char) : List Char :=
  (splitChars sep cs).getLast?.getD []

/-- The last piece is the last one of the pieces. -/
theorem exists_splitChars_eq (sep : Char) (cs : List Char) :
    ∃ pieces, splitChars sep cs = pieces ++ [lastPiece sep cs] := by
  rcases not_mem_or_eq_append sep cs with h | ⟨before, last, rfl, h⟩
  · refine ⟨[], ?_⟩
    rw [lastPiece, splitChars_eq_singleton h]
    rfl
  · refine ⟨splitChars sep before, ?_⟩
    rw [lastPiece, splitChars_append_cons before h, List.getLast?_concat]
    rfl

/-- **The last piece ends as the text does**, as far as no separator is concerned. -/
theorem suffix_lastPiece_iff {cs ending : List Char} (h : sep ∉ ending) :
    ending <:+ lastPiece sep cs ↔ ending <:+ cs := by
  rcases not_mem_or_eq_append sep cs with hcs | ⟨before, last, rfl, hlast⟩
  · rw [lastPiece, splitChars_eq_singleton hcs]
    rfl
  · have hpiece : lastPiece sep (before ++ sep :: last) = last := by
      rw [lastPiece, splitChars_append_cons before hlast, List.getLast?_concat]
      rfl
    rw [hpiece]
    have hrest : sep :: last <:+ before ++ sep :: last := List.suffix_append before _
    -- Two ends of one text are ends of each other, and the one that starts with the separator is
    -- not inside the one without it.
    constructor
    · intro hending
      exact (hending.trans (List.suffix_cons sep last)).trans hrest
    · intro hending
      rcases List.suffix_or_suffix_of_suffix hending hrest with hshort | hlong
      · rcases List.suffix_cons_iff.1 hshort with heq | hin
        · exact absurd (heq ▸ List.mem_cons_self) h
        · exact hin
      · exact absurd (hlong.subset List.mem_cons_self) h

end Pieces

/-! ## Names -/

theorem parts_ofString (cs : List Char) : (ofString (String.ofList cs)).parts = components cs := by
  rw [ofString, String.toList_ofList]

/-- The last piece is the name of the path, unless it is empty or a single dot. -/
theorem name_eq_lastPiece {cs : List Char} (hempty : lastPiece '/' cs ≠ [])
    (hdot : lastPiece '/' cs ≠ ['.']) :
    (ofString (String.ofList cs)).name = String.ofList (lastPiece '/' cs) := by
  obtain ⟨pieces, hpieces⟩ := exists_splitChars_eq '/' cs
  rw [name, parts_ofString, components, hpieces, List.filter_append, List.map_append,
    List.filter_cons_of_pos (by simp [hempty, hdot]), List.filter_nil, List.map_singleton,
    List.getLast?_concat]
  rfl

/-- The extension of a name starts at its last dot. -/
theorem nameSuffix_append {stem extension : List Char} (hdot : '.' ∉ extension) :
    nameSuffix (stem ++ '.' :: extension) =
      if extension = [] ∨ stem = [] then [] else '.' :: extension := by
  have hall : ∀ c ∈ extension.reverse, (decide (c ≠ '.')) = true := by
    intro c hc
    exact decide_eq_true fun h => hdot (h ▸ List.mem_reverse.1 hc)
  have hreverse :
      (stem ++ '.' :: extension).reverse = extension.reverse ++ '.' :: stem.reverse := by
    rw [List.reverse_append, List.reverse_cons, List.append_assoc]
    rfl
  have htake : (extension.reverse ++ '.' :: stem.reverse).takeWhile (· ≠ '.') =
      extension.reverse := by
    rw [List.takeWhile_append_of_pos hall, List.takeWhile_cons_of_neg (by decide), List.append_nil]
  have hdrop : (extension.reverse ++ '.' :: stem.reverse).dropWhile (· ≠ '.') =
      '.' :: stem.reverse := by
    rw [List.dropWhile_append_of_pos hall, List.dropWhile_cons_of_neg (by decide)]
  rw [nameSuffix, hreverse, htake, hdrop, List.reverse_reverse]
  simp

theorem nameSuffix_eq_nil {cs : List Char} (h : '.' ∉ cs) : nameSuffix cs = [] := by
  have hdrop : cs.reverse.dropWhile (· ≠ '.') = [] := by
    rw [List.dropWhile_eq_nil_iff]
    intro c hc
    exact decide_eq_true fun hdot => h (hdot ▸ List.mem_reverse.1 hc)
  rw [nameSuffix, hdrop]
  simp

/-- The extension of a name is its end. -/
theorem nameSuffix_suffix (cs : List Char) : nameSuffix cs <:+ cs := by
  rcases not_mem_or_eq_append '.' cs with h | ⟨stem, extension, rfl, h⟩
  · rw [nameSuffix_eq_nil h]
    exact List.nil_suffix
  · rw [nameSuffix_append h]
    split
    · exact List.nil_suffix
    · exact List.suffix_append stem _

end LayeredLint.Path
