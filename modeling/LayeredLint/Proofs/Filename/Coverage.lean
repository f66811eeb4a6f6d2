import LayeredLint.Proofs.Path.Pieces
import LayeredLint.Sanitizer

/-!
# Which names the sanitizer fragment covers

The linter skips a file whose name no pattern matches. Names are accepted in any letter case and
with separators behind them; the patterns of the sanitizer fragment are literal.

- `LiteralEndings`: how the linter matches these patterns.
- `Filename.covers`: one of the patterns matches.
- `covers_iff_suffix`: the names that are covered.
- `covers_accepted_iff`: **an accepted name is covered exactly when its extension is in lower case and
  nothing stands behind it**.
- `accepted_not_covered`: a name that is accepted and not covered.
-/

namespace LayeredLint

namespace Filename

/-! ## Extensions -/

/-- An extension is a dot and something behind it, in lower case, without separators. -/
structure PlainExtension (extension : String) : Prop where
  dot : '.' :: extension.toList.tail = extension.toList
  rest : extension.toList.tail ≠ []
  lastDot : '.' ∉ extension.toList.tail
  slash : '/' ∉ extension.toList
  backslash : '\\' ∉ extension.toList
  lower : Text.lowerText extension = extension

theorem plainExtension {extension : String} (h : extension ∈ extensions) :
    PlainExtension extension := by
  have hall : ∀ extension ∈ extensions, '.' :: extension.toList.tail = extension.toList ∧
      extension.toList.tail ≠ [] ∧ '.' ∉ extension.toList.tail ∧ '/' ∉ extension.toList ∧
      '\\' ∉ extension.toList ∧ Text.lowerText extension = extension := by decide
  obtain ⟨dot, rest, lastDot, slash, backslash, lower⟩ := hall extension h
  exact ⟨dot, rest, lastDot, slash, backslash, lower⟩

theorem PlainExtension.two_le_length {extension : String} (plain : PlainExtension extension) :
    2 ≤ extension.toList.length := by
  have hrest := List.length_pos_iff.2 plain.rest
  rw [← plain.dot, List.length_cons]
  omega

theorem accepted_iff {filename : String} :
    accepted filename = true ↔ extensionOf filename ∈ extensions :=
  List.contains_iff_mem

/-! ## Slashes -/

theorem eq_of_map_normalSlash {cs ending : List Char} (h : cs.map normalSlash = ending)
    (hslash : '/' ∉ ending) : cs = ending := by
  have hsame : ∀ c ∈ cs, normalSlash c = c := by
    intro c hc
    have hmem : normalSlash c ∈ ending := h ▸ List.mem_map_of_mem hc
    by_cases hback : c = '\\'
    · rw [normalSlash, if_pos hback] at hmem
      exact absurd hmem hslash
    · rw [normalSlash, if_neg hback]
  rw [← h, List.map_congr_left hsame, List.map_id']

/-- A text ends in something without separators exactly when it does with slashes only. -/
theorem suffix_slashed_iff {filename : String} {ending : List Char} (hslash : '/' ∉ ending)
    (hback : '\\' ∉ ending) : ending <:+ slashed filename ↔ ending <:+ filename.toList := by
  constructor
  · rintro ⟨before, h⟩
    obtain ⟨cs, tail, hcs, -, htail⟩ := List.map_eq_append_iff.1 h.symm
    rw [hcs, ← eq_of_map_normalSlash htail hslash]
    exact List.suffix_append cs tail
  · intro h
    have hsame : ∀ c ∈ ending, normalSlash c = c := by
      intro c hc
      have hc' : c ≠ '\\' := fun heq => hback (heq ▸ hc)
      rw [normalSlash, if_neg hc']
    have hmap : ending.map normalSlash = ending := by
      rw [List.map_congr_left hsame, List.map_id']
    rw [← hmap]
    exact h.map normalSlash

/-! ## Coverage -/

/-- What is relied on in the linter: a pattern `**/*` with a known extension behind it matches the
paths whose last component ends with the extension, in this letter case. -/
def LiteralEndings (glob : String → String → Bool) : Prop :=
  ∀ extension ∈ extensions, ∀ path : String,
    glob ("**/*" ++ extension) path = true ↔
      extension.toList <:+ Path.lastPiece '/' path.toList

/-- A pattern of the sanitizer fragment matches the name. -/
def covers (glob : String → String → Bool) (filename : String) : Bool :=
  Sanitizer.files.any fun pattern => glob pattern filename

/-- A linter that matches exactly so. -/
def endingGlob (pattern path : String) : Bool :=
  "**/*".toList.isPrefixOf pattern.toList &&
    (pattern.toList.drop 4).isSuffixOf (Path.lastPiece '/' path.toList)

theorem endingGlob_literal : LiteralEndings endingGlob := by
  intro extension _ path
  have htext : ("**/*" ++ extension).toList = ['*', '*', '/', '*'] ++ extension.toList :=
    String.toList_append
  rw [endingGlob, htext, Bool.and_eq_true, List.isSuffixOf_iff_suffix]
  constructor
  · intro h
    exact h.2
  · intro h
    exact ⟨rfl, h⟩

variable {glob : String → String → Bool}

/-- The names that end with a known extension are covered, and no others. -/
theorem covers_iff_suffix (literal : LiteralEndings glob) {filename : String} :
    covers glob filename = true ↔ ∃ extension ∈ extensions, extension.toList <:+ filename.toList := by
  rw [covers, Sanitizer.files, List.any_map, List.any_eq_true]
  refine exists_congr fun extension => and_congr_right fun hext => ?_
  rw [Function.comp_apply, literal extension hext,
    Path.suffix_lastPiece_iff (plainExtension hext).slash]

/-- A name that ends with an extension does so without its backslashes, in its last piece. -/
theorem suffix_lastPiece_slashed {filename extension : String} (plain : PlainExtension extension) :
    extension.toList <:+ Path.lastPiece '/' (slashed filename) ↔
      extension.toList <:+ filename.toList := by
  rw [Path.suffix_lastPiece_iff plain.slash, suffix_slashed_iff plain.slash plain.backslash]

/-- A last piece that ends with an extension is the name of the path: it is too long to be left out
as empty or as a single dot. -/
theorem name_eq_of_ending {filename extension : String} (plain : PlainExtension extension)
    (hpiece : extension.toList <:+ Path.lastPiece '/' (slashed filename)) :
    (path filename).name = String.ofList (Path.lastPiece '/' (slashed filename)) := by
  have hlong := plain.two_le_length.trans hpiece.length_le
  refine Path.name_eq_lastPiece ?_ ?_
  · intro hempty
    rw [hempty] at hlong
    exact absurd hlong (by decide)
  · intro hdot
    rw [hdot] at hlong
    exact absurd hlong (by decide)

/-- An accepted name that ends with an extension has that extension. -/
theorem suffix_eq_of_ending {filename extension : String} (haccepted : accepted filename = true)
    (plain : PlainExtension extension)
    (hpiece : extension.toList <:+ Path.lastPiece '/' (slashed filename)) :
    (path filename).suffix = extension := by
  have hname := name_eq_of_ending plain hpiece
  obtain ⟨stem, hstem⟩ := hpiece
  rw [← plain.dot] at hstem
  have hsuffix : (path filename).suffix = String.ofList
      (if extension.toList.tail = [] ∨ stem = [] then [] else '.' :: extension.toList.tail) := by
    rw [Path.suffix, hname, ← hstem, String.toList_ofList, Path.nameSuffix_append plain.lastDot]
  by_cases hnil : stem = []
  · -- A name that is all extension has none, so it would not be accepted.
    rw [if_pos (.inr hnil)] at hsuffix
    rw [accepted_iff, extensionOf, hsuffix] at haccepted
    exact absurd haccepted (by decide)
  · rw [if_neg (fun h => h.elim plain.rest hnil), plain.dot, String.ofList_toList] at hsuffix
    exact hsuffix

/-- **Which accepted names are covered**: those whose extension is written in lower case, and whose
last component, read with slashes only, is neither empty nor a single dot, so that nothing stands
behind the extension. -/
theorem covers_accepted_iff (literal : LiteralEndings glob) {filename name : String}
    (h : checkFilename filename = .ok name) :
    covers glob filename = true ↔
      Text.lowerText (path filename).suffix = (path filename).suffix ∧
        (path filename).name = String.ofList (Path.lastPiece '/' (slashed filename)) := by
  have haccepted := (checkFilename_eq_ok_iff.1 h).1
  rw [covers_iff_suffix literal]
  constructor
  · rintro ⟨extension, hext, hending⟩
    have plain := plainExtension hext
    have hpiece := (suffix_lastPiece_slashed plain).2 hending
    rw [suffix_eq_of_ending haccepted plain hpiece]
    exact ⟨plain.lower, name_eq_of_ending plain hpiece⟩
  · rintro ⟨hlower, hname⟩
    have hext : (path filename).suffix ∈ extensions := by
      rw [← hlower]
      exact accepted_iff.1 haccepted
    have plain := plainExtension hext
    refine ⟨_, hext, (suffix_lastPiece_slashed plain).1 ?_⟩
    have hend := Path.nameSuffix_suffix (path filename).name.toList
    rw [Path.suffix, String.toList_ofList]
    rwa [hname, String.toList_ofList] at hend ⊢

theorem covers_accepted_plain :
    LiteralEndings endingGlob ∧ checkFilename "src\\a.b/c.ts" = .ok "src\\a.b/c.ts" ∧
      covers endingGlob "src\\a.b/c.ts" = true := by
  have haccepted : checkFilename "src\\a.b/c.ts" = .ok "src\\a.b/c.ts" :=
    checkFilename_eq_ok_iff.2 ⟨by decide, rfl⟩
  refine ⟨endingGlob_literal, haccepted, ?_⟩
  exact (covers_accepted_iff endingGlob_literal haccepted).2 (by decide)

/-- A name in capitals is accepted, and so is one with a slash behind it; neither is covered. -/
theorem accepted_not_covered :
    LiteralEndings endingGlob ∧
      (checkFilename "A.TS" = .ok "A.TS" ∧ covers endingGlob "A.TS" = false) ∧
      (checkFilename "a.ts/" = .ok "a.ts/" ∧ covers endingGlob "a.ts/" = false) :=
  ⟨endingGlob_literal, ⟨checkFilename_eq_ok_iff.2 ⟨by decide, rfl⟩, by decide⟩,
    checkFilename_eq_ok_iff.2 ⟨by decide, rfl⟩, by decide⟩

end Filename

end LayeredLint
