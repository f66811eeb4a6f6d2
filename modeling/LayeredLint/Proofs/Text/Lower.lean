import LayeredLint.Text.Blank
import LayeredLint.Text.Case

/-!
# Words of ASCII in lower case

Severities and extensions are compared by a lower case that knows the capitals of ASCII and one sign
more. That is enough: whatever script a text is written in, it comes to a word of ASCII by the full
lower case exactly when it does by the short one.

- `LowersToAscii`: the characters whose small letter is one of ASCII.
- `smallLetters_of_lowersToAscii`: on these the short lower case is the full one.
- `lowersToAscii_of_lower`, `lowersToAscii_of_smallLetters`: all others leave ASCII in both.
- `lowerCase_eq_iff`: **the two agree on words of ASCII**.
- `map_lower_eq_iff`: where the one sign is out of reach, the short lower case is that of ASCII.
-/

namespace LayeredLint.Text

/-- A character of ASCII, or the Kelvin sign. -/
def LowersToAscii (c : Char) : Prop :=
  c.toNat < 128 ∨ c = '\u212A'

/-! ## One character -/

/-- The table of capitals holds for ASCII what the short rule says. -/
theorem smallLetters_ofNat : ∀ n < 128, smallLetters (Char.ofNat n) = [lower (Char.ofNat n)] := by
  decide +kernel

/-- Two runs of capitals have their small letters in ASCII. Those of all others are characters
beyond it. -/
theorem caseRuns_beyond_ascii : ∀ run ∈ caseRuns,
    run = ⟨0x41, 0x5A, 1, 32⟩ ∨ run = ⟨0x212A, 0x212A, 1, -8383⟩ ∨
      128 ≤ run.first + run.distance ∧
        (run.last + run.distance < 0xD800 ∨
          0xDFFF < run.first + run.distance ∧ run.last + run.distance < 0x110000) := by
  decide +kernel

theorem smallLetters_of_lowersToAscii {c : Char} (h : LowersToAscii c) :
    smallLetters c = [lower c] := by
  rcases h with hascii | rfl
  · have hletters := smallLetters_ofNat c.toNat hascii
    rwa [Char.ofNat_toNat] at hletters
  · decide +kernel

theorem lowersToAscii_of_lower {c : Char} (h : (lower c).toNat < 128) : LowersToAscii c := by
  unfold lower at h
  split at h
  · next hkelvin => exact .inr hkelvin
  · refine .inl ?_
    unfold Char.toLower at h
    split at h
    · next hcapital =>
      have hlast : c.toNat ≤ 'Z'.toNat := hcapital.2
      have hZ : 'Z'.toNat = 90 := rfl
      omega
    · exact h

/-- The small letter of a capital outside ASCII is outside ASCII, but for one sign. -/
theorem lowersToAscii_of_holds {run : CaseRun} (hrun : run ∈ caseRuns) {c : Char}
    (holds : run.holds c = true) (h : (Char.ofNat (c.toNat + run.distance).toNat).toNat < 128) :
    LowersToAscii c := by
  simp only [CaseRun.holds, Bool.and_eq_true, decide_eq_true_eq] at holds
  obtain ⟨⟨hfirst, hlast⟩, -⟩ := holds
  rcases caseRuns_beyond_ascii run hrun with rfl | rfl | ⟨hbeyond, hvalid⟩
  · refine .inl ?_
    dsimp only at hlast
    omega
  · refine .inr (Char.toNat_inj.1 ?_)
    have hkelvin : ('\u212A' : Char).toNat = 0x212A := rfl
    dsimp only at hfirst hlast
    omega
  · have valid : (c.toNat + run.distance).toNat.isValidChar := by
      show _ < 0xD800 ∨ 0xDFFF < _ ∧ _ < 0x110000
      omega
    have hletter : (Char.ofNat (c.toNat + run.distance).toNat).toNat =
        (c.toNat + run.distance).toNat := by
      rw [Char.ofNat, dif_pos valid]
      rfl
    omega

theorem lowersToAscii_of_smallLetters {c : Char} (h : ∀ l ∈ smallLetters c, l.toNat < 128) :
    LowersToAscii c := by
  unfold smallLetters at h
  split at h
  · -- the dotted capital has a mark beside its small letter
    have hmark := h '\u0307' (by simp)
    exact absurd hmark (by decide)
  · split at h
    · next run hfind =>
      have holds : run.holds c = true := by simpa using List.find?_some hfind
      exact lowersToAscii_of_holds (List.mem_of_find?_eq_some hfind) holds (h _ List.mem_cons_self)
    · exact .inl (h c List.mem_cons_self)

/-! ## Texts -/

theorem lowerCaseFrom_eq_map {afterLetter : Bool} {cs : List Char}
    (h : ∀ c ∈ cs, LowersToAscii c) : lowerCaseFrom afterLetter cs = cs.map lower := by
  induction cs generalizing afterLetter with
  | nil => rfl
  | cons c rest ih =>
    rw [List.forall_mem_cons] at h
    have hsigma : c ≠ '\u03A3' := by
      rintro rfl
      rcases h.1 with hascii | hkelvin
      · exact absurd hascii (by decide)
      · exact absurd hkelvin (by decide)
    rw [lowerCaseFrom, ih h.2, smallLetters_of_lowersToAscii h.1]
    simp [hsigma]

theorem lowersToAscii_of_lowerCaseFrom {afterLetter : Bool} {cs : List Char}
    (h : ∀ l ∈ lowerCaseFrom afterLetter cs, l.toNat < 128) : ∀ c ∈ cs, LowersToAscii c := by
  induction cs generalizing afterLetter with
  | nil => exact List.forall_mem_nil _
  | cons c rest ih =>
    rw [lowerCaseFrom, List.forall_mem_append] at h
    refine List.forall_mem_cons.2 ⟨?_, ih h.2⟩
    obtain ⟨hhere, -⟩ := h
    split at hhere
    · exact absurd (hhere '\u03C2' List.mem_cons_self) (by decide)
    · exact lowersToAscii_of_smallLetters hhere

/-- **A text is a word of ASCII in lower case exactly when it is by the short rule.** -/
theorem lowerCase_eq_iff {cs word : List Char} (ascii : ∀ c ∈ word, c.toNat < 128) :
    lowerCase cs = word ↔ cs.map lower = word := by
  constructor
  · rintro rfl
    exact (lowerCaseFrom_eq_map (lowersToAscii_of_lowerCaseFrom ascii)).symm
  · rintro rfl
    refine lowerCaseFrom_eq_map fun c hc => ?_
    exact lowersToAscii_of_lower (ascii _ (List.mem_map_of_mem hc))

/-! ## Letters of ASCII only -/

/-- The small letters of ASCII, decided once: a letter has one, and that is its own. -/
theorem toLower_ofNat : ∀ n < 128,
    (Char.ofNat n).toLower.toLower = (Char.ofNat n).toLower ∧
      ((Char.ofNat n).toLower.isAlpha = false ∨ (Char.ofNat n).isAlpha = false →
        (Char.ofNat n).toLower = Char.ofNat n) := by
  decide +kernel

theorem toLower_of_beyond {c : Char} (h : ¬c.toNat < 128) : c.toLower = c := by
  unfold Char.toLower
  rw [dif_neg]
  rintro ⟨-, hlast⟩
  have hlast' : c.toNat ≤ 'Z'.toNat := hlast
  have hZ : 'Z'.toNat = 90 := rfl
  omega

theorem toList_toLower (s : String) : s.toLower.toList = s.toList.map Char.toLower :=
  String.toList_map

theorem toLower_toLower (c : Char) : c.toLower.toLower = c.toLower := by
  by_cases hascii : c.toNat < 128
  · have hletter := (toLower_ofNat c.toNat hascii).1
    rwa [Char.ofNat_toNat] at hletter
  · rw [toLower_of_beyond hascii, toLower_of_beyond hascii]

/-- What is no letter, before or after, has no other small form. -/
theorem toLower_eq_self {c : Char} (h : c.toLower.isAlpha = false ∨ c.isAlpha = false) :
    c.toLower = c := by
  by_cases hascii : c.toNat < 128
  · have hletter := (toLower_ofNat c.toNat hascii).2
    rw [Char.ofNat_toNat] at hletter
    exact hletter h
  · exact toLower_of_beyond hascii

/-- A character that is no letter is the small form of itself alone. -/
theorem toLower_eq_iff {c d : Char} (h : d.isAlpha = false) : c.toLower = d ↔ c = d := by
  constructor
  · rintro rfl
    exact (toLower_eq_self (.inl h)).symm
  · rintro rfl
    exact toLower_eq_self (.inr h)

/-- A word without the letter k, the only one that a sign beyond ASCII comes to, is reached by the
small letters of ASCII alone. -/
theorem map_lower_eq_iff {cs word : List Char} (hk : 'k' ∉ word) (hsign : '\u212A' ∉ word) :
    cs.map lower = word ↔ cs.map Char.toLower = word := by
  constructor
  · rintro rfl
    refine List.map_congr_left fun c hc => ?_
    have hc' : c ≠ '\u212A' := by
      rintro rfl
      exact hk (List.mem_map_of_mem hc)
    rw [lower, if_neg hc']
  · rintro rfl
    refine List.map_congr_left fun c hc => ?_
    have hc' : c ≠ '\u212A' := by
      rintro rfl
      exact hsign (List.mem_map_of_mem hc)
    rw [lower, if_neg hc']

end LayeredLint.Text
