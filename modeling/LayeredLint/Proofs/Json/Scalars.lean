import LayeredLint.Json.Printer
import LayeredLint.Json.Reader
import LayeredLint.Proofs.Except
import Mathlib.Data.List.Chain
import Mathlib.Tactic.IntervalCases

/-!
# Texts and integers, printed and read

What is printed for a text or an integer is read back, and the reading stops where it ends. Of a
broken text this holds where no first half of a surrogate pair stands in front of a second one: two
such halves are read as the character that they make up.

- `readUnicode_unicodeEscape`: an escape of a character, with one unit or two.
- `Unpaired`: no two halves make up a character.
- `readString_points`, `readString_body`: a text by its code points and by its characters, whatever
  follows its closing quote.
- `Ended`: what may follow a value.
- `takeWhole_toDigits`, `readNumber_intText`: an integer, where something follows that may.
-/

namespace LayeredLint.Json

/-! ## Escapes -/

theorem hexNumber?_hex {n : Nat} (h : n < 0x10000) : Text.hexNumber? (Text.hex 4 n) = some n := by
  have hdigit : ∀ m, Text.hexValue? (Text.hexDigit (m % 16)) = some (m % 16) :=
    fun m => Text.hexValue?_hexDigit (Nat.mod_lt m (by omega))
  simp only [Text.hex, List.nil_append, List.cons_append, Text.hexNumber?, List.foldlM_cons,
    List.foldlM_nil, hdigit, Option.map_some, Option.bind_eq_bind, Option.bind_some]
  refine congrArg some ?_
  omega

/-- A unit is read where something follows its four digits. -/
theorem readUnit?_hex {n : Nat} (h : n < 0x10000) {rest : List Char} (hrest : rest ≠ []) :
    readUnit? (Text.hex 4 n ++ rest) = some (n, rest) := by
  obtain ⟨e, rest, rfl⟩ := List.exists_cons_of_ne_nil hrest
  have hfour := hexNumber?_hex h
  simp only [Text.hex, List.nil_append, List.cons_append] at hfour ⊢
  rw [readUnit?, hfour]
  rfl

/-- A unit that is no first half of a pair is read on its own. -/
theorem readUnicode_of_unit {cs rest : List Char} {n : Nat} (hn : readUnit? cs = some (n, rest))
    (hhigh : isHighSurrogate n = false) : readUnicode cs = .ok (n, rest) := by
  unfold readUnicode
  rw [hn]
  simp only [hhigh]

/-- Two units that make up a pair are read as one character. -/
theorem readUnicode_of_pair {cs next rest : List Char} {high low : Nat}
    (hfirst : readUnit? cs = some (high, '\\' :: 'u' :: next)) (hhigh : isHighSurrogate high = true)
    (hsecond : readUnit? next = some (low, rest)) (hlow : isLowSurrogate low = true) :
    readUnicode cs = .ok (joinSurrogates high low, rest) := by
  unfold readUnicode
  rw [hfirst]
  simp only [hhigh, hsecond]
  rw [if_pos hlow]

/-- The escape of a character is read as the character, its two units as one where it has two. -/
theorem readUnicode_unicodeEscape (c : Char) {rest : List Char} (hrest : rest ≠ []) :
    ∃ digits, unicodeEscape c.toNat ++ rest = '\\' :: 'u' :: digits ∧
      readUnicode digits = .ok (c.toNat, rest) := by
  have hvalid : c.toNat < 0xD800 ∨ 0xDFFF < c.toNat ∧ c.toNat < 0x110000 := c.valid
  unfold unicodeEscape
  by_cases hsmall : c.toNat < 0x10000
  · rw [if_pos hsmall]
    refine ⟨Text.hex 4 c.toNat ++ rest, rfl, ?_⟩
    -- a character is no half of a pair
    have hhigh : isHighSurrogate c.toNat = false := by
      simp only [isHighSurrogate, Bool.and_eq_false_iff, decide_eq_false_iff_not]
      omega
    exact readUnicode_of_unit (readUnit?_hex hsmall hrest) hhigh
  · rw [if_neg hsmall]
    obtain ⟨high, hdef⟩ : ∃ high, high = 0xD800 + (c.toNat - 0x10000) / 0x400 := ⟨_, rfl⟩
    obtain ⟨low, hdef'⟩ : ∃ low, low = 0xDC00 + (c.toNat - 0x10000) % 0x400 := ⟨_, rfl⟩
    rw [← hdef, ← hdef']
    refine ⟨Text.hex 4 high ++ ('\\' :: 'u' :: (Text.hex 4 low ++ rest)), ?_, ?_⟩
    · simp only [unitEscape, List.cons_append, List.append_assoc]
    · have hhigh : isHighSurrogate high = true := by
        simp only [isHighSurrogate, Bool.and_eq_true, decide_eq_true_eq]
        omega
      have hlow : isLowSurrogate low = true := by
        simp only [isLowSurrogate, Bool.and_eq_true, decide_eq_true_eq]
        omega
      have hjoin : joinSurrogates high low = c.toNat := by
        unfold joinSurrogates
        omega
      have hfirst := readUnit?_hex (show high < 0x10000 by omega)
        (List.cons_ne_nil '\\' ('u' :: (Text.hex 4 low ++ rest)))
      have hsecond := readUnit?_hex (show low < 0x10000 by omega) hrest
      rw [readUnicode_of_pair hfirst hhigh hsecond hlow, hjoin]

/-! ## Texts -/

/-- What is written for a character: a short escape, the character itself, or the escapes of its
units. -/
theorem escapeChar_cases (c : Char) :
    (∃ e, shortEscape? e = some c ∧ escapeChar c = ['\\', e]) ∨
      (c ≠ '"' ∧ c ≠ '\\' ∧ (0x20 ≤ c.toNat ∧ c.toNat ≤ 0x7E) ∧ escapeChar c = [c]) ∨
      escapeChar c = unicodeEscape c.toNat := by
  unfold escapeChar
  split
  · next h => exact .inl ⟨'"', congrArg some h.symm, rfl⟩
  next hquote =>
  split
  · next h => exact .inl ⟨'\\', congrArg some h.symm, rfl⟩
  next hslash =>
  split
  · next h => exact .inl ⟨'n', congrArg some h.symm, rfl⟩
  split
  · next h => exact .inl ⟨'r', congrArg some h.symm, rfl⟩
  split
  · next h => exact .inl ⟨'t', congrArg some h.symm, rfl⟩
  split
  · next h => exact .inl ⟨'f', congrArg some h.symm, rfl⟩
  split
  · next h => exact .inl ⟨'b', congrArg some h.symm, rfl⟩
  split
  · next hplain => exact .inr (.inl ⟨hquote, hslash, hplain, rfl⟩)
  · exact .inr (.inr rfl)

theorem ne_of_shortEscape? {e c : Char} (h : shortEscape? e = some c) : e ≠ 'u' := by
  rintro rfl
  cases h

/-- A character is read from what is written for it. -/
theorem readPoints_escapeChar (opening : List Char) (fuel : Nat) (c : Char) {rest : List Char}
    (hrest : rest ≠ []) :
    readPoints opening (fuel + 1) (escapeChar c ++ rest) =
      (do
        let (points, after) ← readPoints opening fuel rest
        return (c.toNat :: points, after)) := by
  rcases escapeChar_cases c with ⟨e, hshort, hc⟩ | ⟨hquote, hslash, hplain, hc⟩ | hc
  · rw [hc, List.cons_append, List.singleton_append]
    conv_lhs => unfold readPoints
    rw [if_neg (by decide), if_pos rfl]
    simp only [if_neg (ne_of_shortEscape? hshort), hshort]
  · rw [hc, List.singleton_append]
    conv_lhs => unfold readPoints
    rw [if_neg hquote, if_neg hslash, if_neg (show ¬c.toNat ≤ 0x1F by omega)]
  · obtain ⟨digits, hescape, hread⟩ := readUnicode_unicodeEscape c hrest
    rw [hc, hescape]
    conv_lhs => unfold readPoints
    rw [if_neg (by decide), if_pos rfl]
    simp only [if_true, hread]
    rfl

/-! ### Halves of surrogate pairs -/

/-- A code point that is no character is half of a surrogate pair. -/
theorem surrogate_of_not_valid {n : Nat} (hn : n < 0x110000) (h : ¬n.isValidChar) :
    0xD800 ≤ n ∧ n < 0xE000 := by
  simp only [Nat.isValidChar, not_or, not_and] at h
  omega

/-- No escape of a second half comes next. -/
def NoLow (rest : List Char) : Prop :=
  ∀ digits, rest = '\\' :: 'u' :: digits →
    ∃ unit more, readUnit? digits = some (unit, more) ∧ isLowSurrogate unit = false

theorem noLow_unitEscape {n : Nat} (hn : n < 0x10000) (hlow : isLowSurrogate n = false)
    {rest : List Char} (hrest : rest ≠ []) : NoLow (unitEscape n ++ rest) := by
  intro digits h
  injection h with _ h
  injection h with _ h
  exact ⟨n, rest, h ▸ readUnit?_hex hn hrest, hlow⟩

/-- What is written for a character is no second half. -/
theorem noLow_escapeChar (c : Char) {rest : List Char} (hrest : rest ≠ []) :
    NoLow (escapeChar c ++ rest) := by
  have hvalid : c.toNat < 0xD800 ∨ 0xDFFF < c.toNat ∧ c.toNat < 0x110000 := c.valid
  have hunit : ∀ {n : Nat}, n < 0xDC00 ∨ 0xDFFF < n → isLowSurrogate n = false := by
    intro n hn
    simp only [isLowSurrogate, Bool.and_eq_false_iff, decide_eq_false_iff_not]
    omega
  rcases escapeChar_cases c with ⟨e, hshort, hc⟩ | ⟨-, hslash, -, hc⟩ | hc
  · rw [hc]
    rintro digits ⟨⟩
    exact absurd rfl (ne_of_shortEscape? hshort)
  · rw [hc]
    rintro digits ⟨⟩
    exact absurd rfl hslash
  · rw [hc, unicodeEscape]
    split
    · next hsmall => exact noLow_unitEscape hsmall (hunit (by omega)) hrest
    · -- the first unit of a pair is a first half
      rw [List.append_assoc]
      exact noLow_unitEscape (by omega) (hunit (by omega)) (by simp [unitEscape])

theorem noLow_escapePoint {n : Nat} (hn : n < 0x110000) (hlow : isLowSurrogate n = false)
    {rest : List Char} (hrest : rest ≠ []) : NoLow (escapePoint n ++ rest) := by
  unfold escapePoint
  split
  · exact noLow_escapeChar _ hrest
  · next hvalid =>
    have hhalf := surrogate_of_not_valid hn hvalid
    exact noLow_unitEscape (by omega) hlow hrest

/-- A first half is read on its own where no second half comes next. -/
theorem readUnicode_of_high {cs rest : List Char} {n : Nat} (hn : readUnit? cs = some (n, rest))
    (hhigh : isHighSurrogate n = true) (hrest : NoLow rest) : readUnicode cs = .ok (n, rest) := by
  unfold readUnicode
  rw [hn]
  simp only [hhigh]
  split
  · next digits _ =>
    obtain ⟨unit, more, hunit, hlow⟩ := hrest digits rfl
    rw [hunit]
    simp only [hlow, Bool.false_eq_true, if_false]
  · rfl

/-! ### Code points -/

/-- A code point is read from what is written for it, where a first half is not followed by a
second. -/
theorem readPoints_escapePoint (opening : List Char) (fuel : Nat) {n : Nat} (hn : n < 0x110000)
    {rest : List Char} (hrest : rest ≠ []) (hnext : isHighSurrogate n = true → NoLow rest) :
    readPoints opening (fuel + 1) (escapePoint n ++ rest) =
      (do
        let (points, after) ← readPoints opening fuel rest
        return (n :: points, after)) := by
  unfold escapePoint
  split
  · next hvalid =>
    have hc : (Char.ofNat n).toNat = n := by
      rw [Char.ofNat, dif_pos hvalid]
      rfl
    rw [readPoints_escapeChar opening fuel _ hrest, hc]
  · next hvalid =>
    have hhalf := surrogate_of_not_valid hn hvalid
    have hunit := readUnit?_hex (show n < 0x10000 by omega) hrest
    have hread : readUnicode (Text.hex 4 n ++ rest) = .ok (n, rest) := by
      cases hhigh : isHighSurrogate n with
      | false => exact readUnicode_of_unit hunit hhigh
      | true => exact readUnicode_of_high hunit hhigh (hnext hhigh)
    rw [unitEscape, List.cons_append, List.cons_append]
    conv_lhs => unfold readPoints
    rw [if_neg (by decide), if_pos rfl]
    simp only [if_true, hread]
    rfl

/-- No first half of a surrogate pair stands directly in front of a second half. -/
def Unpaired (points : List Nat) : Prop :=
  points.IsChain fun high low => ¬(isHighSurrogate high = true ∧ isLowSurrogate low = true)

instance (points : List Nat) : Decidable (Unpaired points) :=
  inferInstanceAs (Decidable (points.IsChain fun high low =>
    ¬(isHighSurrogate high = true ∧ isLowSurrogate low = true)))

/-- Code points are read up to the closing quote. -/
theorem readPoints_body (opening : List Char) {points : List Nat} (rest : List Char) {fuel : Nat}
    (hbound : ∀ n ∈ points, n < 0x110000) (hunpaired : Unpaired points)
    (hfuel : points.length < fuel) :
    readPoints opening fuel (points.flatMap escapePoint ++ '"' :: rest) = .ok (points, rest) := by
  induction points generalizing fuel with
  | nil =>
    obtain ⟨fuel, rfl⟩ := Nat.exists_eq_succ_of_ne_zero (Nat.ne_of_gt hfuel)
    rfl
  | cons n points ih =>
    rw [List.length_cons] at hfuel
    obtain ⟨fuel, rfl⟩ := Nat.exists_eq_succ_of_ne_zero (Nat.ne_of_gt (Nat.zero_lt_of_lt hfuel))
    rw [List.forall_mem_cons] at hbound
    have hne : ∀ points : List Nat, points.flatMap escapePoint ++ '"' :: rest ≠ [] := by simp
    have hnext : isHighSurrogate n = true → NoLow (points.flatMap escapePoint ++ '"' :: rest) := by
      intro hhigh
      cases points with
      | nil => rintro _ ⟨⟩
      | cons m points =>
        have hlow := (List.isChain_cons_cons.1 hunpaired).1
        rw [List.flatMap_cons, List.append_assoc]
        exact noLow_escapePoint (hbound.2 m List.mem_cons_self)
          (by simpa [hhigh] using hlow) (hne points)
    rw [List.flatMap_cons, List.append_assoc,
      readPoints_escapePoint opening fuel hbound.1 (hne points) hnext,
      ih hbound.2 (List.isChain_of_isChain_cons hunpaired) (Nat.lt_of_succ_lt_succ hfuel)]
    rfl

theorem one_le_length_escapePoint (n : Nat) : 1 ≤ (escapePoint n).length := by
  rw [Nat.one_le_iff_ne_zero, ne_eq, List.length_eq_zero_iff, escapePoint]
  split
  · rcases escapeChar_cases (Char.ofNat n) with ⟨e, -, hc⟩ | ⟨-, -, -, hc⟩ | hc
    · rw [hc]; exact List.cons_ne_nil _ _
    · rw [hc]; exact List.cons_ne_nil _ _
    · rw [hc, unicodeEscape]
      split <;> exact List.cons_ne_nil _ _
  · exact List.cons_ne_nil _ _

theorem length_le_length_body (points : List Nat) :
    points.length ≤ (points.flatMap escapePoint).length := by
  induction points with
  | nil => exact Nat.le_refl 0
  | cons n points ih =>
    have hn := one_le_length_escapePoint n
    rw [List.flatMap_cons, List.length_append, List.length_cons]
    omega

/-- A text is read back from its code points, given what follows its opening quote. -/
theorem readString_points {points : List Nat} (hbound : ∀ n ∈ points, n < 0x110000)
    (hunpaired : Unpaired points) (rest : List Char) :
    readString (points.flatMap escapePoint ++ '"' :: rest) = .ok (Value.ofPoints points, rest) := by
  have hlength := length_le_length_body points
  have hfuel : points.length < (points.flatMap escapePoint ++ '"' :: rest).length + 1 := by
    rw [List.length_append, List.length_cons]
    omega
  rw [readString, readPoints_body _ rest hbound hunpaired hfuel]
  rfl

/-! ### Characters -/

theorem ofPoints_toNat (s : String) : Value.ofPoints (s.toList.map Char.toNat) = .str s := by
  have hvalid : (s.toList.map Char.toNat).all (fun n => decide n.isValidChar) = true := by
    rw [List.all_map, List.all_eq_true]
    exact fun c _ => decide_eq_true c.valid
  rw [Value.ofPoints, if_pos hvalid, List.map_map]
  have hchars : Char.ofNat ∘ Char.toNat = id := funext Char.ofNat_toNat
  rw [hchars, List.map_id, String.ofList_toList]

theorem escapePoint_toNat (c : Char) : escapePoint c.toNat = escapeChar c := by
  rw [escapePoint, if_pos (show c.toNat.isValidChar from c.valid), Char.ofNat_toNat]

/-- A text is written by its code points. -/
theorem stringText_eq_pointsText (s : String) :
    stringText s = pointsText (s.toList.map Char.toNat) := by
  rw [stringText, pointsText, List.flatMap_map]
  simp only [escapePoint_toNat]

/-- No character is half of a pair. -/
theorem unpaired_toNat (cs : List Char) : Unpaired (cs.map Char.toNat) := by
  refine (List.isChain_map _).2 (List.Pairwise.isChain (List.pairwise_of_forall fun c _ h => ?_))
  have hvalid : c.toNat < 0xD800 ∨ 0xDFFF < c.toNat ∧ c.toNat < 0x110000 := c.valid
  simp only [isHighSurrogate, Bool.and_eq_true, decide_eq_true_eq] at h
  omega

theorem lt_of_mem_toNat {cs : List Char} : ∀ n ∈ cs.map Char.toNat, n < 0x110000 := by
  intro n hn
  obtain ⟨c, -, rfl⟩ := List.mem_map.1 hn
  have hvalid : c.toNat < 0xD800 ∨ 0xDFFF < c.toNat ∧ c.toNat < 0x110000 := c.valid
  omega

/-- A text is read back, given what follows its opening quote. -/
theorem readString_body (s : String) (rest : List Char) :
    readString (s.toList.flatMap escapeChar ++ '"' :: rest) = .ok (.str s, rest) := by
  have hbody := readString_points lt_of_mem_toNat (unpaired_toNat s.toList) rest
  rw [ofPoints_toNat, List.flatMap_map] at hbody
  simpa only [escapePoint_toNat] using hbody

/-! ## Integers -/

/-- What follows a value in a document: nothing, or a character that separates or closes. -/
def Ended (rest : List Char) : Prop :=
  ∀ c ∈ rest.head?, c ∈ [',', ' ', ']', '\x7d']

theorem Ended.not_isDigit {c : Char} {rest : List Char} (h : Ended (c :: rest)) :
    c.isDigit = false := by
  have hc := h c rfl
  revert hc
  simp only [List.mem_cons, List.not_mem_nil, or_false]
  rintro (rfl | rfl | rfl | rfl) <;> rfl

theorem Ended.takeWhile_isDigit {rest : List Char} (h : Ended rest) :
    rest.takeWhile Char.isDigit = [] ∧ rest.dropWhile Char.isDigit = rest := by
  cases rest with
  | nil => exact ⟨rfl, rfl⟩
  | cons c rest => simp [h.not_isDigit]

theorem Ended.takeFraction {rest : List Char} (h : Ended rest) :
    takeFraction rest = ([], rest) := by
  unfold Json.takeFraction
  split
  · next rest =>
    have hpoint := h '.' rfl
    simp at hpoint
  · rfl

theorem Ended.takeExponent {rest : List Char} (h : Ended rest) :
    takeExponent rest = ([], rest) := by
  cases rest with
  | nil => rfl
  | cons c rest =>
    have hc := h c rfl
    have hletter : ¬(c = 'e' ∨ c = 'E') := by
      rintro (rfl | rfl) <;> simp at hc
    simp only [Json.takeExponent, if_neg hletter]

/-- The digits of a number other than zero do not start with a zero. -/
theorem head?_toDigits {n : Nat} (h : n ≠ 0) : (Nat.toDigits 10 n).head? ≠ some '0' := by
  induction n using Nat.strongRecOn with
  | _ n ih =>
    by_cases hsmall : n < 10
    · rw [Nat.toDigits_of_lt_base hsmall]
      interval_cases n <;> first | exact absurd rfl h | decide
    · have hrec := ih (n / 10) (by omega) (by omega)
      rw [Nat.toDigits_of_base_le (by omega) (by omega)]
      cases hdigits : Nat.toDigits 10 (n / 10) with
      | nil => exact absurd hdigits Nat.toDigits_ne_nil
      | cons d ds =>
        rw [hdigits] at hrec
        exact hrec

theorem isDigit_of_mem_toDigits {n : Nat} {c : Char} (h : c ∈ Nat.toDigits 10 n) :
    c.isDigit = true :=
  Nat.isDigit_of_mem_toDigits (by decide) (by decide) h

/-- The digits of a number are its whole part. -/
theorem takeWhole_toDigits (n : Nat) {rest : List Char} (h : Ended rest) :
    takeWhole (Nat.toDigits 10 n ++ rest) = (Nat.toDigits 10 n, rest) := by
  by_cases hn : n = 0
  · rw [hn, Nat.toDigits_zero]
    rfl
  · have hhead := head?_toDigits hn
    have hall : ∀ c ∈ Nat.toDigits 10 n, c.isDigit = true := fun c => isDigit_of_mem_toDigits
    unfold takeWhole
    split
    · next hzero =>
      cases hdigits : Nat.toDigits 10 n with
      | nil => exact absurd hdigits Nat.toDigits_ne_nil
      | cons d ds =>
        rw [hdigits] at hzero hhead
        injection hzero with hd
        exact absurd (congrArg some hd) hhead
    · rw [List.takeWhile_append_of_pos hall, List.dropWhile_append_of_pos hall,
        h.takeWhile_isDigit.1, h.takeWhile_isDigit.2, List.append_nil]

theorem digitsValue_toDigits (n : Nat) : Binary64.digitsValue (Nat.toDigits 10 n) = n := by
  have h : Nat.ofDigitChars 10 (Nat.toDigits 10 n) 0 = n := Nat.ofDigitChars_ten_toDigits
  rwa [Nat.ofDigitChars_eq_foldl] at h

/-- No sign stands before the digits of a number. -/
theorem toDigits_append_ne (n : Nat) (rest body : List Char) :
    Nat.toDigits 10 n ++ rest ≠ '-' :: body := by
  intro h
  obtain ⟨d, ds, hdigits⟩ := List.exists_cons_of_ne_nil (@Nat.toDigits_ne_nil n 10)
  rw [hdigits] at h
  injection h with hd
  have hdigit : d.isDigit = true := isDigit_of_mem_toDigits (hdigits ▸ List.mem_cons_self)
  rw [hd] at hdigit
  exact absurd hdigit (by decide)

/-- An integer is read back, unless it has too many digits. -/
theorem readNumber_intText (digits : Nat) (n : Int) {rest : List Char} (h : Ended rest) :
    readNumber digits (intText n ++ rest) =
      if digits < (Nat.toDigits 10 n.natAbs).length then refuse .longInteger (intText n ++ rest)
      else .ok (.int n, rest) := by
  have hwhole := takeWhole_toDigits n.natAbs h
  have hvalue := digitsValue_toDigits n.natAbs
  unfold intText readNumber
  by_cases hsign : n < 0
  · rw [if_pos hsign]
    simp [hwhole, h.takeFraction, h.takeExponent, hvalue, abs_of_neg hsign]
  · rw [if_neg hsign]
    split
    · next body hcons => exact absurd hcons (toDigits_append_ne n.natAbs rest body)
    · simp [hwhole, h.takeFraction, h.takeExponent, hvalue, abs_of_nonneg (not_lt.1 hsign)]

end LayeredLint.Json
