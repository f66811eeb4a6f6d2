import LayeredLint.Proofs.Json.Refusals
import LayeredLint.Proofs.Toml.Tables
import LayeredLint.Toml.Reader

/-!
# What the reader of settings meets in a text

A document that does not have the form it should is malformed. Two more things keep a document from
being read: an integer with too many digits, and arrays and tables nested too deeply. Both can be
seen in the characters.

- `Toml.LongNumber`: a text holds a number of too many digits.
- `Toml.Limited`: the reasons for which a text is refused, with what there is in the text.
- `Toml.Behind`: what is read, and what follows it in the text.
- `readQuoted_builds`, `readKey_builds`: texts and keys are refused as malformed only.
- `readMoment?_follows`, `readNumber?_follows`, `readers_follow`: dates, numbers, and values with
  their items and entries.
- `read_follows`: **a whole document** has tables of names, and is refused for what is in its text.
-/

namespace LayeredLint.Toml

open Json (openings openings_le_of_suffix isOpening)

/-! ## What a text holds -/

/-- A text holds a number of too many digits, with or without underscores between them. -/
def LongNumber (cs : List Char) : Prop :=
  ∃ run, run <:+: cs ∧ (∀ c ∈ run, c.isDigit = true ∨ c = '_') ∧
    Text.digitLimit < run.countP Char.isDigit

theorem LongNumber.of_suffix {rest cs : List Char} (hs : rest <:+ cs) (h : LongNumber rest) :
    LongNumber cs := by
  obtain ⟨run, hrun, hdigits, hlong⟩ := h
  exact ⟨run, hrun.trans hs.isInfix, hdigits, hlong⟩

/-- The reasons for which a text is refused: an integer is too long only where the text has a number
of so many digits, and the nesting too deep only where it opens so many brackets. A table counts
three and an array two, so that a bracket counts at most three. -/
def Limited (depth : Nat) (cs : List Char) : Fault → Prop
  | .malformed => True
  | .longInteger => LongNumber cs
  | .tooDeep => depth < 3 * openings cs

/-- An answer that is refused for what is in a text. -/
abbrev Follows {α : Type} (depth : Nat) (cs : List Char) (right : α → Prop)
    (x : Except Fault α) : Prop :=
  Meets (Limited depth cs) right x

/-- What is read is right, and what follows it is the end of the text. -/
def Behind {α : Type} (right : α → Prop) (cs : List Char) (p : α × List Char) : Prop :=
  right p.1 ∧ p.2 <:+ cs

section Contracts

variable {α : Type} {depth : Nat} {rest cs : List Char} {right : α → Prop}

theorem follows_malformed : Follows depth cs right (malformed : Except Fault α) :=
  trivial

/-- What is refused as malformed only is refused for nothing in the text. -/
theorem Builds.follows {x : Except Fault α} (h : Builds right x) : Follows depth cs right x :=
  h.imp (fun fault hfault => by subst hfault; trivial) fun _ => id

theorem Behind.of_suffix (hs : rest <:+ cs) {p : α × List Char} (h : Behind right rest p) :
    Behind right cs p :=
  ⟨h.1, h.2.trans hs⟩

theorem Limited.of_suffix (hs : rest <:+ cs) {fault : Fault} (h : Limited depth rest fault) :
    Limited depth cs fault := by
  cases fault with
  | malformed => trivial
  | longInteger => exact LongNumber.of_suffix hs h
  | tooDeep =>
    have hless : depth < 3 * openings rest := h
    have hmore := openings_le_of_suffix hs
    show depth < 3 * openings cs
    omega

/-- What is said about the end of a text holds of the whole text. -/
theorem Follows.of_suffix {x : Except Fault (α × List Char)} (hs : rest <:+ cs)
    (h : Follows depth rest (Behind right rest) x) : Follows depth cs (Behind right cs) x :=
  h.imp (fun _ => Limited.of_suffix hs) fun _ => Behind.of_suffix hs

theorem Builds.of_suffix {x : Except Fault (α × List Char)} (hs : rest <:+ cs)
    (h : Builds (Behind right rest) x) : Builds (Behind right cs) x :=
  h.imp (fun _ => id) fun _ => Behind.of_suffix hs

end Contracts

/-! ## Texts and keys -/

/-- Anything may be read. -/
def Anything {α : Type} : α → Prop := fun _ => True

theorem skipLineSpace_suffix (cs : List Char) : skipLineSpace cs <:+ cs :=
  List.dropWhile_suffix _

/-- What stands behind a mark, after white space. -/
theorem behind_mark {cs rest behind : List Char} {c : Char} (hs : rest <:+ cs)
    (h : skipLineSpace rest = c :: behind) : behind <:+ cs :=
  ((List.suffix_cons c behind).trans (h ▸ skipLineSpace_suffix rest)).trans hs

theorem readCodePoint_builds (width : Nat) (cs : List Char) :
    Builds (Behind Anything cs) (readCodePoint width cs) := by
  unfold readCodePoint
  split
  · split
    · split
      · exact ⟨trivial, List.drop_suffix _ cs⟩
      · exact builds_malformed
    · exact builds_malformed
  · exact builds_malformed

theorem skipLineEnd_builds (cs : List Char) : Builds (· <:+ cs) (skipLineEnd cs) := by
  unfold skipLineEnd
  split
  · exact List.nil_suffix
  · next rest hrest =>
    exact (List.dropWhile_suffix _).trans (behind_mark (List.suffix_refl cs) hrest)
  · exact builds_malformed

theorem readEscape_builds (multiline : Bool) (cs : List Char) :
    Builds (Behind Anything cs) (readEscape multiline cs) := by
  cases cs with
  | nil => exact builds_malformed
  | cons c rest =>
    have hrest : rest <:+ c :: rest := List.suffix_cons c rest
    unfold readEscape
    dsimp only
    split
    · exact (skipLineEnd_builds (c :: rest)).bind fun after hafter => ⟨trivial, hafter⟩
    · split
      · exact (readCodePoint_builds 4 rest).of_suffix hrest
      · split
        · exact (readCodePoint_builds 8 rest).of_suffix hrest
        · split
          · exact ⟨trivial, hrest⟩
          · exact builds_malformed

theorem readBasicChars_builds (multiline : Bool) (fuel : Nat) (cs : List Char) :
    Builds (Behind Anything cs) (readBasicChars multiline fuel cs) := by
  induction fuel generalizing cs with
  | zero => exact builds_malformed
  | succ fuel ih =>
    cases cs with
    | nil => exact builds_malformed
    | cons c rest =>
      have hrest : rest <:+ c :: rest := List.suffix_cons c rest
      unfold readBasicChars
      split
      · exact ⟨trivial, hrest⟩
      · split
        · exact ⟨trivial, (List.drop_suffix 2 rest).trans hrest⟩
        · split
          · refine (readEscape_builds multiline rest).bind fun (decoded, behind) hbehind => ?_
            exact (ih behind).bind fun (cs', after) hafter =>
              ⟨trivial, (hafter.2.trans hbehind.2).trans hrest⟩
          · split
            · exact builds_malformed
            · exact (ih rest).bind fun (cs', after) hafter => ⟨trivial, hafter.2.trans hrest⟩

theorem readLiteralChars_builds (multiline : Bool) (cs : List Char) :
    Builds (Behind Anything cs) (readLiteralChars multiline cs) := by
  induction cs with
  | nil => exact builds_malformed
  | cons c rest ih =>
    have hrest : rest <:+ c :: rest := List.suffix_cons c rest
    unfold readLiteralChars
    split
    · exact ⟨trivial, hrest⟩
    · split
      · exact ⟨trivial, (List.drop_suffix 2 rest).trans hrest⟩
      · split
        · exact builds_malformed
        · exact ih.bind fun (cs', after) hafter => ⟨trivial, hafter.2.trans hrest⟩

theorem takeExtraMarks_suffix (mark : Char) (p : List Char × List Char) :
    (takeExtraMarks mark p).2 <:+ p.2 := by
  unfold takeExtraMarks
  split
  · next cs a b after =>
    split
    · exact ⟨[a, b], rfl⟩
    · split
      · exact List.suffix_cons a (b :: after)
      · exact List.suffix_refl _
  · next cs a =>
    split
    · exact List.nil_suffix
    · exact List.suffix_refl _
  · exact List.suffix_refl _

theorem readMultiline_builds (mark : Char) (rest : List Char) :
    Builds (Behind Anything rest) (readMultiline mark rest) := by
  have hbody : skipFirstNewline rest <:+ rest := by
    unfold skipFirstNewline
    split
    · exact List.suffix_cons _ _
    · exact List.suffix_refl _
  have hchars : Builds (Behind Anything (skipFirstNewline rest))
      (if mark = '"' then readBasicChars true ((skipFirstNewline rest).length + 1)
        (skipFirstNewline rest) else readLiteralChars true (skipFirstNewline rest)) := by
    split
    · exact readBasicChars_builds true _ _
    · exact readLiteralChars_builds true _
  exact hchars.map fun p hp => ⟨trivial, ((takeExtraMarks_suffix mark p).trans hp.2).trans hbody⟩

/-- **Texts in quotes** are refused as malformed only. -/
theorem readQuoted_builds (mark : Char) (rest : List Char) :
    Builds (Behind Anything rest) (readQuoted mark rest) := by
  unfold readQuoted
  split
  · exact ((readMultiline_builds mark _).of_suffix (List.drop_suffix 2 rest)).bind
      fun (cs, after) hafter => ⟨trivial, hafter.2⟩
  · split
    · exact (readBasicChars_builds false _ rest).bind fun (cs, after) hafter => ⟨trivial, hafter.2⟩
    · exact (readLiteralChars_builds false rest).bind fun (cs, after) hafter => ⟨trivial, hafter.2⟩

theorem readKeyPart_builds (cs : List Char) : Builds (Behind Anything cs) (readKeyPart cs) := by
  cases cs with
  | nil => exact builds_malformed
  | cons c rest =>
    have hrest : rest <:+ c :: rest := List.suffix_cons c rest
    unfold readKeyPart
    dsimp only
    split
    · exact ⟨trivial, List.dropWhile_suffix _⟩
    · split
      · exact (readBasicChars_builds false _ rest).bind fun (cs, after) hafter =>
          ⟨trivial, hafter.2.trans hrest⟩
      · split
        · exact (readLiteralChars_builds false rest).bind fun (cs, after) hafter =>
            ⟨trivial, hafter.2.trans hrest⟩
        · exact builds_malformed

theorem readKeyParts_builds (fuel : Nat) (cs : List Char) :
    Builds (Behind Anything cs) (readKeyParts fuel cs) := by
  induction fuel generalizing cs with
  | zero => exact builds_malformed
  | succ fuel ih =>
    unfold readKeyParts
    refine (readKeyPart_builds cs).bind fun (part, rest) hrest => ?_
    dsimp only
    split
    · next behind hdot =>
      have hbehind : skipLineSpace behind <:+ cs :=
        (skipLineSpace_suffix behind).trans (behind_mark hrest.2 hdot)
      exact ((ih _).of_suffix hbehind).bind fun (parts, after) hafter => ⟨trivial, hafter.2⟩
    · exact ⟨trivial, (skipLineSpace_suffix rest).trans hrest.2⟩

/-- **Keys** are refused as malformed only. -/
theorem readKey_builds (cs : List Char) : Builds (Behind Anything cs) (readKey cs) :=
  readKeyParts_builds _ cs

/-! ## Dates and times -/

section Moments

variable {cs rest : List Char}

theorem takeDigits?_suffix {width n : Nat} (h : takeDigits? width cs = some (n, rest)) :
    rest <:+ cs := by
  unfold takeDigits? at h
  split at h
  · cases h
    exact List.drop_suffix width cs
  · cases h

theorem skip?_suffix {c : Char} (h : skip? c cs = some rest) : rest <:+ cs := by
  cases cs with
  | nil => cases h
  | cons c' more =>
    rw [skip?] at h
    split at h
    · cases h
      exact List.suffix_cons c' rest
    · cases h

theorem takeTwo?_suffix {least greatest : Nat} (h : takeTwo? least greatest cs = some rest) :
    rest <:+ cs := by
  obtain ⟨⟨n, behind⟩, hdigits, h⟩ := Option.bind_eq_some_iff.1 h
  dsimp only at h
  split at h
  · cases h
    exact takeDigits?_suffix hdigits
  · cases h

theorem skipHoursMinutes?_suffix (h : skipHoursMinutes? cs = some rest) : rest <:+ cs := by
  obtain ⟨hours, hhours, h⟩ := Option.bind_eq_some_iff.1 h
  obtain ⟨colon, hcolon, h⟩ := Option.bind_eq_some_iff.1 h
  exact ((takeTwo?_suffix h).trans (skip?_suffix hcolon)).trans (takeTwo?_suffix hhours)

theorem skipTime?_suffix (h : skipTime? cs = some rest) : rest <:+ cs := by
  obtain ⟨minutes, hminutes, h⟩ := Option.bind_eq_some_iff.1 h
  obtain ⟨colon, hcolon, h⟩ := Option.bind_eq_some_iff.1 h
  obtain ⟨seconds, hseconds, h⟩ := Option.bind_eq_some_iff.1 h
  have hbehind : seconds <:+ cs := ((takeTwo?_suffix hseconds).trans (skip?_suffix hcolon)).trans
    (skipHoursMinutes?_suffix hminutes)
  split at h
  · next d more =>
    split at h
    · cases h
      exact ((List.dropWhile_suffix _).trans ⟨['.', d], rfl⟩).trans hbehind
    · cases h
      exact hbehind
  · cases h
    exact hbehind

theorem skipOffset_suffix (cs : List Char) : skipOffset cs <:+ cs := by
  cases cs with
  | nil => exact List.suffix_refl _
  | cons c rest =>
    have hrest : rest <:+ c :: rest := List.suffix_cons c rest
    unfold skipOffset
    dsimp only
    split
    · exact hrest
    · split
      · cases hoffset : skipHoursMinutes? rest with
        | none => exact List.suffix_refl _
        | some after => exact (skipHoursMinutes?_suffix hoffset).trans hrest
      · exact List.suffix_refl _

theorem skipTimeOfDate_suffix (cs : List Char) : skipTimeOfDate cs <:+ cs := by
  cases cs with
  | nil => exact List.suffix_refl _
  | cons c rest =>
    unfold skipTimeOfDate
    dsimp only
    split
    · split
      · next after htime =>
        exact ((skipOffset_suffix after).trans (skipTime?_suffix htime)).trans
          (List.suffix_cons c rest)
      · exact List.suffix_refl _
    · exact List.suffix_refl _

theorem takeDate?_suffix {known : Bool} (h : takeDate? cs = some (known, rest)) : rest <:+ cs := by
  obtain ⟨⟨year, afterYear⟩, hyear, h⟩ := Option.bind_eq_some_iff.1 h
  obtain ⟨dash, hdash, h⟩ := Option.bind_eq_some_iff.1 h
  obtain ⟨⟨month, afterMonth⟩, hmonth, h⟩ := Option.bind_eq_some_iff.1 h
  obtain ⟨dash', hdash', h⟩ := Option.bind_eq_some_iff.1 h
  obtain ⟨⟨day, afterDay⟩, hday, h⟩ := Option.bind_eq_some_iff.1 h
  dsimp only at h
  split at h
  · cases h
    have hbehindYear : dash <:+ cs := (skip?_suffix hdash).trans (takeDigits?_suffix hyear)
    have hbehindMonth : dash' <:+ cs :=
      ((skip?_suffix hdash').trans (takeDigits?_suffix hmonth)).trans hbehindYear
    exact (takeDigits?_suffix hday).trans hbehindMonth
  · cases h

/-- A date that the calendar does not have is malformed. -/
theorem readMoment?_builds {reading : Except Fault (Value × List Char)}
    (h : readMoment? cs = some reading) : Builds (Behind Value.Named cs) reading := by
  unfold readMoment? at h
  split at h
  · cases h
    exact builds_malformed
  · next behind hdate =>
    cases h
    exact ⟨.of_leaf rfl trivial, (skipTimeOfDate_suffix behind).trans (takeDate?_suffix hdate)⟩
  · obtain ⟨behind, htime, h⟩ := Option.map_eq_some_iff.1 h
    cases h
    exact ⟨.of_leaf rfl trivial, skipTime?_suffix htime⟩

end Moments

/-! ## Numbers -/

/-- Digits taken off the front of a text, with underscores between them, and what follows. -/
def Grouped (isDigit : Char → Bool) (cs : List Char) (taken : List Char × List Char) : Prop :=
  ∃ run, run ++ taken.2 = cs ∧ taken.1 = run.filter isDigit ∧
    ∀ c ∈ run, isDigit c = true ∨ c = '_'

namespace Grouped

variable {isDigit : Char → Bool} {cs : List Char} {taken : List Char × List Char}

theorem none (cs : List Char) : Grouped isDigit cs ([], cs) :=
  ⟨[], rfl, rfl, List.forall_mem_nil _⟩

theorem digit {c : Char} (hc : isDigit c = true) (h : Grouped isDigit cs taken) :
    Grouped isDigit (c :: cs) (c :: taken.1, taken.2) := by
  obtain ⟨run, hrun, hdigits, hall⟩ := h
  refine ⟨c :: run, congrArg (c :: ·) hrun, ?_, List.forall_mem_cons.2 ⟨.inl hc, hall⟩⟩
  rw [List.filter_cons_of_pos hc, hdigits]

theorem score (hscore : isDigit '_' = false) (h : Grouped isDigit cs taken) :
    Grouped isDigit ('_' :: cs) taken := by
  obtain ⟨run, hrun, hdigits, hall⟩ := h
  refine ⟨'_' :: run, congrArg ('_' :: ·) hrun, ?_, List.forall_mem_cons.2 ⟨.inr rfl, hall⟩⟩
  rw [List.filter_cons_of_neg (by simp [hscore]), hdigits]

theorem suffix (h : Grouped isDigit cs taken) : taken.2 <:+ cs := by
  obtain ⟨run, hrun, -, -⟩ := h
  exact ⟨run, hrun⟩

end Grouped

theorem takeGrouped_grouped {isDigit : Char → Bool} (hscore : isDigit '_' = false)
    (cs : List Char) : Grouped isDigit cs (takeGrouped isDigit cs) := by
  fun_induction takeGrouped isDigit cs with
  | case1 => exact .none []
  | case2 c hc => exact Grouped.digit hc (.none [])
  | case3 c hc => exact .none [c]
  | case4 c hc => exact Grouped.digit hc (.none _)
  | case5 c hc c' rest hc' digits after heq ih => exact Grouped.digit hc (ih.score hscore)
  | case6 c hc c' rest hc' => exact Grouped.digit hc (.none _)
  | case7 c d rest hc hd digits after heq ih =>
    rw [heq] at ih
    exact Grouped.digit hc ih
  | case8 c d rest hc => exact .none _

theorem takeWhole_grouped (cs : List Char) : Grouped Char.isDigit cs (takeWhole cs) := by
  unfold takeWhole
  split
  · exact Grouped.digit rfl (.none _)
  · exact takeGrouped_grouped rfl cs

theorem takeSignChar_suffix (cs : List Char) : (takeSignChar cs).2 <:+ cs := by
  unfold takeSignChar
  split
  · next c rest =>
    split
    · exact List.suffix_cons c rest
    · exact List.suffix_refl _
  · exact List.suffix_refl _

theorem takeFraction_suffix (cs : List Char) : (takeFraction cs).2 <:+ cs := by
  unfold takeFraction
  split
  · next rest =>
    dsimp only
    split
    · exact List.suffix_refl _
    · exact (takeGrouped_grouped rfl rest).suffix.trans (List.suffix_cons '.' rest)
  · exact List.suffix_refl _

theorem takeExponent_suffix (cs : List Char) : (takeExponent cs).2 <:+ cs := by
  cases cs with
  | nil => exact List.suffix_refl _
  | cons e rest =>
    dsimp only [takeExponent]
    split
    · split
      · exact List.suffix_refl _
      · exact ((takeGrouped_grouped rfl _).suffix.trans (takeSignChar_suffix rest)).trans
          (List.suffix_cons e rest)
    · exact List.suffix_refl _

/-- Letters for bases give integers of any length. -/
theorem readBased?_behind {cs : List Char} {found : Value × List Char}
    (h : readBased? cs = some found) : Behind Value.Named cs found := by
  unfold readBased? at h
  split at h
  · next letter rest =>
    obtain ⟨base, hbase, h⟩ := Option.bind_eq_some_iff.1 h
    dsimp only at h
    split at h
    · cases h
    · cases h
      have hscore : isDigitOf base '_' = false := rfl
      exact ⟨.of_leaf rfl trivial,
        (takeGrouped_grouped hscore rest).suffix.trans ⟨['0', letter], rfl⟩⟩
  · cases h

theorem readSpecial?_behind {cs : List Char} {found : Value × List Char}
    (h : readSpecial? cs = some found) : Behind Value.Named cs found := by
  have hbody := takeSignChar_suffix cs
  unfold readSpecial? at h
  dsimp only at h
  split at h
  · cases h
    exact ⟨.of_leaf rfl trivial, (List.drop_suffix 3 _).trans hbody⟩
  · split at h
    · cases h
      exact ⟨.of_leaf rfl trivial, (List.drop_suffix 3 _).trans hbody⟩
    · cases h

/-- **Integers in base ten** are refused where they have too many digits. -/
theorem readDecimal?_follows {depth : Nat} {cs : List Char}
    {reading : Except Fault (Value × List Char)} (h : readDecimal? cs = some reading) :
    Follows depth cs (Behind Value.Named cs) reading := by
  have hbody := takeSignChar_suffix cs
  unfold readDecimal? at h
  rcases hsign : takeSignChar cs with ⟨sign, body⟩
  rcases hwhole : takeWhole body with ⟨whole, rest⟩
  rcases hfraction : takeFraction rest with ⟨fraction, behind⟩
  rcases hexponent : takeExponent behind with ⟨exponent, after⟩
  have hgrouped := takeWhole_grouped body
  have hbehind := takeFraction_suffix rest
  have hafter := takeExponent_suffix behind
  rw [hsign] at hbody
  rw [hwhole] at hgrouped
  rw [hfraction] at hbehind
  rw [hexponent] at hafter
  have hend : after <:+ cs := ((hafter.trans hbehind).trans hgrouped.suffix).trans hbody
  simp only [hsign, hwhole, hfraction, hexponent] at h
  split at h
  · cases h
  · split at h
    · split at h
      · next hlong =>
        cases h
        -- the whole part is the number
        obtain ⟨run, hrun, hdigits, hall⟩ := hgrouped
        refine ⟨run, ?_, hall, ?_⟩
        · exact (hrun ▸ List.prefix_append run rest).isInfix.trans hbody.isInfix
        · rwa [List.countP_eq_length_filter, ← hdigits]
      · cases h
        exact ⟨.of_leaf rfl trivial, hend⟩
    · obtain ⟨x, -, h⟩ := Option.map_eq_some_iff.1 h
      cases h
      exact ⟨.of_leaf rfl trivial, hend⟩

/-- **Numbers** are refused for what is in the text. -/
theorem readNumber?_follows {depth : Nat} {cs : List Char}
    {reading : Except Fault (Value × List Char)} (h : readNumber? cs = some reading) :
    Follows depth cs (Behind Value.Named cs) reading := by
  unfold readNumber? at h
  split at h
  · next found hfound =>
    cases h
    exact readBased?_behind hfound
  · split at h
    · next reading' hreading =>
      cases h
      exact readDecimal?_follows hreading
    · obtain ⟨found, hfound, h⟩ := Option.map_eq_some_iff.1 h
      cases h
      exact readSpecial?_behind hfound

/-! ## Comments -/

theorem skipComment_builds (cs : List Char) : Builds (· <:+ cs) (skipComment cs) := by
  unfold skipComment
  split
  · next rest =>
    split
    · exact builds_malformed
    · exact (List.dropWhile_suffix _).trans (List.suffix_cons '#' rest)
  · exact List.suffix_refl _

theorem skipFiller_builds (fuel : Nat) (cs : List Char) :
    Builds (· <:+ cs) (skipFiller fuel cs) := by
  induction fuel generalizing cs with
  | zero => exact List.suffix_refl cs
  | succ fuel ih =>
    have hspace : cs.dropWhile isSpaceOrNewline <:+ cs := List.dropWhile_suffix _
    unfold skipFiller
    split
    · next rest hmark =>
      refine (skipComment_builds ('#' :: rest)).bind fun behind hbehind => ?_
      exact (ih behind).imp (fun _ => id) fun after hafter =>
        (hafter.trans hbehind).trans (hmark ▸ hspace)
    · exact hspace

/-! ## Values -/

theorem readWord?_behind {cs : List Char} {found : Value × List Char}
    (h : readWord? cs = some found) : Behind Value.Named cs found := by
  unfold readWord? at h
  split at h
  · cases h
    exact ⟨.of_leaf rfl trivial, List.drop_suffix 4 cs⟩
  · split at h
    · cases h
      exact ⟨.of_leaf rfl trivial, List.drop_suffix 5 cs⟩
    · cases h

theorem readPlain_follows (depth : Nat) (cs : List Char) :
    Follows depth cs (Behind Value.Named cs) (readPlain cs) := by
  unfold readPlain
  split
  · next found hfound => exact readWord?_behind hfound
  · split
    · next reading hreading => exact (readMoment?_builds hreading).follows
    · cases hreading : readNumber? cs with
      | none => exact follows_malformed
      | some reading => exact readNumber?_follows hreading

/-- A bracket counts two or three. -/
theorem depthOf_le (c : Char) : depthOf c ≤ 3 := by
  unfold depthOf
  split
  · decide
  · exact Nat.le_refl 3

/-- Behind an opening bracket less may be nested. -/
theorem Follows.enclosed {α : Type} {right : α → Prop} {x : Except Fault α} {c : Char}
    {depth : Nat} {rest : List Char} (hc : isOpening c = true) (hdepth : ¬depth < depthOf c)
    (h : Follows (depth - depthOf c) rest right x) : Follows depth (c :: rest) right x := by
  refine h.imp (fun fault hfault => ?_) fun _ => id
  cases fault with
  | malformed => trivial
  | longInteger => exact LongNumber.of_suffix (List.suffix_cons c rest) hfault
  | tooDeep =>
    have hless : depth - depthOf c < 3 * openings rest := hfault
    have hmore : openings (c :: rest) = openings rest + 1 := List.countP_cons_of_pos hc
    have hcount := depthOf_le c
    show depth < 3 * openings (c :: rest)
    omega

section Nested

variable {depth fuel : Nat}

/-- Items that are named. -/
def NamedItems (items : List Value) : Prop :=
  ∀ v ∈ items, v.Named

/-- Entries of a table of names. -/
def NamedEntries (entries : Entries) : Prop :=
  (Value.dict entries).Named

theorem readItems_step
    (hvalue : ∀ cs, Follows depth cs (Behind Value.Named cs) (readValue depth fuel cs))
    (hitems : ∀ cs, Follows depth cs (Behind NamedItems cs) (readItems depth fuel cs))
    (cs : List Char) :
    Follows depth cs (Behind NamedItems cs) (readItems depth (fuel + 1) cs) := by
  by_cases hclose : ∃ after, cs = ']' :: after
  · obtain ⟨after, rfl⟩ := hclose
    rw [readItems]
    exact ⟨List.forall_mem_nil _, List.suffix_cons ']' after⟩
  rw [readItems]
  · refine (hvalue cs).bind fun (item, rest) ⟨hitem, hrest⟩ => ?_
    refine (skipFiller_builds _ rest).follows.bind fun behind hbehind => ?_
    split
    · next after =>
      exact ⟨List.forall_mem_singleton.2 hitem,
        ((List.suffix_cons ']' after).trans hbehind).trans hrest⟩
    · next next =>
      refine (skipFiller_builds _ next).follows.bind fun behind' hbehind' => ?_
      have hnext : behind' <:+ cs :=
        (hbehind'.trans ((List.suffix_cons ',' next).trans hbehind)).trans hrest
      refine ((hitems behind').of_suffix hnext).bind fun (items, after) ⟨hitems, hafter⟩ => ?_
      exact ⟨List.forall_mem_cons.2 ⟨hitem, hitems⟩, hafter⟩
    · exact follows_malformed
  · exact fun after h => hclose ⟨after, h⟩

theorem readEntries_step
    (hvalue : ∀ cs, Follows depth cs (Behind Value.Named cs) (readValue depth fuel cs))
    (hentries : ∀ entries filled cs, NamedEntries entries →
      Follows depth cs (Behind NamedEntries cs) (readEntries depth fuel entries filled cs))
    (entries : Entries) (filled : List Key) (cs : List Char) (h : NamedEntries entries) :
    Follows depth cs (Behind NamedEntries cs) (readEntries depth (fuel + 1) entries filled cs) := by
  unfold readEntries
  refine (readKey_builds cs).follows.bind fun (key, rest) hkey => ?_
  dsimp only
  split
  · next value =>
    have hstart : skipLineSpace value <:+ cs :=
      ((skipLineSpace_suffix value).trans (List.suffix_cons '=' value)).trans hkey.2
    refine ((hvalue _).of_suffix hstart).bind fun (v, rest) ⟨hv, hrest⟩ => ?_
    refine (assignInline_builds h filled key hv).follows.bind fun (entries', filled') h' => ?_
    dsimp only
    split
    · next after hclose => exact ⟨h', behind_mark hrest hclose⟩
    · next behind hcomma =>
      have hnext : skipLineSpace behind <:+ cs :=
        (skipLineSpace_suffix behind).trans (behind_mark hrest hcomma)
      exact (hentries entries' filled' _ h').of_suffix hnext
    · exact follows_malformed
  · exact follows_malformed

theorem readValue_step
    (hitems : ∀ depth cs, Follows depth cs (Behind NamedItems cs) (readItems depth fuel cs))
    (hentries : ∀ depth entries filled cs, NamedEntries entries →
      Follows depth cs (Behind NamedEntries cs) (readEntries depth fuel entries filled cs))
    (cs : List Char) :
    Follows depth cs (Behind Value.Named cs) (readValue depth (fuel + 1) cs) := by
  cases cs with
  | nil => exact follows_malformed
  | cons c rest =>
    have hrest : rest <:+ c :: rest := List.suffix_cons c rest
    unfold readValue
    by_cases hquote : c = '"' ∨ c = '\''
    · rw [if_pos hquote]
      refine ((readQuoted_builds c rest).of_suffix hrest).follows.bind ?_
      rintro ⟨s, after⟩ ⟨-, hafter⟩
      exact ⟨.of_leaf rfl trivial, hafter⟩
    rw [if_neg hquote]
    by_cases hopen : c = '[' ∨ c = '\x7b'
    · rw [if_pos hopen]
      have hopening : isOpening c = true := by simpa [isOpening] using hopen
      by_cases hdepth : depth < depthOf c
      · -- no more may be nested, and this is a bracket
        rw [if_pos hdepth]
        have hmore : openings (c :: rest) = openings rest + 1 := List.countP_cons_of_pos hopening
        have hcount := depthOf_le c
        show depth < 3 * openings (c :: rest)
        omega
      rw [if_neg hdepth]
      split
      · refine (skipFiller_builds _ rest).follows.bind fun behind hbehind => ?_
        have hread := (hitems (depth - depthOf c) behind).of_suffix hbehind
        refine (hread.enclosed hopening hdepth).bind ?_
        rintro ⟨items, after⟩ ⟨hitems, hafter⟩
        exact ⟨Value.named_list.2 hitems, hafter.trans hrest⟩
      · split
        · next after hclose => exact ⟨Value.named_dict_nil, behind_mark hrest hclose⟩
        · have hread := (hentries (depth - depthOf c) [] [] _ Value.named_dict_nil).of_suffix
            (skipLineSpace_suffix rest)
          refine (hread.enclosed hopening hdepth).bind ?_
          rintro ⟨entries, after⟩ ⟨hnamed, hafter⟩
          exact ⟨hnamed, hafter.trans hrest⟩
    · rw [if_neg hopen]
      exact readPlain_follows depth (c :: rest)

end Nested

/-- Values, items and entries follow the text they are read from: by induction on the fuel, all
three at once and for every depth, since a bracket leaves less of it. -/
theorem readers_follow (fuel : Nat) :
    (∀ depth cs, Follows depth cs (Behind Value.Named cs) (readValue depth fuel cs)) ∧
    (∀ depth cs, Follows depth cs (Behind NamedItems cs) (readItems depth fuel cs)) ∧
    ∀ depth entries filled cs, NamedEntries entries →
      Follows depth cs (Behind NamedEntries cs) (readEntries depth fuel entries filled cs) := by
  induction fuel with
  | zero =>
    refine ⟨fun depth cs => ?_, fun depth cs => ?_, fun depth entries filled cs _ => ?_⟩
    · exact follows_malformed
    · exact follows_malformed
    · exact follows_malformed
  | succ fuel ih =>
    obtain ⟨hvalue, hitems, hentries⟩ := ih
    refine ⟨fun depth => ?_, fun depth => ?_, fun depth => ?_⟩
    · exact readValue_step hitems hentries
    · exact readItems_step (hvalue depth) (hitems depth)
    · exact readEntries_step (hvalue depth) (hentries depth)

/-! ## Documents -/

theorem expect_builds (mark : Char) (cs : List Char) : Builds (· <:+ cs) (expect mark cs) := by
  cases cs with
  | nil => exact builds_malformed
  | cons c rest =>
    rw [expect]
    split
    · exact List.suffix_cons c rest
    · exact builds_malformed

section Statements

variable {d : Document}

theorem readHeader_builds (h : d.Named) (rest : List Char) :
    Builds (Behind Document.Named rest) (readHeader d rest) := by
  unfold readHeader
  split
  · next inner =>
    refine (readKey_builds _).bind fun (key, behind) ⟨_, hbehind⟩ => ?_
    refine (Document.openItem_builds h key).bind fun d' h' => ?_
    refine (expect_builds ']' behind).bind fun first hfirst => ?_
    refine (expect_builds ']' first).bind fun after hafter => ?_
    exact ⟨h', (((hafter.trans hfirst).trans hbehind).trans (skipLineSpace_suffix inner)).trans
      (List.suffix_cons '[' inner)⟩
  · refine (readKey_builds _).bind fun (key, behind) ⟨_, hbehind⟩ => ?_
    refine (Document.openTable_builds h key).bind fun d' h' => ?_
    refine (expect_builds ']' behind).bind fun after hafter => ?_
    exact ⟨h', (hafter.trans hbehind).trans (skipLineSpace_suffix rest)⟩

theorem readEntry_follows (h : d.Named) (cs : List Char) :
    Follows depthLimit cs (Behind Document.Named cs) (readEntry d cs) := by
  unfold readEntry
  refine (readKey_builds cs).follows.bind fun (key, rest) ⟨_, hrest⟩ => ?_
  refine (expect_builds '=' rest).follows.bind fun value hvalue => ?_
  have hstart : skipLineSpace value <:+ cs :=
    ((skipLineSpace_suffix value).trans hvalue).trans hrest
  obtain ⟨hread, -⟩ := readers_follow (callBound value)
  refine ((hread depthLimit _).of_suffix hstart).bind fun (v, after) ⟨hv, hafter⟩ => ?_
  refine (Document.assign_builds h key hv).follows.bind fun d' h' => ?_
  exact ⟨h', hafter⟩

/-- **One statement** keeps a document of tables of names. -/
theorem readStatement_follows (h : d.Named) (cs : List Char) :
    Follows depthLimit cs (Behind Document.Named cs) (readStatement d cs) := by
  cases cs with
  | nil => exact ⟨h, List.suffix_refl _⟩
  | cons c rest =>
    unfold readStatement
    dsimp only
    split
    · exact ⟨h, List.suffix_refl _⟩
    · split
      · have hsettled : d.settle.Named := h
        exact ((readHeader_builds hsettled rest).of_suffix (List.suffix_cons c rest)).follows
      · split
        · exact readEntry_follows h (c :: rest)
        · exact follows_malformed

/-- Statements go on from one line to the next. -/
theorem readStatements_follow (fuel : Nat) (h : d.Named) (cs : List Char) :
    Follows depthLimit cs Document.Named (readStatements fuel d cs) := by
  induction fuel generalizing d cs with
  | zero => exact h
  | succ fuel ih =>
    unfold readStatements
    have hstart := (readStatement_follows h (skipLineSpace cs)).of_suffix (skipLineSpace_suffix cs)
    refine hstart.bind fun (d', rest) ⟨h', hrest⟩ => ?_
    refine (skipComment_builds _).follows.bind fun behind hbehind => ?_
    split
    · exact h'
    · next line =>
      have hline : line <:+ cs := ((List.suffix_cons '\n' line).trans hbehind).trans
        ((skipLineSpace_suffix rest).trans hrest)
      exact (ih h' line).imp (fun _ => Limited.of_suffix hline) fun _ => id
    · exact follows_malformed

end Statements

/-! ### Line ends -/

/-- A line end of two characters opens no bracket. -/
theorem openings_joinLineEnds (cs : List Char) : openings (joinLineEnds cs) = openings cs := by
  fun_induction joinLineEnds cs with
  | case1 rest ih => simpa [openings, isOpening] using ih
  | case2 c rest _ ih =>
    rw [openings, openings, List.countP_cons, List.countP_cons]
    exact congrArg (· + _) ih
  | case3 => rfl

/-- The end of a text with joined line ends comes from the end of the text. -/
theorem exists_of_suffix_joinLineEnds {rest cs : List Char} (h : rest <:+ joinLineEnds cs) :
    ∃ rest', rest' <:+ cs ∧ joinLineEnds rest' = rest := by
  fun_induction joinLineEnds cs with
  | case1 more ih =>
    rcases List.suffix_cons_iff.1 h with rfl | h
    · exact ⟨'\r' :: '\n' :: more, List.suffix_refl _, rfl⟩
    · obtain ⟨rest', hrest', heq⟩ := ih h
      exact ⟨rest', hrest'.trans ⟨['\r', '\n'], rfl⟩, heq⟩
  | case2 c more hother ih =>
    rcases List.suffix_cons_iff.1 h with rfl | h
    · exact ⟨c :: more, List.suffix_refl _, by rw [joinLineEnds]; exact hother⟩
    · obtain ⟨rest', hrest', heq⟩ := ih h
      exact ⟨rest', hrest'.trans (List.suffix_cons c more), heq⟩
  | case3 =>
    rw [List.suffix_nil.1 h]
    exact ⟨[], List.suffix_refl _, rfl⟩

/-- Up to a line end nothing is joined. -/
theorem prefix_of_prefix_joinLineEnds {run cs : List Char} (hrun : '\n' ∉ run)
    (h : run <+: joinLineEnds cs) : run <+: cs := by
  fun_induction joinLineEnds cs generalizing run with
  | case1 more ih =>
    cases run with
    | nil => exact List.nil_prefix
    | cons c rest =>
      obtain ⟨rfl, -⟩ := List.cons_prefix_cons.1 h
      exact absurd List.mem_cons_self hrun
  | case2 c more hother ih =>
    cases run with
    | nil => exact List.nil_prefix
    | cons c' rest =>
      obtain ⟨rfl, hrest⟩ := List.cons_prefix_cons.1 h
      exact List.cons_prefix_cons.2 ⟨rfl, ih (fun hmem => hrun (List.mem_cons_of_mem _ hmem)) hrest⟩
  | case3 => exact h

theorem LongNumber.of_joinLineEnds {cs : List Char} (h : LongNumber (joinLineEnds cs)) :
    LongNumber cs := by
  obtain ⟨run, hinfix, hdigits, hlong⟩ := h
  obtain ⟨start, hstart, hsuffix⟩ := List.infix_iff_prefix_suffix.1 hinfix
  obtain ⟨start', hstart', rfl⟩ := exists_of_suffix_joinLineEnds hsuffix
  have hline : '\n' ∉ run := fun hmem => by
    rcases hdigits _ hmem with h | h
    · cases h
    · cases h
  refine ⟨run, ?_, hdigits, hlong⟩
  exact (prefix_of_prefix_joinLineEnds hline hstart).isInfix.trans hstart'.isInfix

/-- **A whole document** has tables of names, and is refused for what is in its text. -/
theorem read_follows (document : List Char) :
    Follows depthLimit document NamedEntries (read document) := by
  unfold read
  have hread : Follows depthLimit (joinLineEnds document) Document.Named _ :=
    readStatements_follow ((joinLineEnds document).length + 1)
      (show Document.Named {} from Value.named_dict_nil) _
  refine (hread.bind fun d hd => ?_).imp (fun fault hfault => ?_) fun _ => id
  · exact hd
  · cases fault with
    | malformed => trivial
    | longInteger => exact LongNumber.of_joinLineEnds hfault
    | tooDeep =>
      have hdeep : depthLimit < 3 * openings (joinLineEnds document) := hfault
      rwa [openings_joinLineEnds] at hdeep

end LayeredLint.Toml
