import LayeredLint.Proofs.Json.Serialisable

/-!
# Texts on one line

What is printed on one line is made of numbers and words, of texts in quotes, and of brackets around
such texts. What a text does not have in it follows from this shape.

- `isBare`: the characters of numbers, words and names.
- `Body`: what stands between quotes.
- `LineText`: the shapes of texts on one line.
- `lineText_of_text?`: **every text on one line has one of these shapes**.
- `LineText.newline_not_mem`: no text of these shapes has a line feed in it.
-/

namespace LayeredLint.Json

/-! ## Numbers and words -/

/-- A character of numbers, words and names. -/
def isBare (c : Char) : Bool :=
  c.isAlphanum || c = '-' || c = '+' || c = '.' || c = '_' || c = '$'

/-- A text without blanks, quotes and brackets, as numbers and words are. -/
def Bare (text : List Char) : Prop :=
  ∀ c ∈ text, isBare c = true

theorem bare_of_all {text : List Char} (h : text.all isBare = true) : Bare text :=
  List.all_eq_true.1 h

/-- A character that is not bare is not in a bare text. -/
theorem Bare.not_mem {text : List Char} (h : Bare text) {c : Char} (hc : isBare c = false) :
    c ∉ text :=
  fun hmem => Bool.false_ne_true (hc.symm.trans (h c hmem))

theorem Bare.forall_not_mem {text marks : List Char} (h : Bare text)
    (hmarks : marks.all (fun c => !isBare c) = true) : ∀ c ∈ text, c ∉ marks := by
  intro c hc hmem
  have hnone := List.all_eq_true.1 hmarks c hmem
  rw [h c hc] at hnone
  cases hnone

theorem Bare.append {text text' : List Char} (h : Bare text) (h' : Bare text') :
    Bare (text ++ text') :=
  List.forall_mem_append.2 ⟨h, h'⟩

theorem Bare.cons {c : Char} {text : List Char} (hc : isBare c = true) (h : Bare text) :
    Bare (c :: text) :=
  List.forall_mem_cons.2 ⟨hc, h⟩

theorem bare_nil : Bare [] :=
  List.forall_mem_nil _

theorem bare_toDigits (n : Nat) : Bare (Nat.toDigits 10 n) := by
  intro c hc
  simp [isBare, Char.isAlphanum, isDigit_of_mem_toDigits hc]

theorem bare_hex (width n : Nat) : Bare (Text.hex width n) := by
  have hdigit : ∀ d < 16, isBare (Text.hexDigit d) = true := by decide
  induction width generalizing n with
  | zero => exact bare_nil
  | succ width ih => exact (ih _).append (.cons (hdigit _ (Nat.mod_lt n (by decide))) bare_nil)

theorem bare_boolText (b : Bool) : Bare (boolText b) := by
  cases b <;> exact bare_of_all rfl

theorem bare_intText (n : Int) : Bare (intText n) := by
  unfold intText
  split
  · exact .cons rfl (bare_toDigits _)
  · exact bare_toDigits _

theorem bare_exponentText (e : Int) : Bare (Binary64.exponentText e) := by
  have hdigits := bare_toDigits e.natAbs
  simp only [Binary64.exponentText]
  split_ifs
  · exact .cons rfl (.cons rfl hdigits)
  · exact .cons rfl hdigits
  · exact .cons rfl (.cons rfl hdigits)
  · exact .cons rfl hdigits

theorem bare_placePoint {digits : List Char} (h : Bare digits) (point : Int) :
    Bare (Binary64.placePoint digits point) := by
  have hzeros : ∀ n, Bare (List.replicate n '0') := by
    intro n c hc
    rw [List.eq_of_mem_replicate hc]
    rfl
  have htake : ∀ n, Bare (digits.take n) := fun n c hc => h c (List.mem_of_mem_take hc)
  have hdrop : ∀ n, Bare (digits.drop n) := fun n c hc => h c (List.mem_of_mem_drop hc)
  have hexponent := bare_exponentText (point - 1)
  simp only [Binary64.placePoint]
  split_ifs
  · exact .append (.cons rfl (.cons rfl (hzeros _))) h
  · exact .append (h.append (hzeros _)) (bare_of_all rfl)
  · exact (htake _).append (.cons rfl (hdrop _))
  · exact .append ((htake 1).append bare_nil) (.cons rfl hexponent)
  · exact .append ((htake 1).append (.cons rfl (hdrop 1))) (.cons rfl hexponent)

theorem bare_floatText (x : Binary64) : Bare (floatText x) := by
  cases x with
  | nan _ =>
    show Bare "NaN".toList
    exact bare_of_all rfl
  | infinity negative => cases negative <;> exact bare_of_all rfl
  | finite negative m q =>
    have hdigits : ∀ n, Bare (Binary64.dropTrailingZeros (Nat.toDigits 10 n)) := by
      intro n c hc
      have hmem := (List.dropWhile_sublist _).mem (List.mem_reverse.1 hc)
      exact bare_toDigits n c (List.mem_reverse.1 hmem)
    have hsign : ∀ magnitude, Bare magnitude →
        Bare (if negative then '-' :: magnitude else magnitude) := by
      intro magnitude h
      cases negative
      · exact h
      · exact .cons rfl h
    show Bare (Binary64.text (.finite negative m q)).toList
    rw [Binary64.text, String.toList_ofList]
    refine hsign _ ?_
    split
    · exact bare_of_all rfl
    · exact bare_placePoint (hdigits _) _

/-! ## Texts in quotes -/

/-- What stands between quotes: characters that need no escape, and escapes, which start with a
backslash and one character. -/
inductive Body : List Char → Prop where
  | nil : Body []
  | plain {c : Char} {rest : List Char} (quote : c ≠ '"') (slash : c ≠ '\\') (line : c ≠ '\n')
      (h : Body rest) : Body (c :: rest)
  | escape {e : Char} {rest : List Char} (line : e ≠ '\n') (h : Body rest) :
      Body ('\\' :: e :: rest)

theorem Body.append {body body' : List Char} (h : Body body) (h' : Body body') :
    Body (body ++ body') := by
  induction h with
  | nil => exact h'
  | plain quote slash line _ ih => exact .plain quote slash line ih
  | escape line _ ih => exact .escape line ih

theorem Bare.body {text : List Char} (h : Bare text) : Body text := by
  induction text with
  | nil => exact .nil
  | cons c rest ih =>
    rw [Bare, List.forall_mem_cons] at h
    have hne : ∀ {d : Char}, isBare d = false → c ≠ d := by
      rintro d hd rfl
      exact Bool.false_ne_true (hd.symm.trans h.1)
    exact .plain (hne rfl) (hne rfl) (hne rfl) (ih h.2)

theorem body_unitEscape (n : Nat) : Body (unitEscape n) :=
  .escape (by decide) (bare_hex 4 n).body

theorem body_escapeChar (c : Char) : Body (escapeChar c) := by
  rcases escapeChar_cases c with ⟨e, hshort, hc⟩ | ⟨hquote, hslash, hplain, hc⟩ | hc
  · rw [hc]
    refine .escape ?_ .nil
    rintro rfl
    cases hshort
  · rw [hc]
    refine .plain hquote hslash ?_ .nil
    rintro rfl
    exact absurd hplain (by decide)
  · rw [hc, unicodeEscape]
    split
    · exact body_unitEscape _
    · exact (body_unitEscape _).append (body_unitEscape _)

theorem body_escapePoint (n : Nat) : Body (escapePoint n) := by
  unfold escapePoint
  split
  · exact body_escapeChar _
  · exact body_unitEscape n

theorem body_points (points : List Nat) : Body (points.flatMap escapePoint) := by
  induction points with
  | nil => exact .nil
  | cons n points ih =>
    rw [List.flatMap_cons]
    exact (body_escapePoint n).append ih

/-! ## Shapes -/

/-- The shapes of texts on one line: numbers and words, texts in quotes, items in brackets, and
members in braces. -/
inductive LineText : List Char → Prop where
  | bare {text : List Char} (h : Bare text) : LineText text
  | quoted {body : List Char} (h : Body body) : LineText ('"' :: (body ++ ['"']))
  | items {texts : List (List Char)} (h : ∀ text ∈ texts, LineText text) :
      LineText ('[' :: ([',', ' '].intercalate texts ++ [']']))
  | members {members : List (List Char × List Char)} (names : ∀ m ∈ members, LineText m.1)
      (values : ∀ m ∈ members, LineText m.2) :
      LineText ('\x7b' ::
        ([',', ' '].intercalate (members.map fun m => m.1 ++ ':' :: ' ' :: m.2) ++ ['\x7d']))

theorem lineText_pointsText (points : List Nat) : LineText (pointsText points) :=
  .quoted (body_points points)

theorem lineText_stringText (s : String) : LineText (stringText s) := by
  rw [stringText_eq_pointsText]
  exact lineText_pointsText _

theorem lineText_of_keyText? {k : Value} {name : List Char} (h : keyText? k = some name) :
    LineText name := by
  cases k with
  | str s => cases h; exact lineText_stringText s
  | severity s => cases h; exact lineText_stringText s.word
  | brokenText points => cases h; exact lineText_pointsText points
  | null => cases h; exact .quoted (@bare_of_all "null".toList rfl).body
  | bool b => cases h; exact .quoted (bare_boolText b).body
  | int n => cases h; exact .quoted (bare_intText n).body
  | float x => cases h; exact .quoted (bare_floatText x).body
  | _ => cases h

mutual

/-- **Every text on one line has one of these shapes.** -/
theorem lineText_of_text? {level : Nat} : ∀ {v : Value} {text : List Char},
    text? oneLine level v = some text → LineText text
  | .list _, _, h | .tuple _, _, h => by
    obtain ⟨texts, htexts, rfl⟩ := Option.map_eq_some_iff.1 h
    rw [enclose_oneLine]
    exact .items (lineText_of_itemTexts? htexts)
  | .dict _, _, h => by
    obtain ⟨texts, htexts, rfl⟩ := Option.map_eq_some_iff.1 h
    obtain ⟨members, rfl, names, values⟩ := lineText_of_memberTexts? htexts
    rw [enclose_oneLine]
    exact .members names values
  | .null, _, h => by cases h; exact .bare (bare_of_all rfl)
  | .bool b, _, h => by cases h; exact .bare (bare_boolText b)
  | .int n, _, h => by cases h; exact .bare (bare_intText n)
  | .float x, _, h => by cases h; exact .bare (bare_floatText x)
  | .str s, _, h => by cases h; exact lineText_stringText s
  | .brokenText points, _, h => by cases h; exact lineText_pointsText points
  | .severity s, _, h => by cases h; exact lineText_stringText s.word
  | .bytes _, _, h | .setting .., _, h | .module _, _, h | .handle _, _, h | .language .., _, h
  | .moment _, _, h => nomatch h

theorem lineText_of_itemTexts? {level : Nat} : ∀ {items : List Value} {texts : List (List Char)},
    itemTexts? oneLine level items = some texts → ∀ text ∈ texts, LineText text
  | [], _, h => by
    cases h
    exact List.forall_mem_nil _
  | v :: rest, _, h => by
    obtain ⟨item, hitem, h⟩ := Option.bind_eq_some_iff.1 h
    obtain ⟨texts, htexts, h⟩ := Option.bind_eq_some_iff.1 h
    cases h
    exact List.forall_mem_cons.2 ⟨lineText_of_text? hitem, lineText_of_itemTexts? htexts⟩

theorem lineText_of_memberTexts? {level : Nat} :
    ∀ {entries : List (Value × Value)} {texts : List (List Char)},
      memberTexts? oneLine level entries = some texts →
        ∃ members : List (List Char × List Char),
          texts = members.map (fun m => m.1 ++ ':' :: ' ' :: m.2) ∧
            (∀ m ∈ members, LineText m.1) ∧ ∀ m ∈ members, LineText m.2
  | [], _, h => by
    cases h
    exact ⟨[], rfl, List.forall_mem_nil _, List.forall_mem_nil _⟩
  | (k, v) :: rest, _, h => by
    obtain ⟨name, hname, h⟩ := Option.bind_eq_some_iff.1 h
    obtain ⟨value, hvalue, h⟩ := Option.bind_eq_some_iff.1 h
    obtain ⟨texts, htexts, h⟩ := Option.bind_eq_some_iff.1 h
    cases h
    obtain ⟨members, rfl, names, values⟩ := lineText_of_memberTexts? htexts
    exact ⟨(name, value) :: members, rfl,
      List.forall_mem_cons.2 ⟨lineText_of_keyText? hname, names⟩,
      List.forall_mem_cons.2 ⟨lineText_of_text? hvalue, values⟩⟩

end

/-! ## Line feeds -/

theorem Bare.newline_not_mem {text : List Char} (h : Bare text) : '\n' ∉ text :=
  h.not_mem rfl

theorem Body.newline_not_mem {body : List Char} (h : Body body) : '\n' ∉ body := by
  induction h with
  | nil => exact List.not_mem_nil
  | plain _ _ line _ ih => exact List.not_mem_cons_of_ne_of_not_mem line.symm ih
  | escape line _ ih =>
    exact List.not_mem_cons_of_ne_of_not_mem (by decide)
      (List.not_mem_cons_of_ne_of_not_mem line.symm ih)

theorem newline_not_mem_intercalate {texts : List (List Char)} (h : ∀ text ∈ texts, '\n' ∉ text) :
    '\n' ∉ [',', ' '].intercalate texts := by
  induction texts with
  | nil => exact List.not_mem_nil
  | cons text rest ih =>
    rw [List.forall_mem_cons] at h
    cases rest with
    | nil => simpa using h.1
    | cons text' rest =>
      rw [intercalate_cons]
      simp [h.1, ih h.2]

/-- A text of one of the shapes has no line feed in it. -/
theorem LineText.newline_not_mem {text : List Char} (h : LineText text) : '\n' ∉ text := by
  induction h with
  | bare h => exact h.newline_not_mem
  | quoted h => simp [h.newline_not_mem]
  | items _ ih => simp [newline_not_mem_intercalate ih]
  | @members members _ _ ihnames ihvalues =>
    have hmembers : ∀ text ∈ members.map (fun m => m.1 ++ ':' :: ' ' :: m.2), '\n' ∉ text :=
      List.forall_mem_map.2 fun m hm => by simp [ihnames m hm, ihvalues m hm]
    simp only [List.mem_cons, List.mem_append, newline_not_mem_intercalate hmembers]
    decide

end LayeredLint.Json
