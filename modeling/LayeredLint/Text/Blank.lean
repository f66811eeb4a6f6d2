/-!
# White space and letter case

Names, severities and messages are compared after white space at their ends is dropped and letter
case is ignored.

- `isBlank`: the characters that count as white space.
- `strip`, `stripText`: a text without the white space at its ends.
- `splitBlank`: the words of a text between runs of white space.
- `lower`, `lowerText`: lower case, as far as it can reach a letter of ASCII.
- `strip_idem`: a stripped text has nothing left to strip.
-/

namespace LayeredLint.Text

/-- White space by the Unicode property together with the four separators U+001C to U+001F. -/
def isBlank (c : Char) : Bool :=
  let n := c.toNat
  (9 ≤ n && n ≤ 13) || (28 ≤ n && n ≤ 32) || n == 0x85 || n == 0xA0 || n == 0x1680 ||
    (0x2000 ≤ n && n ≤ 0x200A) || n == 0x2028 || n == 0x2029 || n == 0x202F || n == 0x205F ||
    n == 0x3000

/-- Drop the white space a text ends with. -/
def dropEnd (cs : List Char) : List Char :=
  (cs.reverse.dropWhile isBlank).reverse

/-- Drop the white space at both ends. -/
def strip (cs : List Char) : List Char :=
  dropEnd (cs.dropWhile isBlank)

/-- `strip` on a string. -/
def stripText (s : String) : String :=
  String.ofList (strip s.toList)

/-- A text without a character that is not white space. -/
def isBlankText (s : String) : Bool :=
  s.toList.all isBlank

/-- A word read in reverse, if it has a character. -/
def finishedWord (word : List Char) : List (List Char) :=
  if word.isEmpty then [] else [word.reverse]

/-- The words of a text, after characters of a word read before, in reverse. -/
def splitBlankFrom (word : List Char) : List Char → List (List Char)
  | [] => finishedWord word
  | c :: rest =>
    if isBlank c then finishedWord word ++ splitBlankFrom [] rest
    else splitBlankFrom (c :: word) rest

/-- The words of a text between runs of white space. -/
def splitBlank (cs : List Char) : List (List Char) :=
  splitBlankFrom [] cs

/-- Lower case. Besides the capitals of ASCII only the Kelvin sign has a lower case letter in
ASCII, so a text lowers to an ASCII word here exactly when it does in all of Unicode. -/
def lower (c : Char) : Char :=
  if c = '\u212A' then 'k' else c.toLower

/-- `lower` on a string. -/
def lowerText (s : String) : String :=
  String.ofList (s.toList.map lower)

/-! ## What stripping leaves -/

theorem dropWhile_eq_self_of_head {p : Char → Bool} {cs : List Char}
    (h : ∀ c, cs.head? = some c → p c = false) : cs.dropWhile p = cs := by
  cases cs with
  | nil => rfl
  | cons c r => simp [List.dropWhile, h c rfl]

theorem head?_dropWhile_eq {p : Char → Bool} {cs : List Char} {c : Char}
    (h : (cs.dropWhile p).head? = some c) : p c = false := by
  induction cs with
  | nil => simp at h
  | cons d r ih =>
    by_cases hd : p d = true
    · rw [List.dropWhile_cons_of_pos hd] at h
      exact ih h
    · rw [List.dropWhile_cons_of_neg hd] at h
      simp at h
      subst h
      simpa using hd

/-- The last character of a text without white space at its end is not white space. -/
theorem getLast?_dropEnd {cs : List Char} {c : Char} (h : (dropEnd cs).getLast? = some c) :
    isBlank c = false := by
  rw [dropEnd, List.getLast?_reverse] at h
  exact head?_dropWhile_eq h

theorem dropEnd_eq_self {cs : List Char} (h : ∀ c, cs.getLast? = some c → isBlank c = false) :
    dropEnd cs = cs := by
  rw [dropEnd, dropWhile_eq_self_of_head, List.reverse_reverse]
  intro c hc
  rw [List.head?_reverse] at hc
  exact h c hc

theorem dropEnd_prefix (cs : List Char) : ∃ tail, dropEnd cs ++ tail = cs := by
  refine ⟨(cs.reverse.takeWhile isBlank).reverse, ?_⟩
  rw [dropEnd, ← List.reverse_append, List.takeWhile_append_dropWhile, List.reverse_reverse]

/-- The first character of a stripped text is not white space. -/
theorem head?_strip {cs : List Char} {c : Char} (h : (strip cs).head? = some c) :
    isBlank c = false := by
  obtain ⟨tail, ht⟩ := dropEnd_prefix (cs.dropWhile isBlank)
  have first : (cs.dropWhile isBlank).head? = some c → isBlank c = false := head?_dropWhile_eq
  refine first ?_
  rw [strip] at h
  rw [← ht]
  cases hd : dropEnd (cs.dropWhile isBlank) with
  | nil => rw [hd] at h; simp at h
  | cons d r => rw [hd] at h; simpa using h

/-- **A stripped text stays as it is** when it is stripped again. -/
theorem strip_idem (cs : List Char) : strip (strip cs) = strip cs := by
  have hstart : (strip cs).dropWhile isBlank = strip cs :=
    dropWhile_eq_self_of_head fun _ h => head?_strip h
  have hend : dropEnd (strip cs) = strip cs :=
    dropEnd_eq_self fun _ h => getLast?_dropEnd h
  rw [strip, hstart, hend]

end LayeredLint.Text
