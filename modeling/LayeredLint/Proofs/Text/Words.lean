import LayeredLint.Proofs.Except
import LayeredLint.Text.Words

/-!
# Which lines have words

Whether a line has words depends on nothing but the state in which a reader comes to its end: the
words made on the way do not matter.

- `WordState.after`: where a reader stands after some characters.
- `words_eq_error_iff`: a line has no words when it ends inside quotes or after a backslash.
- `words_eq_nil_iff`: the lines of no words at all are the blank ones.
-/

namespace LayeredLint.Text

namespace WordState

/-- Where the reader stands after one more character. -/
def next : WordState → Char → WordState
  | .plain, c =>
    if isSeparator c then .plain
    else if c = '\\' then .escaped
    else if c = '\'' ∨ c = '"' then .quoted c
    else .plain
  | .escaped, _ => .plain
  | .quoted mark, c =>
    if c = mark then .plain
    else if c = '\\' ∧ mark = '"' then .quotedEscaped
    else .quoted mark
  | .quotedEscaped, _ => .quoted '"'

/-- Where the reader stands after some characters. -/
def after (state : WordState) (cs : List Char) : WordState :=
  cs.foldl next state

/-- What is wrong with a line that ends in a state. -/
def error? : WordState → Option WordError
  | .plain => none
  | .escaped => some .openEscape
  | .quoted _ => some .openQuote
  | .quotedEscaped => some .openEscape

end WordState

/-! ## Ends of lines -/

/-- What is wrong with a line is told by the state at its end. -/
theorem wordsFrom_eq_error_iff {state : WordState} {word : Option (List Char)} {cs : List Char}
    {e : WordError} :
    wordsFrom state word cs = .error e ↔ (state.after cs).error? = some e := by
  -- The word under construction changes with every step, but has no part in the end.
  induction cs generalizing state word with
  | nil => cases state <;> simp [wordsFrom, WordState.after, WordState.error?]
  | cons c rest ih =>
    show _ ↔ ((state.next c).after rest).error? = some e
    cases state with
    | plain =>
      rw [wordsFrom, WordState.next]
      split_ifs
      · exact map_eq_error.trans ih
      · exact ih
      · exact ih
      · exact ih
    | escaped => exact ih
    | quoted mark =>
      rw [wordsFrom, WordState.next]
      split_ifs
      · exact ih
      · exact ih
      · exact ih
    | quotedEscaped =>
      rw [wordsFrom, WordState.next]
      split_ifs
      · exact ih
      · exact ih

theorem words_eq_error_iff {line : String} {e : WordError} :
    words line = .error e ↔ (WordState.plain.after line.toList).error? = some e :=
  wordsFrom_eq_error_iff

/-- A line that has words ends outside quotes. -/
theorem after_of_words {line : String} {ws : List String} (h : words line = .ok ws) :
    WordState.plain.after line.toList = .plain := by
  have noError : ∀ e, (WordState.plain.after line.toList).error? ≠ some e := fun e he => by
    rw [words_eq_error_iff.2 he] at h
    cases h
  cases hend : WordState.plain.after line.toList with
  | plain => rfl
  | _ => exact absurd (congrArg WordState.error? hend) (noError _)

/-! ## Blank lines -/

/-- A word that was begun is read to its end. -/
theorem wordsFrom_ne_nil {state : WordState} {word : Option (List Char)} {cs : List Char}
    (begun : word.isSome ∨ state = .escaped) : wordsFrom state word cs ≠ .ok [] := by
  -- Quotes begin a word at once, if an empty one; a backslash does with the character after it.
  induction cs generalizing state word with
  | nil =>
    cases state with
    | plain =>
      obtain ⟨w, rfl⟩ := Option.isSome_iff_exists.1 (begun.resolve_right (by simp))
      simp [wordsFrom, closeWord]
    | _ => simp [wordsFrom]
  | cons c rest ih =>
    cases state with
    | escaped => exact ih (.inl rfl)
    | plain =>
      obtain ⟨w, rfl⟩ := Option.isSome_iff_exists.1 (begun.resolve_right (by simp))
      rw [wordsFrom]
      split_ifs
      · intro h
        obtain ⟨_, -, hnil⟩ := map_eq_ok.1 h
        cases hnil
      · exact ih (.inl rfl)
      · exact ih (.inl rfl)
      · exact ih (.inl rfl)
    | quoted mark =>
      obtain ⟨w, rfl⟩ := Option.isSome_iff_exists.1 (begun.resolve_right (by simp))
      rw [wordsFrom]
      split_ifs
      · exact ih (.inl rfl)
      · exact ih (.inl rfl)
      · exact ih (.inl rfl)
    | quotedEscaped =>
      rw [wordsFrom]
      split_ifs
      · exact ih (.inl rfl)
      · exact ih (.inl rfl)

theorem wordsFrom_eq_nil_iff {cs : List Char} :
    wordsFrom .plain none cs = .ok [] ↔ ∀ c ∈ cs, isSeparator c = true := by
  induction cs with
  | nil => simp [wordsFrom, closeWord]
  | cons c rest ih =>
    rw [List.forall_mem_cons, ← ih]
    rw [wordsFrom]
    split_ifs with hsep hescape hquote
    · rw [map_eq_ok, and_iff_right hsep]
      simp [closeWord]
    · exact iff_of_false (wordsFrom_ne_nil (.inr rfl)) (fun h => hsep h.1)
    · exact iff_of_false (wordsFrom_ne_nil (.inl rfl)) (fun h => hsep h.1)
    · exact iff_of_false (wordsFrom_ne_nil (.inl rfl)) (fun h => hsep h.1)

/-- The lines of no words are the blank ones. -/
theorem words_eq_nil_iff {line : String} :
    words line = .ok [] ↔ ∀ c ∈ line.toList, isSeparator c = true :=
  wordsFrom_eq_nil_iff

end LayeredLint.Text
