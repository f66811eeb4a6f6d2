import LayeredLint.Proofs.Json.Document
import LayeredLint.Proofs.Json.Scalars
import Mathlib.Algebra.Order.BigOperators.Group.List

/-!
# Documents, printed and read

What is printed on one line is read back as the value it was printed for, where the limits of the
reader allow it, and reading stops where the text ends.

- `Opens`: what the text of a value starts with.
- `Reads`: a text is read as a value, whatever follows that may.
- `Quotes`: a text in quotes, which stands for a value or names a member.
- `readItems_texts`, `readMembers_texts`: the texts of items and members, up to the closing bracket.
- `text?_reads`: **a value that a document can hold has a text, which is read back**.
- `readWithin_line?`: the same for a whole document.
- `text?_append_inj`: **the text of a value can be told from what follows it**.
-/

namespace LayeredLint.Json

/-! ## First characters -/

/-- What the text of a value starts with. -/
def Opens (c : Char) : Prop :=
  c ∈ ['"', '[', '\x7b', '-', 'n', 't', 'f'] ∨ c.isDigit = true

instance : DecidablePred Opens := fun c =>
  inferInstanceAs (Decidable (c ∈ ['"', '[', '\x7b', '-', 'n', 't', 'f'] ∨ c.isDigit = true))

theorem Opens.ne {c d : Char} (h : Opens c) (hd : ¬Opens d) : c ≠ d := by
  rintro rfl
  exact hd h

/-- Nothing is skipped before a value. -/
theorem Opens.skipSpace {c : Char} (h : Opens c) (rest : List Char) :
    skipSpace (c :: rest) = c :: rest := by
  have hspace : isSpace c = false := by
    simp [isSpace, @Opens.ne c ' ' h (by decide), @Opens.ne c '\t' h (by decide),
      @Opens.ne c '\n' h (by decide), @Opens.ne c '\r' h (by decide)]
  rw [Json.skipSpace, List.dropWhile_cons_of_neg (by rw [hspace]; exact Bool.false_ne_true)]

/-- An integer starts with a digit, or with a sign and a digit. -/
theorem exists_digit_intText (n : Int) :
    ∃ d ds, d.isDigit = true ∧ (intText n = d :: ds ∨ intText n = '-' :: d :: ds) := by
  obtain ⟨d, ds, hdigits⟩ := List.exists_cons_of_ne_nil (@Nat.toDigits_ne_nil n.natAbs 10)
  refine ⟨d, ds, isDigit_of_mem_toDigits (hdigits ▸ List.mem_cons_self), ?_⟩
  rw [intText, hdigits]
  split
  · exact .inr rfl
  · exact .inl rfl

theorem exists_start_intText (n : Int) :
    ∃ c cs, intText n = c :: cs ∧ (c = '-' ∨ c.isDigit = true) := by
  obtain ⟨d, ds, hd, htext | htext⟩ := exists_digit_intText n
  · exact ⟨d, ds, htext, .inr hd⟩
  · exact ⟨'-', d :: ds, htext, .inl rfl⟩

/-- A text, a comma with a blank, and further texts. -/
theorem intercalate_cons (text text' : List Char) (texts : List (List Char)) :
    [',', ' '].intercalate (text :: text' :: texts) =
      text ++ ',' :: ' ' :: [',', ' '].intercalate (text' :: texts) := by
  rw [List.intercalate_cons_cons, List.append_assoc]
  rfl

/-- Texts with commas between them start as the first one does. -/
theorem exists_intercalate_cons (c : Char) (cs : List Char) (texts : List (List Char)) :
    ∃ more, [',', ' '].intercalate ((c :: cs) :: texts) = c :: more := by
  cases texts with
  | nil => exact ⟨cs, List.intercalate_singleton⟩
  | cons text texts => exact ⟨_, intercalate_cons (c :: cs) text texts⟩

theorem ended_nil : Ended [] :=
  fun _ h => nomatch h

theorem ended_of_mem {c : Char} (h : c ∈ [',', ' ', ']', '\x7d']) (rest : List Char) :
    Ended (c :: rest) := by
  intro d hd
  cases hd
  exact h

/-! ## Reading one value -/

/-- A text is read as a value, whatever follows it that may, unless the value is nested too deeply.
Integers may have `digits` digits. -/
structure Reads (digits : Nat) (v : Value) (text : List Char) : Prop where
  opens : ∃ c cs, text = c :: cs ∧ Opens c
  reads : ∀ {depth fuel : Nat} {rest : List Char}, v.nesting ≤ depth → 2 * text.length ≤ fuel →
    Ended rest → readValue digits depth fuel (text ++ rest) = .ok (v.plain, rest)

namespace Reads

variable {digits : Nat} {v : Value} {text : List Char}

theorem skipSpace (h : Reads digits v text) (rest : List Char) :
    skipSpace (text ++ rest) = text ++ rest := by
  obtain ⟨c, cs, rfl, hc⟩ := h.opens
  exact hc.skipSpace (cs ++ rest)

/-- Nothing is skipped before texts with commas between them. -/
theorem skipSpace_intercalate (h : Reads digits v text) (texts : List (List Char))
    (rest : List Char) :
    Json.skipSpace ([',', ' '].intercalate (text :: texts) ++ rest) =
      [',', ' '].intercalate (text :: texts) ++ rest := by
  obtain ⟨c, cs, rfl, hc⟩ := h.opens
  obtain ⟨more, hmore⟩ := exists_intercalate_cons c cs texts
  rw [hmore]
  exact hc.skipSpace (more ++ rest)

/-- A text of which one step of the reader makes the value. -/
theorem of_step {c : Char} {cs : List Char} (hc : Opens c)
    (h : ∀ {depth fuel : Nat} {rest : List Char}, Ended rest →
      readValue digits depth (fuel + 1) (c :: (cs ++ rest)) = .ok (v.plain, rest)) :
    Reads digits v (c :: cs) where
  opens := ⟨c, cs, rfl, hc⟩
  reads := by
    intro depth fuel rest _ hfuel hrest
    rw [List.length_cons] at hfuel
    obtain ⟨less, rfl⟩ : ∃ less, fuel = less + 1 := ⟨fuel - 1, by omega⟩
    exact h hrest

end Reads

theorem reads_null (digits : Nat) : Reads digits .null "null".toList :=
  Reads.of_step (by decide) fun _ => rfl

theorem reads_bool (digits : Nat) (b : Bool) : Reads digits (.bool b) (boolText b) := by
  cases b
  · exact @Reads.of_step digits (.bool false) 'f' ['a', 'l', 's', 'e'] (by decide) fun _ => rfl
  · exact @Reads.of_step digits (.bool true) 't' ['r', 'u', 'e'] (by decide) fun _ => rfl

/-- A text in quotes is read as what comes back for a value, given what follows its opening quote. -/
def Quotes (v : Value) (text : List Char) : Prop :=
  ∃ body, text = '"' :: (body ++ ['"']) ∧
    ∀ after, readString (body ++ '"' :: after) = .ok (v.plain, after)

theorem Quotes.reads {v : Value} {text : List Char} (h : Quotes v text) (digits : Nat) :
    Reads digits v text := by
  obtain ⟨body, rfl, hbody⟩ := h
  refine Reads.of_step (by decide) fun {depth fuel rest} _ => ?_
  show readString (body ++ ['"'] ++ rest) = _
  rw [List.append_assoc]
  exact hbody rest

theorem quotes_str (s : String) : Quotes (.str s) (stringText s) :=
  ⟨_, rfl, fun after => readString_body s after⟩

theorem quotes_severity (s : Severity) : Quotes (.severity s) (stringText s.word) :=
  ⟨_, rfl, fun after => readString_body s.word after⟩

theorem quotes_brokenText {points : List Nat} (h : Value.LoneHalves points) :
    Quotes (.brokenText points) (pointsText points) := by
  refine ⟨_, rfl, fun after => ?_⟩
  rw [readString_points h.1 h.2.2, h.ofPoints]
  rfl

/-- A text is in quotes as the name of a member, too. -/
theorem keyText?_quotes {k : Value} (h : k.IsText) : ∃ name, keyText? k = some name ∧
    Quotes k name := by
  cases k with
  | str s => exact ⟨_, rfl, quotes_str s⟩
  | severity s => exact ⟨_, rfl, quotes_severity s⟩
  | brokenText points => exact ⟨_, rfl, quotes_brokenText h.2⟩
  | _ => cases h.1

/-- No word is the beginning of an integer. -/
theorem readWord?_intText (n : Int) (rest : List Char) : readWord? (intText n ++ rest) = none := by
  obtain ⟨d, ds, hd, htext⟩ := exists_digit_intText n
  have hne : ∀ c : Char, c.isDigit = false → c ≠ d := by
    rintro c hc rfl
    rw [hd] at hc
    cases hc
  rcases htext with htext | htext
  · simp [htext, readWord?, hne 'n' rfl, hne 't' rfl, hne 'f' rfl, hne 'N' rfl, hne 'I' rfl,
      hne '-' rfl]
  · simp [htext, readWord?, hne 'I' rfl]

/-- Where an integer stands, neither a text nor brackets nor a word is read, but a number. -/
theorem readValue_intText (digits depth fuel : Nat) (n : Int) (rest : List Char) :
    readValue digits depth (fuel + 1) (intText n ++ rest) =
      readNumber digits (intText n ++ rest) := by
  have hword := readWord?_intText n rest
  obtain ⟨c, cs, htext, hc⟩ := exists_start_intText n
  have hbracket : c ≠ '"' ∧ c ≠ '[' ∧ c ≠ '\x7b' := by
    refine ⟨?_, ?_, ?_⟩ <;> rintro rfl <;> revert hc <;> decide
  rw [htext, List.cons_append] at hword ⊢
  unfold readValue
  rw [if_neg hbracket.1, if_neg (not_or.2 hbracket.2)]
  simp only [hword]

theorem reads_int {digits : Nat} {n : Int}
    (h : (Nat.toDigits 10 n.natAbs).length ≤ digits) : Reads digits (.int n) (intText n) := by
  obtain ⟨c, cs, htext, hc⟩ := exists_start_intText n
  have hopens : Opens c := hc.imp_left (by rintro rfl; decide)
  rw [htext]
  refine Reads.of_step hopens fun {depth fuel rest} hrest => ?_
  have hread := readValue_intText digits depth fuel n rest
  rw [htext, List.cons_append] at hread
  rw [hread, ← List.cons_append, ← htext, readNumber_intText digits n hrest,
    if_neg (Nat.not_lt.2 h)]
  rfl

/-! ## Reading items and members -/

section Steps

variable {digits depth fuel : Nat} {cs more after : List Char} {v : Value}

theorem readItems_last (hv : readValue digits depth fuel cs = .ok (v, ']' :: after)) :
    readItems digits depth (fuel + 1) cs = .ok ([v], after) := by
  unfold readItems
  rw [hv]
  rfl

theorem readItems_next {vs : List Value}
    (hv : readValue digits depth fuel cs = .ok (v, ',' :: ' ' :: more))
    (hskip : skipSpace more = more) (hmore : readItems digits depth fuel more = .ok (vs, after)) :
    readItems digits depth (fuel + 1) cs = .ok (v :: vs, after) := by
  have hspace : skipSpace (' ' :: more) = more := hskip
  unfold readItems
  rw [hv]
  show (readItems digits depth fuel (skipSpace (' ' :: more)) >>= _) = _
  rw [hspace, hmore]
  rfl

theorem readMembers_last {name : Value} {body : List Char}
    (hbody : readString body = .ok (name, ':' :: ' ' :: cs)) (hskip : skipSpace cs = cs)
    (hv : readValue digits depth fuel cs = .ok (v, '\x7d' :: after)) :
    readMembers digits depth (fuel + 1) ('"' :: body) = .ok ([(name, v)], after) := by
  have hspace : skipSpace (' ' :: cs) = cs := hskip
  unfold readMembers
  show (readString body >>= _) = _
  rw [hbody]
  show (readValue digits depth fuel (skipSpace (' ' :: cs)) >>= _) = _
  rw [hspace, hv]
  rfl

theorem readMembers_next {name : Value} {body : List Char} {members : List (Value × Value)}
    (hbody : readString body = .ok (name, ':' :: ' ' :: cs)) (hskip : skipSpace cs = cs)
    (hv : readValue digits depth fuel cs = .ok (v, ',' :: ' ' :: '"' :: more))
    (hmore : readMembers digits depth fuel ('"' :: more) = .ok (members, after)) :
    readMembers digits depth (fuel + 1) ('"' :: body) = .ok ((name, v) :: members, after) := by
  have hspace : skipSpace (' ' :: cs) = cs := hskip
  unfold readMembers
  show (readString body >>= _) = _
  rw [hbody]
  show (readValue digits depth fuel (skipSpace (' ' :: cs)) >>= _) = _
  rw [hspace, hv]
  show (readMembers digits depth fuel ('"' :: more) >>= _) = _
  rw [hmore]
  rfl

/-- Behind the opening bracket the items are read. -/
theorem readValue_bracket {c : Char} (hc : Opens c) (cs : List Char) :
    readValue digits (depth + 1) (fuel + 1) ('[' :: c :: cs) = (do
      let (items, after) ← readItems digits depth fuel (c :: cs)
      return (.list items, after)) := by
  have hclose : c ≠ ']' := hc.ne (by decide)
  unfold readValue
  rw [if_neg (by decide), if_pos (by decide), if_neg (Nat.succ_ne_zero depth), hc.skipSpace]
  split
  · next h => injection h with h; exact absurd h hclose
  · rw [Nat.add_sub_cancel]
  · next hbracket => exact absurd rfl hbracket
  · next hbracket _ _ => exact absurd rfl hbracket

theorem readValue_items {c : Char} {vs : List Value} (hc : Opens c)
    (hitems : readItems digits depth fuel (c :: cs) = .ok (vs, after)) :
    readValue digits (depth + 1) (fuel + 1) ('[' :: c :: cs) = .ok (.list vs, after) := by
  rw [readValue_bracket hc, hitems]
  rfl

theorem readValue_members {members : List (Value × Value)}
    (hmembers : readMembers digits depth fuel ('"' :: cs) = .ok (members, after)) :
    readValue digits (depth + 1) (fuel + 1) ('\x7b' :: '"' :: cs) =
      .ok (Value.ofEntries members, after) := by
  show (readMembers digits depth fuel ('"' :: cs) >>= _) = _
  rw [hmembers]
  rfl

end Steps

/-- The texts of items are read up to the closing bracket. -/
theorem readItems_texts {digits depth fuel : Nat} {items : List Value} {texts : List (List Char)}
    {rest : List Char} (h : List.Forall₂ (Reads digits) items texts) (hne : items ≠ [])
    (hdepth : ∀ v ∈ items, v.nesting ≤ depth)
    (hfuel : 2 * ([',', ' '].intercalate texts).length + 3 ≤ fuel) :
    readItems digits depth fuel ([',', ' '].intercalate texts ++ ']' :: rest) =
      .ok (Value.plainItems items, rest) := by
  -- induction on the items; a step takes one unit of fuel for the list, and the text of an item has
  -- at least a character, so the fuel that is left is enough for the others
  induction h generalizing fuel with
  | nil => exact absurd rfl hne
  | @cons v text items texts hv htexts ih =>
    rw [List.forall_mem_cons] at hdepth
    obtain ⟨fuel, rfl⟩ : ∃ less, fuel = less + 1 := ⟨fuel - 1, by omega⟩
    cases htexts with
    | nil =>
      rw [List.intercalate_singleton] at hfuel ⊢
      exact readItems_last (hv.reads hdepth.1 (by omega) (ended_of_mem (by decide) rest))
    | @cons w text' items texts hw htexts =>
      have hskip := hw.skipSpace_intercalate texts (']' :: rest)
      rw [intercalate_cons] at hfuel ⊢
      rw [List.length_append, List.length_cons, List.length_cons] at hfuel
      rw [List.append_assoc, List.cons_append, List.cons_append]
      have hmore := @ih fuel (List.cons_ne_nil _ _) hdepth.2 (by omega)
      exact readItems_next (hv.reads hdepth.1 (by omega) (ended_of_mem (by decide) _)) hskip hmore

/-- A member is written as its name in quotes, a colon and a text that is read as its value. -/
def MemberReads (digits : Nat) (e : Value × Value) (text : List Char) : Prop :=
  ∃ name value, Quotes e.1 name ∧ text = name ++ ':' :: ' ' :: value ∧ Reads digits e.2 value

/-- A member starts with the quote of its name. -/
theorem MemberReads.exists_cons {digits : Nat} {e : Value × Value} {text : List Char}
    (h : MemberReads digits e text) : ∃ cs, text = '"' :: cs := by
  obtain ⟨name, value, ⟨body, rfl, -⟩, rfl, -⟩ := h
  exact ⟨_, rfl⟩

/-- The texts of members are read up to the closing brace. -/
theorem readMembers_texts {digits depth fuel : Nat} {entries : List (Value × Value)}
    {texts : List (List Char)} {rest : List Char}
    (h : List.Forall₂ (MemberReads digits) entries texts) (hne : entries ≠ [])
    (hdepth : ∀ e ∈ entries, e.2.nesting ≤ depth)
    (hfuel : 2 * ([',', ' '].intercalate texts).length + 3 ≤ fuel) :
    readMembers digits depth fuel ([',', ' '].intercalate texts ++ '\x7d' :: rest) =
      .ok (Value.plainMembers entries, rest) := by
  -- as for items, with the name and the colon read first
  induction h generalizing fuel with
  | nil => exact absurd rfl hne
  | @cons e text entries texts he htexts ih =>
    rw [List.forall_mem_cons] at hdepth
    obtain ⟨fuel, rfl⟩ : ∃ less, fuel = less + 1 := ⟨fuel - 1, by omega⟩
    obtain ⟨name, value, ⟨body, rfl, hbody⟩, rfl, hv⟩ := he
    rw [Value.plainMembers]
    cases htexts with
    | nil =>
      rw [List.intercalate_singleton] at hfuel ⊢
      simp only [List.length_append, List.length_cons] at hfuel
      simp only [List.cons_append, List.append_assoc, List.nil_append]
      exact readMembers_last (hbody _) (hv.skipSpace _)
        (hv.reads hdepth.1 (by omega) (ended_of_mem (by decide) rest))
    | @cons e' text' entries texts he' htexts =>
      obtain ⟨cs, rfl⟩ := he'.exists_cons
      obtain ⟨more, hcons⟩ := exists_intercalate_cons '"' cs texts
      have hmore := @ih fuel (List.cons_ne_nil _ _) hdepth.2
      rw [intercalate_cons] at hfuel ⊢
      rw [hcons] at hmore hfuel ⊢
      simp only [List.length_append, List.length_cons, List.cons_append, List.append_assoc,
        List.nil_append] at hmore hfuel ⊢
      exact readMembers_next (hbody _) (hv.skipSpace _)
        (hv.reads hdepth.1 (by omega) (ended_of_mem (by decide) _)) (hmore (by omega))

/-- Brackets on one line stand around the items with commas between them. -/
theorem enclose_oneLine (level : Nat) (opening closing : Char) (texts : List (List Char)) :
    enclose oneLine level opening closing texts =
      opening :: ([',', ' '].intercalate texts ++ [closing]) := by
  cases texts with
  | nil => rfl
  | cons text texts =>
    simp only [enclose, oneLine, List.append_nil, List.cons_append, List.nil_append]

/-- The texts of items in brackets are read as a list. -/
theorem reads_items {digits : Nat} {v : Value} {items : List Value} {texts : List (List Char)}
    (hplain : v.plain = .list (Value.plainItems items))
    (hnesting : v.nesting = Value.nestingItems items + 1)
    (h : List.Forall₂ (Reads digits) items texts) (level : Nat) :
    Reads digits v (enclose oneLine level '[' ']' texts) := by
  cases h with
  | nil =>
    refine ⟨⟨'[', [']'], rfl, by decide⟩, fun {depth fuel rest} hdepth hfuel _ => ?_⟩
    obtain ⟨fuel, rfl⟩ : ∃ less, fuel = less + 1 := ⟨fuel - 1, by simp [enclose] at hfuel; omega⟩
    obtain ⟨depth, rfl⟩ : ∃ less, depth = less + 1 := ⟨depth - 1, by omega⟩
    rw [hplain]
    rfl
  | @cons w text items texts hw htexts =>
    rw [enclose_oneLine]
    refine ⟨⟨'[', _, rfl, by decide⟩, fun {depth fuel rest} hdepth hfuel _ => ?_⟩
    rw [hnesting] at hdepth
    rw [List.length_cons, List.length_append, List.length_singleton] at hfuel
    obtain ⟨fuel, rfl⟩ : ∃ less, fuel = less + 1 := ⟨fuel - 1, by omega⟩
    obtain ⟨depth, rfl⟩ : ∃ less, depth = less + 1 := ⟨depth - 1, by omega⟩
    have hitems := @readItems_texts digits depth fuel _ _ rest (.cons hw htexts)
      (List.cons_ne_nil _ _) (Value.nestingItems_le_iff.1 (Nat.le_of_succ_le_succ hdepth))
      (by omega)
    obtain ⟨c, cs, rfl, hc⟩ := hw.opens
    obtain ⟨more, hmore⟩ := exists_intercalate_cons c cs texts
    rw [hmore] at hitems ⊢
    rw [hplain, List.cons_append, List.append_assoc, List.cons_append, List.singleton_append]
    exact readValue_items hc hitems

/-- The texts of members in braces are read as a table with one entry for each key. -/
theorem reads_members {digits : Nat} {entries : List (Value × Value)} {texts : List (List Char)}
    (hdistinct : Entries.Distinct (Value.plainMembers entries))
    (h : List.Forall₂ (MemberReads digits) entries texts) (level : Nat) :
    Reads digits (.dict entries) (enclose oneLine level '\x7b' '\x7d' texts) := by
  cases h with
  | nil =>
    refine ⟨⟨'\x7b', ['\x7d'], rfl, by decide⟩, fun {depth fuel rest} hdepth hfuel _ => ?_⟩
    obtain ⟨fuel, rfl⟩ : ∃ less, fuel = less + 1 := ⟨fuel - 1, by simp [enclose] at hfuel; omega⟩
    obtain ⟨depth, rfl⟩ : ∃ less, depth = less + 1 := by
      rw [Value.nesting] at hdepth
      exact ⟨depth - 1, by omega⟩
    rfl
  | @cons e text entries texts he htexts =>
    rw [enclose_oneLine]
    refine ⟨⟨'\x7b', _, rfl, by decide⟩, fun {depth fuel rest} hdepth hfuel _ => ?_⟩
    rw [Value.nesting] at hdepth
    rw [List.length_cons, List.length_append, List.length_singleton] at hfuel
    obtain ⟨fuel, rfl⟩ : ∃ less, fuel = less + 1 := ⟨fuel - 1, by omega⟩
    obtain ⟨depth, rfl⟩ : ∃ less, depth = less + 1 := ⟨depth - 1, by omega⟩
    have hmembers := @readMembers_texts digits depth fuel _ _ rest (.cons he htexts)
      (List.cons_ne_nil _ _) (Value.nestingMembers_le_iff.1 (Nat.le_of_succ_le_succ hdepth))
      (by omega)
    obtain ⟨cs, rfl⟩ := he.exists_cons
    obtain ⟨more, hmore⟩ := exists_intercalate_cons '"' cs texts
    -- no key comes twice, so the reader's table keeps every member in its place
    have htable : Value.ofEntries (Value.plainMembers (e :: entries)) =
        (Value.dict (e :: entries)).plain :=
      congrArg Value.dict (Entries.union_eq_append hdistinct)
    rw [← htable]
    rw [hmore] at hmembers ⊢
    simp only [List.cons_append, List.append_assoc, List.nil_append] at hmembers ⊢
    exact readValue_members hmembers

/-! ## Printing and reading a value -/

mutual

/-- **A value that a document can hold has a text, which is read back.** -/
theorem text?_reads {digits : Nat} : ∀ {v : Value} (level : Nat),
    v.Throughout (Value.Readable digits) →
      ∃ text, text? oneLine level v = some text ∧ Reads digits v text
  | .null, _, _ => ⟨_, rfl, reads_null digits⟩
  | .bool b, _, _ => ⟨_, rfl, reads_bool digits b⟩
  | .int _, _, h => ⟨_, rfl, reads_int h.self.2⟩
  | .str s, _, _ => ⟨_, rfl, (quotes_str s).reads digits⟩
  | .severity s, _, _ => ⟨_, rfl, (quotes_severity s).reads digits⟩
  | .brokenText _, _, h => ⟨_, rfl, (quotes_brokenText h.self.1).reads digits⟩
  | .list items, level, h => by
    obtain ⟨texts, htexts, hreads⟩ := itemTexts?_reads (level + 1) (Value.throughout_list.1 h).2
    exact ⟨_, by rw [text?, htexts]; rfl, reads_items rfl rfl hreads level⟩
  | .tuple items, level, h => by
    obtain ⟨texts, htexts, hreads⟩ := itemTexts?_reads (level + 1) (Value.throughout_tuple.1 h).2
    exact ⟨_, by rw [text?, htexts]; rfl, reads_items rfl rfl hreads level⟩
  | .dict entries, level, h => by
    obtain ⟨⟨⟨hkeys, hdistinct⟩, -⟩, hvalues⟩ := Value.throughout_dict.1 h
    obtain ⟨texts, htexts, hreads⟩ := memberTexts?_reads (level + 1) hkeys hvalues
    exact ⟨_, by rw [text?, htexts]; rfl,
      reads_members (Value.distinct_plainMembers hkeys hdistinct) hreads level⟩
  | .float _, _, h | .bytes _, _, h | .setting .., _, h | .module _, _, h | .handle _, _, h
  | .language .., _, h | .moment _, _, h => h.self.1.elim

theorem itemTexts?_reads {digits : Nat} : ∀ {items : List Value} (level : Nat),
    (∀ v ∈ items, v.Throughout (Value.Readable digits)) →
      ∃ texts, itemTexts? oneLine level items = some texts ∧
        List.Forall₂ (Reads digits) items texts
  | [], _, _ => ⟨[], rfl, .nil⟩
  | v :: rest, level, h => by
    rw [List.forall_mem_cons] at h
    obtain ⟨text, htext, hread⟩ := text?_reads level h.1
    obtain ⟨texts, htexts, hreads⟩ := itemTexts?_reads level h.2
    exact ⟨text :: texts, by rw [itemTexts?, htext, htexts]; rfl, .cons hread hreads⟩

theorem memberTexts?_reads {digits : Nat} : ∀ {entries : List (Value × Value)} (level : Nat),
    (∀ e ∈ entries, e.1.IsText) →
      (∀ e ∈ entries, e.2.Throughout (Value.Readable digits)) →
        ∃ texts, memberTexts? oneLine level entries = some texts ∧
          List.Forall₂ (MemberReads digits) entries texts
  | [], _, _, _ => ⟨[], rfl, .nil⟩
  | (k, v) :: rest, level, hkeys, hvalues => by
    rw [List.forall_mem_cons] at hkeys hvalues
    obtain ⟨name, hname, hquotes⟩ := keyText?_quotes hkeys.1
    obtain ⟨text, htext, hread⟩ := text?_reads level hvalues.1
    obtain ⟨texts, htexts, hreads⟩ := memberTexts?_reads level hkeys.2 hvalues.2
    refine ⟨(name ++ ':' :: ' ' :: text) :: texts, ?_,
      .cons ⟨name, text, hquotes, rfl, hread⟩ hreads⟩
    rw [memberTexts?, hname, htext, htexts]
    rfl

end

/-! ## Documents -/

/-- **A whole document is read back**, where it may be nested as deeply as the value is. -/
theorem readWithin_line? {digits : Nat} {v : Value} (h : v.Throughout (Value.Readable digits)) :
    ∃ text, line? v = some text ∧
      ∀ depth, v.nesting ≤ depth → readWithin ⟨depth, digits⟩ text = .ok v.plain := by
  obtain ⟨text, htext, hread⟩ := text?_reads 0 h
  refine ⟨String.ofList text, by rw [line?, htext]; rfl, fun depth hdepth => ?_⟩
  obtain ⟨c, cs, rfl, hc⟩ := hread.opens
  have hfuel : 2 * (c :: cs).length ≤ 2 * (c :: cs).length + 2 := by omega
  have hvalue := hread.reads hdepth hfuel ended_nil
  rw [List.append_nil] at hvalue
  unfold readWithin
  simp only [String.toList_ofList]
  split
  · next h =>
    injection h with hmark
    exact absurd hmark (hc.ne (by decide))
  · rw [hc.skipSpace, hvalue]
    rfl

/-- A text in quotes is read back as the text. -/
theorem read_stringText (s : String) : read (String.ofList (stringText s)) = .ok (.str s) := by
  have hreadable : (Value.str s).Throughout (Value.Readable Text.digitLimit) :=
    .of_leaf rfl ⟨trivial, Nat.zero_le _⟩
  obtain ⟨text, htext, hread⟩ := readWithin_line? hreadable
  cases htext
  exact hread _ (Nat.zero_le _)

/-! ## Texts that start alike -/

/-- Two texts that are written alike are the same text, and so is what follows them. -/
theorem stringText_append_inj {s s' : String} {rest rest' : List Char}
    (h : stringText s ++ rest = stringText s' ++ rest') : s = s' ∧ rest = rest' := by
  simp only [stringText, List.cons_append, List.append_assoc, List.nil_append] at h
  injection h with _ h
  have hs := readString_body s rest
  rw [h, readString_body s' rest'] at hs
  injection hs with hs
  injection hs with hs hrest
  injection hs with hs
  exact ⟨hs.symm, hrest.symm⟩

/-- Some reader takes integers as long as those of two given values. -/
theorem exists_readable {v w : Value} (hv : v.IsJson) (hw : w.IsJson) :
    ∃ digits, v.Throughout (Value.Readable digits) ∧ w.Throughout (Value.Readable digits) := by
  obtain ⟨digits, hdigits⟩ : ∃ digits, ∀ part ∈ v.contents ++ w.contents,
      part.digitCount ≤ digits :=
    ⟨_, fun part hp => List.le_sum_of_mem (List.mem_map_of_mem hp)⟩
  exact ⟨digits, fun part hp => ⟨hv part hp, hdigits part (List.mem_append_left _ hp)⟩,
    fun part hp => ⟨hw part hp, hdigits part (List.mem_append_right _ hp)⟩⟩

/-- **The text of a value can be told from what follows it**, and it stands for one value only. -/
theorem text?_append_inj {v w : Value} {text text' rest rest' : List Char} (hv : v.IsJson)
    (hw : w.IsJson) (htext : text? oneLine 0 v = some text)
    (htext' : text? oneLine 0 w = some text') (hrest : Ended rest) (hrest' : Ended rest')
    (h : text ++ rest = text' ++ rest') : v.plain = w.plain ∧ text = text' ∧ rest = rest' := by
  obtain ⟨digits, hv, hw⟩ := exists_readable hv hw
  obtain ⟨_, hsome, hread⟩ := text?_reads 0 hv
  cases htext.symm.trans hsome
  obtain ⟨_, hsome', hread'⟩ := text?_reads 0 hw
  cases htext'.symm.trans hsome'
  -- both are read within the same limits, so the same is read
  have hvalue := @hread.reads (v.nesting + w.nesting) (2 * text.length + 2 * text'.length) rest
    (by omega) (by omega) hrest
  have hvalue' := @hread'.reads (v.nesting + w.nesting) (2 * text.length + 2 * text'.length) rest'
    (by omega) (by omega) hrest'
  rw [h, hvalue'] at hvalue
  injection hvalue with hvalue
  injection hvalue with hplain htail
  rw [htail] at h
  exact ⟨hplain.symm, List.append_cancel_right h, htail.symm⟩

end LayeredLint.Json
