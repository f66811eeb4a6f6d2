import LayeredLint.FlatConfig
import LayeredLint.Proofs.Json.OneLine

/-!
# Objects in a text

An object is spelled with its members in braces, each with a name, a colon and the text of a value. It
is read without a look at how it was spelled: its members are told by the commas that stand outside of
quotes and of further brackets, and the name of a member by the colon that does.

- `objectText`: an object, spelled.
- `Place.next`, `cut`: how a reader goes through a text, and the pieces that it finds there.
- `readObject?`: the members that are read off a text.
- `Passed`: a reader passes over a text as a whole; `passed_lineText` says so of texts on one line.
- `readObject?_objectText`: **the members of an object are read off its text**, where a reader passes
  over their names and values.
-/

namespace LayeredLint

/-- An object with its members, character by character. -/
def objectText (members : List Member) : String :=
  "\x7b " ++ String.intercalate ", " (members.map fun m => m.1 ++ ": " ++ m.2) ++ " \x7d"

/-! ## Reading -/

/-- Where a reader of a text is: outside of quotes, within quotes, or behind a backslash there, and
how many brackets are open. -/
inductive Place where
  | outside (depth : Nat)
  | quoted (depth : Nat)
  | escaped (depth : Nat)
  deriving DecidableEq

/-- Where a reader is behind the next character. -/
def Place.next : Place → Char → Place
  | .outside depth, c =>
    if c = '"' then .quoted depth
    else if c = '[' ∨ c = '\x7b' then .outside (depth + 1)
    else if c = ']' ∨ c = '\x7d' then .outside (depth - 1)
    else .outside depth
  | .quoted depth, c =>
    if c = '\\' then .escaped depth
    else if c = '"' then .outside depth
    else .quoted depth
  | .escaped depth, _ => .quoted depth

/-- The pieces of a text between the separators outside of quotes and brackets. -/
def cut (sep : Char) : Place → List Char → List (List Char)
  | _, [] => [[]]
  | place, c :: rest =>
    if place = .outside 0 ∧ c = sep then [] :: cut sep place rest
    else (cut sep (place.next c) rest).modifyHead (c :: ·)

/-- A member: a blank and its name, and behind a colon a blank and the text of its value. -/
def memberOf? (piece : List Char) : Option Member :=
  match cut ':' (.outside 0) piece with
  | [' ' :: name, ' ' :: value] => some (String.ofList name, String.ofList value)
  | _ => none

/-- The members of an object, read off its text: between the braces, with commas between them. -/
def readObject? (text : String) : Option (List Member) :=
  let inside := text.toList.tail.dropLast.dropLast
  if text.toList ≠ '\x7b' :: (inside ++ [' ', '\x7d']) then none
  else if inside = [' '] then some []
  else (cut ',' (.outside 0) inside).mapM memberOf?

/-! ## Texts that are passed over -/

/-- A reader that looks for a separator passes over a text as a whole, where at least so many brackets
are open. -/
def Passed (sep : Char) (least : Nat) (text : List Char) : Prop :=
  ∀ depth, least ≤ depth → ∀ rest, cut sep (.outside depth) (text ++ rest) =
    (cut sep (.outside depth) rest).modifyHead (text ++ ·)

/-- A character that is no separator where the reader is, is part of a piece. -/
theorem cut_cons {sep c : Char} {place : Place} (h : ¬(place = .outside 0 ∧ c = sep))
    (rest : List Char) :
    cut sep place (c :: rest) = (cut sep (place.next c) rest).modifyHead (c :: ·) := by
  rw [cut, if_neg h]

section Passed

variable {sep : Char} {least : Nat}

theorem passed_nil : Passed sep least [] := by
  intro depth _ rest
  rw [List.nil_append]
  cases cut sep (.outside depth) rest <;> rfl

theorem Passed.append {text text' : List Char} (h : Passed sep least text)
    (h' : Passed sep least text') : Passed sep least (text ++ text') := by
  intro depth hdepth rest
  rw [List.append_assoc, h depth hdepth, h' depth hdepth, List.modifyHead_modifyHead]
  simp only [Function.comp_def, List.append_assoc]

theorem Passed.mono {text : List Char} (h : Passed sep 0 text) : Passed sep least text :=
  fun depth _ rest => h depth (Nat.zero_le depth) rest

/-- A character that opens and closes nothing is passed over where it is no separator. -/
theorem passed_singleton {c : Char} (hc : c ∉ ['"', '[', '\x7b', ']', '\x7d'])
    (hsep : c = sep → 0 < least) : Passed sep least [c] := by
  intro depth hdepth rest
  have hplace : ¬(Place.outside depth = .outside 0 ∧ c = sep) := by
    rintro ⟨hzero, heq⟩
    cases hzero
    exact absurd (hsep heq) (Nat.not_lt.2 hdepth)
  have hnext : (Place.outside depth).next c = .outside depth := by
    simp only [List.mem_cons, List.not_mem_nil, or_false, not_or] at hc
    simp [Place.next, hc]
  rw [List.singleton_append, cut_cons hplace, hnext]
  rfl

theorem Passed.cons {c : Char} {text : List Char} (hc : c ∉ ['"', '[', '\x7b', ']', '\x7d'])
    (hsep : c = sep → 0 < least) (h : Passed sep least text) : Passed sep least (c :: text) :=
  (passed_singleton hc hsep).append h

theorem Passed.cons_of_ne {c : Char} {text : List Char} (hc : c ∉ ['"', '[', '\x7b', ']', '\x7d'])
    (hne : c ≠ sep) (h : Passed sep least text) : Passed sep least (c :: text) :=
  .cons hc (fun heq => absurd heq hne) h

/-- A text in which nothing opens or closes, nor separates, is passed over. -/
theorem passed_of_forall {text : List Char}
    (h : ∀ c ∈ text, c ∉ ['"', '[', '\x7b', ']', '\x7d'] ∧ c ≠ sep) : Passed sep 0 text := by
  induction text with
  | nil => exact passed_nil
  | cons c rest ih =>
    rw [List.forall_mem_cons] at h
    exact .cons_of_ne h.1.1 h.1.2 (ih h.2)

/-! ### Quotes and brackets -/

/-- What stands between quotes is passed over with the closing quote. -/
theorem cut_body {body : List Char} (h : Json.Body body) (depth : Nat) (rest : List Char) :
    cut sep (.quoted depth) (body ++ '"' :: rest) =
      (cut sep (.outside depth) rest).modifyHead (body ++ '"' :: ·) := by
  have inside : ∀ c, ¬(Place.quoted depth = .outside 0 ∧ c = sep) := fun _ h => nomatch h.1
  have behind : ∀ c, ¬(Place.escaped depth = .outside 0 ∧ c = sep) := fun _ h => nomatch h.1
  induction h with
  | nil =>
    rw [List.nil_append, cut_cons (inside _)]
    rfl
  | @plain c body quote slash _ _ ih =>
    have hnext : (Place.quoted depth).next c = .quoted depth := by simp [Place.next, quote, slash]
    rw [List.cons_append, cut_cons (inside _), hnext, ih, List.modifyHead_modifyHead]
    rfl
  | @escape e body _ _ ih =>
    rw [List.cons_append, List.cons_append, cut_cons (inside _)]
    show ((cut sep (.escaped depth) (e :: (body ++ '"' :: rest))).modifyHead _) = _
    rw [cut_cons (behind _)]
    show ((cut sep (.quoted depth) (body ++ '"' :: rest)).modifyHead _).modifyHead _ = _
    rw [ih, List.modifyHead_modifyHead, List.modifyHead_modifyHead]
    rfl

/-- A separator is a comma or a colon. -/
theorem not_separator {c : Char} (hsep : sep ∈ [',', ':']) (hc : c ∉ [',', ':']) : c ≠ sep := by
  rintro rfl
  exact hc hsep

theorem passed_quoted (hsep : sep ∈ [',', ':']) {body : List Char} (h : Json.Body body) :
    Passed sep 0 ('"' :: (body ++ ['"'])) := by
  intro depth _ rest
  have hplace : ¬(Place.outside depth = .outside 0 ∧ '"' = sep) :=
    fun h => not_separator hsep (by decide) h.2
  rw [List.cons_append, List.append_assoc, cut_cons hplace]
  show (cut sep (.quoted depth) (body ++ '"' :: rest)).modifyHead _ = _
  rw [cut_body h, List.modifyHead_modifyHead]
  simp only [Function.comp_def, List.cons_append, List.append_assoc, List.nil_append]

/-- What is passed over within brackets is passed over with them everywhere. -/
theorem passed_brackets {opening closing : Char} {text : List Char} (hsep : sep ∈ [',', ':'])
    (hbrackets : (opening, closing) ∈ [('[', ']'), ('\x7b', '\x7d')]) (h : Passed sep 1 text) :
    Passed sep 0 (opening :: (text ++ [closing])) := by
  intro depth _ rest
  have hopening : opening ∉ [',', ':'] ∧
      (Place.outside depth).next opening = .outside (depth + 1) := by
    rcases List.mem_pair.1 hbrackets with heq | heq <;> cases heq <;> exact ⟨by decide, rfl⟩
  have hclosing : (Place.outside (depth + 1)).next closing = .outside depth := by
    rcases List.mem_pair.1 hbrackets with heq | heq <;> cases heq <;> rfl
  have hplace : ¬(Place.outside depth = .outside 0 ∧ opening = sep) :=
    fun h => not_separator hsep hopening.1 h.2
  have hwithin : ¬(Place.outside (depth + 1) = .outside 0 ∧ closing = sep) :=
    fun h => nomatch h.1
  rw [List.cons_append, List.append_assoc, List.singleton_append, cut_cons hplace, hopening.2,
    h (depth + 1) (Nat.le_add_left 1 depth), cut_cons hwithin, hclosing, List.modifyHead_modifyHead,
    List.modifyHead_modifyHead]
  simp only [Function.comp_def, List.cons_append, List.append_assoc, List.nil_append]

/-- Texts with commas between them are passed over within brackets. -/
theorem passed_intercalate {texts : List (List Char)} (h : ∀ text ∈ texts, Passed sep 1 text) :
    Passed sep 1 ([',', ' '].intercalate texts) := by
  induction texts with
  | nil => exact passed_nil
  | cons text rest ih =>
    rw [List.forall_mem_cons] at h
    cases rest with
    | nil => simpa using h.1
    | cons text' rest =>
      rw [Json.intercalate_cons]
      exact h.1.append (.cons (by decide) (fun _ => Nat.one_pos)
        (.cons (by decide) (fun _ => Nat.one_pos) (ih h.2)))

/-- A name, a colon and a value are passed over within brackets. -/
theorem passed_member {name value : List Char} (hname : Passed sep 0 name)
    (hvalue : Passed sep 0 value) : Passed sep 1 (name ++ ':' :: ' ' :: value) :=
  hname.mono.append (.cons (by decide) (fun _ => Nat.one_pos)
    (.cons (by decide) (fun _ => Nat.one_pos) hvalue.mono))

theorem passed_bare (hsep : sep ∈ [',', ':']) {text : List Char} (h : Json.Bare text) :
    Passed sep 0 text :=
  passed_of_forall fun c hc => ⟨h.forall_not_mem rfl c hc,
    not_separator hsep (h.forall_not_mem rfl c hc)⟩

/-- **Texts on one line** are passed over as a whole. -/
theorem passed_lineText (hsep : sep ∈ [',', ':']) {text : List Char} (h : Json.LineText text) :
    Passed sep 0 text := by
  induction h with
  | bare h => exact passed_bare hsep h
  | quoted h => exact passed_quoted hsep h
  | items _ ih =>
    exact passed_brackets hsep (by decide) (passed_intercalate fun text ht => (ih text ht).mono)
  | members _ _ ihnames ihvalues =>
    exact passed_brackets hsep (by decide) (passed_intercalate (List.forall_mem_map.2 fun m hm =>
      passed_member (ihnames m hm) (ihvalues m hm)))

/-! ### Pieces -/

theorem Passed.cut_self {text : List Char} (h : Passed sep 0 text) :
    cut sep (.outside 0) text = [text] := by
  have hcut := h 0 (Nat.zero_le 0) []
  rw [List.append_nil] at hcut
  rw [hcut]
  simp [cut]

/-- A piece that is passed over ends at the separator behind it. -/
theorem Passed.cut_append_cons {text : List Char} (h : Passed sep 0 text) (rest : List Char) :
    cut sep (.outside 0) (text ++ sep :: rest) = text :: cut sep (.outside 0) rest := by
  rw [h 0 (Nat.zero_le 0), cut, if_pos ⟨rfl, rfl⟩, List.modifyHead_cons, List.append_nil]

end Passed

/-! ## Objects -/

/-- A member whose name and value a reader passes over. -/
def PassedMember (m : Member) : Prop :=
  ∀ sep ∈ [',', ':'], Passed sep 0 m.1.toList ∧ Passed sep 0 m.2.toList

/-- The piece of an object that spells a member. -/
def piece (m : Member) : List Char :=
  ' ' :: (m.1.toList ++ ':' :: ' ' :: m.2.toList)

/-- A blank behind each comma belongs to the text that follows. -/
theorem blank_intercalate (text : List Char) (texts : List (List Char)) :
    ' ' :: [',', ' '].intercalate (text :: texts) =
      [','].intercalate ((text :: texts).map (' ' :: ·)) := by
  induction texts generalizing text with
  | nil => simp
  | cons text' texts ih =>
    rw [Json.intercalate_cons, ih text']
    simp only [List.map_cons, List.intercalate_cons_cons, List.cons_append, List.append_assoc,
      List.nil_append]

/-- Behind the opening brace the members stand in pieces, with commas between them. -/
theorem toList_objectText (m : Member) (members : List Member) :
    (objectText (m :: members)).toList =
      '\x7b' :: ([','].intercalate ((m :: members).map piece) ++ [' ', '\x7d']) := by
  have htext : ∀ members : List Member, (objectText members).toList =
      '\x7b' :: ' ' ::
        ([',', ' '].intercalate (members.map fun m => (m.1 ++ ": " ++ m.2).toList) ++
          [' ', '\x7d']) := by
    intro members
    simp [objectText, Function.comp_def]
  have hpieces : (m :: members).map piece =
      ((m :: members).map fun m => (m.1 ++ ": " ++ m.2).toList).map (' ' :: ·) := by
    rw [List.map_map]
    refine List.map_congr_left fun m _ => ?_
    simp [piece]
  rw [hpieces, htext, List.map_cons, ← blank_intercalate]
  rfl

theorem memberOf?_piece {m : Member} (h : PassedMember m) : memberOf? (piece m) = some m := by
  obtain ⟨hname, hvalue⟩ := h ':' (by decide)
  have hblank : ∀ {text : List Char}, Passed ':' 0 text → Passed ':' 0 (' ' :: text) :=
    .cons_of_ne (by decide) (by decide)
  have hpieces : cut ':' (.outside 0) (piece m) = [' ' :: m.1.toList, ' ' :: m.2.toList] := by
    rw [piece, ← List.cons_append, (hblank hname).cut_append_cons, (hblank hvalue).cut_self]
  rw [memberOf?, hpieces]
  simp

theorem mapM_memberOf?_piece {members : List Member} (h : ∀ m ∈ members, PassedMember m) :
    (members.map piece).mapM memberOf? = some members := by
  induction members with
  | nil => rfl
  | cons m rest ih =>
    rw [List.forall_mem_cons] at h
    rw [List.map_cons, List.mapM_cons, memberOf?_piece h.1, ih h.2]
    rfl

/-- Pieces that a reader passes over are found again, with commas between them. -/
theorem cut_intercalate {text : List Char} {texts : List (List Char)}
    (h : ∀ piece ∈ text :: texts, Passed ',' 0 piece) :
    cut ',' (.outside 0) ([','].intercalate (text :: texts)) = text :: texts := by
  induction texts generalizing text with
  | nil => rw [List.intercalate_singleton, (h text List.mem_cons_self).cut_self]
  | cons text' texts ih =>
    rw [List.forall_mem_cons] at h
    rw [List.intercalate_cons_cons, List.append_assoc, List.singleton_append, h.1.cut_append_cons,
      ih h.2]

/-- **The members of an object are read off its text**, where a reader passes over their names and
values. -/
theorem readObject?_objectText {members : List Member} (h : ∀ m ∈ members, PassedMember m) :
    readObject? (objectText members) = some members := by
  cases members with
  | nil => decide
  | cons m members =>
    have hpassed : ∀ text ∈ (m :: members).map piece, Passed ',' 0 text := by
      refine List.forall_mem_map.2 fun m hm => ?_
      obtain ⟨hname, hvalue⟩ := h m hm ',' (by decide)
      exact .cons_of_ne (by decide) (by decide) (hname.append
        (.cons_of_ne (by decide) (by decide) (.cons_of_ne (by decide) (by decide) hvalue)))
    have hinside : (objectText (m :: members)).toList.tail.dropLast.dropLast =
        [','].intercalate ((m :: members).map piece) := by
      rw [toList_objectText, List.tail_cons]
      simp [List.dropLast_append_of_ne_nil]
    have hsome : [','].intercalate ((m :: members).map piece) ≠ [' '] := by
      -- the colon of the first member is in it
      intro heq
      have hmem : ':' ∈ [','].intercalate ((m :: members).map piece) := by
        cases members <;> simp [piece]
      rw [heq] at hmem
      exact absurd hmem (by decide)
    unfold readObject?
    dsimp only
    rw [hinside, if_neg (not_not.2 (toList_objectText m members)), if_neg hsome]
    rw [List.map_cons] at hpassed
    rw [List.map_cons, cut_intercalate hpassed, ← List.map_cons, mapM_memberOf?_piece h]

end LayeredLint
