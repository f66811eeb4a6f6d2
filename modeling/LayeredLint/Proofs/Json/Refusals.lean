import LayeredLint.Proofs.Except
import LayeredLint.Proofs.Json.Document
import LayeredLint.Json.Reader

/-!
# What the reader meets in a text

Not everything that a text is refused for is a fault of the text: a run of digits may be too long,
or arrays and objects nested too deeply. And a text that is read may come to a broken one. All three
can be seen in the characters.

- `LongRun`, `openings`, `SurrogateEscape`: a long run of digits, the opening brackets, and escapes
  that may stand for half a surrogate pair.
- `Value.Unbroken`: no text in a value is broken.
- `Follows`: what a reader's answer says about the text it was given; `Follows.bind` carries that
  from one reader to the next.
- `readString_follows`, `readNumber_follows`, `readers_follow`: texts, numbers, and values with
  their items and members.
- `readWithin_follows`: **a whole document**; `unbroken_of_read`, `longRun_of_read` and
  `openings_of_read` are its parts.
-/

namespace LayeredLint

namespace Value

/-- A text that is not broken, or no text. -/
def UnbrokenPart : Value → Prop
  | .brokenText _ => False
  | _ => True

instance : DecidablePred UnbrokenPart := fun v =>
  match v with
  | .brokenText _ => inferInstanceAs (Decidable False)
  | .null | .bool _ | .int _ | .float _ | .str _ | .bytes _ | .list _ | .tuple _ | .dict _
  | .severity _ | .setting .. | .module _ | .handle _ | .language .. | .moment _ =>
    inferInstanceAs (Decidable True)

/-- No text in a value is broken; the keys of tables are left out. -/
def Unbroken (v : Value) : Prop :=
  v.Throughout UnbrokenPart

instance (v : Value) : Decidable v.Unbroken :=
  inferInstanceAs (Decidable (v.Throughout UnbrokenPart))

theorem unbroken_list {items : List Value} :
    (Value.list items).Unbroken ↔ ∀ v ∈ items, v.Unbroken :=
  throughout_list.trans (and_iff_right trivial)

theorem unbroken_dict {entries : List (Value × Value)} :
    (Value.dict entries).Unbroken ↔ ∀ e ∈ entries, e.2.Unbroken :=
  throughout_dict.trans (and_iff_right trivial)

/-- A table holds only what was assigned in it. -/
theorem unbroken_ofEntries {assignments : List (Value × Value)}
    (h : ∀ e ∈ assignments, e.2.Unbroken) : (Value.ofEntries assignments).Unbroken := by
  refine unbroken_dict.2 fun e he => ?_
  have hvalue : e.2 ∈ (Table.ofList assignments).values := List.mem_map_of_mem he
  obtain ⟨a, ha, hav⟩ := Table.exists_of_mem_values_ofList hvalue
  rw [← hav]
  exact h a ha

/-- Code points that are all characters make up a text that is not broken. -/
theorem unbroken_ofPoints {points : List Nat} (h : ∀ n ∈ points, n.isValidChar) :
    (Value.ofPoints points).Unbroken := by
  have hall : points.all (fun n => decide n.isValidChar) = true :=
    List.all_eq_true.2 fun n hn => decide_eq_true (h n hn)
  rw [Value.ofPoints, if_pos hall]
  exact .of_leaf rfl trivial

end Value

namespace Json

/-! ## What a text holds -/

/-- A text holds a run of more than so many digits. -/
def LongRun (digits : Nat) (cs : List Char) : Prop :=
  ∃ run, run <:+: cs ∧ digits < run.length ∧ ∀ c ∈ run, c.isDigit = true

/-- A bracket that opens an array or an object. -/
def isOpening (c : Char) : Bool :=
  c = '[' || c = '\x7b'

/-- How many brackets a text opens. -/
def openings (cs : List Char) : Nat :=
  cs.countP isOpening

/-- A text holds an escape of a unit that may be half of a surrogate pair. -/
def SurrogateEscape (cs : List Char) : Prop :=
  ∃ d ∈ ['d', 'D'], ['\\', 'u', d] <:+: cs

section Suffix

variable {rest cs : List Char}

theorem LongRun.of_suffix {digits : Nat} (hs : rest <:+ cs) (h : LongRun digits rest) :
    LongRun digits cs := by
  obtain ⟨run, hrun, hlong, hdigits⟩ := h
  exact ⟨run, hrun.trans hs.isInfix, hlong, hdigits⟩

theorem openings_le_of_suffix (hs : rest <:+ cs) : openings rest ≤ openings cs :=
  hs.sublist.countP_le

theorem SurrogateEscape.of_suffix (hs : rest <:+ cs) (h : SurrogateEscape rest) :
    SurrogateEscape cs := by
  obtain ⟨d, hd, hescape⟩ := h
  exact ⟨d, hd, hescape.trans hs.isInfix⟩

end Suffix

/-! ## Readers that follow a text -/

/-- What the answer of a reader says about the text. What is left is the end of the text, and what
is read is whole, unless the text escapes half a pair; an integer is too long only where the text
has a run of so many digits, and the nesting too deep only where it has so many brackets. -/
def Follows {α : Type} (limits : Limits) (whole : α → Prop) (cs : List Char) :
    Except Fault (α × List Char) → Prop
  | .ok (a, rest) => rest <:+ cs ∧ (¬SurrogateEscape cs → whole a)
  | .error fault =>
    (fault.cause = .longInteger → LongRun limits.digits cs) ∧
      (fault.cause = .tooDeep → limits.depth < openings cs)

namespace Follows

variable {α β : Type} {limits : Limits} {whole : α → Prop} {whole' : β → Prop}
  {cs rest : List Char}

/-- A refusal for any other cause says nothing about the text. -/
theorem other {cause : Cause} {left : Nat} (h : cause ≠ .longInteger ∧ cause ≠ .tooDeep) :
    Follows limits whole cs (.error ⟨cause, left⟩) :=
  ⟨fun hcause => absurd hcause h.1, fun hcause => absurd hcause h.2⟩

theorem refused {cause : Cause} {left : List Char} (h : cause ≠ .longInteger ∧ cause ≠ .tooDeep) :
    Follows limits whole cs (refuse cause left) :=
  .other h

/-- What is said about the end of a text holds of the whole text. -/
theorem of_suffix {x : Except Fault (α × List Char)} (hs : rest <:+ cs)
    (h : Follows limits whole rest x) : Follows limits whole cs x := by
  cases x with
  | error fault =>
    exact ⟨fun hcause => (h.1 hcause).of_suffix hs,
      fun hcause => Nat.lt_of_lt_of_le (h.2 hcause) (openings_le_of_suffix hs)⟩
  | ok answer =>
    exact ⟨h.1.trans hs, fun hescape => h.2 fun hrest => hescape (hrest.of_suffix hs)⟩

/-- A second reader goes on where the first one stopped. -/
theorem bind {x : Except Fault (α × List Char)} {f : α × List Char → Except Fault (β × List Char)}
    (hx : Follows limits whole cs x)
    (hf : ∀ a rest, rest <:+ cs → (¬SurrogateEscape cs → whole a) →
      Follows limits whole' cs (f (a, rest))) : Follows limits whole' cs (x >>= f) := by
  cases x with
  | error fault => exact hx
  | ok answer => exact hf answer.1 answer.2 hx.1 hx.2

/-- Behind an opening bracket one level less may be nested. -/
theorem enclosed {x : Except Fault (α × List Char)} {c : Char} {digits depth : Nat}
    (hc : isOpening c = true) (hs : rest <:+ cs)
    (h : Follows ⟨depth - 1, digits⟩ whole rest x) : Follows ⟨depth, digits⟩ whole (c :: cs) x := by
  cases x with
  | ok answer => exact h.of_suffix (hs.trans (List.suffix_cons c cs))
  | error fault =>
    refine ⟨fun hcause => (h.1 hcause).of_suffix (hs.trans (List.suffix_cons c cs)),
      fun hcause => ?_⟩
    have hless : depth - 1 < openings cs :=
      Nat.lt_of_lt_of_le (h.2 hcause) (openings_le_of_suffix hs)
    have hmore : openings (c :: cs) = openings cs + 1 := List.countP_cons_of_pos hc
    show depth < openings (c :: cs)
    omega

end Follows

/-! ## Texts -/

/-- The three ranges of digits. -/
theorem hexValue?_cases {c : Char} {n : Nat} (h : Text.hexValue? c = some n) :
    (48 ≤ c.toNat ∧ c.toNat ≤ 57 ∧ n = c.toNat - 48) ∨
      (97 ≤ c.toNat ∧ c.toNat ≤ 102 ∧ n = c.toNat - 87) ∨
        (65 ≤ c.toNat ∧ c.toNat ≤ 70 ∧ n = c.toNat - 55) := by
  unfold Text.hexValue? at h
  split at h
  · next hc => cases h; exact .inl ⟨hc.1, hc.2, rfl⟩
  · split at h
    · next hc => cases h; exact .inr (.inl ⟨hc.1, hc.2, rfl⟩)
    · split at h
      · next hc => cases h; exact .inr (.inr ⟨hc.1, hc.2, rfl⟩)
      · cases h

theorem hexValue?_lt {c : Char} {n : Nat} (h : Text.hexValue? c = some n) : n < 16 := by
  rcases hexValue?_cases h with hc | hc | hc <;> omega

/-- Only one digit counts thirteen, in either case. -/
theorem mem_of_hexValue? {c : Char} (h : Text.hexValue? c = some 13) : c ∈ ['d', 'D'] := by
  have named : ∀ n, c.toNat = n → c = Char.ofNat n := fun n hn => by rw [← hn, Char.ofNat_toNat]
  rcases hexValue?_cases h with hc | hc | hc
  · omega
  · rw [named 100 (by omega)]
    exact List.mem_cons_self
  · rw [named 68 (by omega)]
    exact List.mem_cons_of_mem _ List.mem_cons_self

theorem hexNumber?_four {a b c d : Char} {n : Nat} (h : Text.hexNumber? [a, b, c, d] = some n) :
    ∃ w x y z, Text.hexValue? a = some w ∧ Text.hexValue? b = some x ∧ Text.hexValue? c = some y ∧
      Text.hexValue? d = some z ∧ n = 16 * (16 * (16 * w + x) + y) + z := by
  have hfold : [a, b, c, d].foldlM (fun n c => (Text.hexValue? c).map (16 * n + ·)) 0 = some n := h
  simp only [List.foldlM_cons, List.foldlM_nil, Option.bind_eq_bind, Option.bind_eq_some_iff,
    Option.map_eq_some_iff] at hfold
  obtain ⟨_, ⟨w, hw, rfl⟩, _, ⟨x, hx, rfl⟩, _, ⟨y, hy, rfl⟩, _, ⟨z, hz, rfl⟩, hn⟩ := hfold
  cases hn
  exact ⟨w, x, y, z, hw, hx, hy, hz, by omega⟩

/-- A unit is a character, or its first digit is the one of surrogates. -/
theorem readUnit?_eq_some {cs rest : List Char} {n : Nat} (h : readUnit? cs = some (n, rest)) :
    rest <:+ cs ∧ (n.isValidChar ∨ ∃ d ∈ ['d', 'D'], [d] <+: cs) := by
  unfold readUnit? at h
  split at h
  · next a b c d e rest' =>
    obtain ⟨m, hm, hrest⟩ := Option.map_eq_some_iff.1 h
    cases hrest
    obtain ⟨w, x, y, z, hw, hx, hy, hz, hn⟩ := hexNumber?_four hm
    refine ⟨⟨[a, b, c, d], rfl⟩, ?_⟩
    by_cases hfirst : w = 13
    · exact .inr ⟨a, mem_of_hexValue? (hfirst ▸ hw), ⟨_, rfl⟩⟩
    · -- with any other first digit the unit is below the surrogates or above them
      have hw' := hexValue?_lt hw
      have hx' := hexValue?_lt hx
      have hy' := hexValue?_lt hy
      have hz' := hexValue?_lt hz
      refine .inl ?_
      show n < 0xD800 ∨ 0xDFFF < n ∧ n < 0x110000
      omega
  · cases h

/-- The two halves of a pair make up a character. -/
theorem isValidChar_joinSurrogates {high low : Nat} (hhigh : isHighSurrogate high = true)
    (hlow : isLowSurrogate low = true) : (joinSurrogates high low).isValidChar := by
  simp only [isHighSurrogate, isLowSurrogate, Bool.and_eq_true, decide_eq_true_eq] at hhigh hlow
  show joinSurrogates high low < 0xD800 ∨
    0xDFFF < joinSurrogates high low ∧ joinSurrogates high low < 0x110000
  unfold joinSurrogates
  omega

variable {limits : Limits}

theorem readUnicode_follows (rest : List Char) :
    Follows limits Nat.isValidChar ('\\' :: 'u' :: rest) (readUnicode rest) := by
  unfold readUnicode
  split
  · exact .other (by decide)
  · next high behind hunit =>
    obtain ⟨hbehind, hvalid⟩ := readUnit?_eq_some hunit
    have hsuffix : behind <:+ '\\' :: 'u' :: rest := hbehind.trans ⟨['\\', 'u'], rfl⟩
    -- a unit that stands alone is a character where no escape starts like half a pair
    have alone : ¬SurrogateEscape ('\\' :: 'u' :: rest) → high.isValidChar := by
      intro hescape
      refine hvalid.resolve_right ?_
      rintro ⟨d, hd, more, rfl⟩
      exact hescape ⟨d, hd, [], more, rfl⟩
    split
    · next next hhigh =>
      split
      · exact .other (by decide)
      · next low after hsecond =>
        obtain ⟨hafter, -⟩ := readUnit?_eq_some hsecond
        split
        · next hlow =>
          have hend : after <:+ '\\' :: 'u' :: rest :=
            (hafter.trans ⟨['\\', 'u'], rfl⟩).trans hsuffix
          exact ⟨hend, fun _ => isValidChar_joinSurrogates hhigh hlow⟩
        · exact ⟨hsuffix, alone⟩
    · exact ⟨hsuffix, alone⟩

/-- One character is read, and then the others. -/
theorem followed_points {cs rest : List Char} {n : Nat} {x : Except Fault (List Nat × List Char)}
    (hs : rest <:+ cs) (hn : ¬SurrogateEscape cs → n.isValidChar)
    (hx : Follows limits (fun points => ∀ n ∈ points, n.isValidChar) rest x) :
    Follows limits (fun points => ∀ n ∈ points, n.isValidChar) cs (do
      let (points, after) ← x
      return (n :: points, after)) := by
  refine (hx.of_suffix hs).bind fun points after hafter hpoints => ?_
  exact ⟨hafter, fun hescape => List.forall_mem_cons.2 ⟨hn hescape, hpoints hescape⟩⟩

theorem readPoints_follows (opening : List Char) (fuel : Nat) (cs : List Char) :
    Follows limits (fun points => ∀ n ∈ points, n.isValidChar) cs (readPoints opening fuel cs) := by
  induction fuel generalizing cs with
  | zero => exact .other (by decide)
  | succ fuel ih =>
    cases cs with
    | nil => exact .other (by decide)
    | cons c rest =>
      have hrest : rest <:+ c :: rest := List.suffix_cons c rest
      unfold readPoints
      by_cases hquote : c = '"'
      · rw [if_pos hquote]
        exact ⟨hrest, fun _ => List.forall_mem_nil _⟩
      rw [if_neg hquote]
      by_cases hslash : c = '\\'
      · rw [if_pos hslash]
        cases rest with
        | nil => exact .other (by decide)
        | cons e rest =>
          by_cases hu : e = 'u'
          · cases hslash
            cases hu
            simp only [if_true]
            refine (readUnicode_follows rest).bind fun n behind hbehind hn => ?_
            exact followed_points hbehind hn (ih behind)
          · simp only [if_neg hu]
            split
            · exact .other (by decide)
            · next decoded _ =>
              exact followed_points ((List.suffix_cons e rest).trans hrest)
                (fun _ => decoded.valid) (ih rest)
      rw [if_neg hslash]
      split
      · exact .other (by decide)
      · exact followed_points hrest (fun _ => c.valid) (ih rest)

theorem readString_follows (rest : List Char) :
    Follows limits Value.Unbroken rest (readString rest) := by
  refine (readPoints_follows _ _ rest).bind fun points after hafter hvalid => ?_
  exact ⟨hafter, fun hescape => Value.unbroken_ofPoints (hvalid hescape)⟩

/-! ## Numbers -/

theorem takeWhole_append (cs : List Char) : (takeWhole cs).1 ++ (takeWhole cs).2 = cs := by
  unfold takeWhole
  split
  · rfl
  · exact List.takeWhile_append_dropWhile

theorem isDigit_of_mem_takeWhole (cs : List Char) {c : Char} (h : c ∈ (takeWhole cs).1) :
    c.isDigit = true := by
  unfold takeWhole at h
  split at h
  · cases List.mem_singleton.1 h
    rfl
  · exact List.all_eq_true.1 List.all_takeWhile c h

/-- Digits that may be taken off the front leave the end of the text. -/
theorem takeDigits_suffix (taken behind cs : List Char) (h : behind <:+ cs) :
    (if (behind.takeWhile Char.isDigit).isEmpty then (([] : List Char), cs)
      else (taken, behind.dropWhile Char.isDigit)).2 <:+ cs := by
  split
  · exact List.suffix_refl cs
  · exact (List.dropWhile_suffix _).trans h

theorem takeFraction_suffix (cs : List Char) : (takeFraction cs).2 <:+ cs := by
  unfold takeFraction
  split
  · next rest => exact takeDigits_suffix _ rest _ (List.suffix_cons '.' rest)
  · exact List.suffix_refl _

theorem takeExponent_suffix (cs : List Char) : (takeExponent cs).2 <:+ cs := by
  cases cs with
  | nil => exact List.suffix_refl _
  | cons e rest =>
    dsimp only [takeExponent]
    split
    · exact takeDigits_suffix _ _ _ ((List.drop_suffix _ rest).trans (List.suffix_cons e rest))
    · exact List.suffix_refl _

theorem readNumber_follows {digits depth : Nat} (cs : List Char) :
    Follows ⟨depth, digits⟩ Value.Unbroken cs (readNumber digits cs) := by
  unfold readNumber
  extract_lets sign
  clear_value sign
  rcases hwhole : takeWhole (cs.drop sign.length) with ⟨whole, rest⟩
  rcases hfraction : takeFraction rest with ⟨fraction, behind⟩
  rcases hexponent : takeExponent behind with ⟨exponent, after⟩
  have hsplit : whole ++ rest = cs.drop sign.length := by
    have happend := takeWhole_append (cs.drop sign.length)
    rwa [hwhole] at happend
  have hbody : whole ++ rest <:+ cs := hsplit ▸ List.drop_suffix _ cs
  have hafter : after <:+ cs := by
    have hfirst := takeFraction_suffix rest
    have hsecond := takeExponent_suffix behind
    rw [hfraction] at hfirst
    rw [hexponent] at hsecond
    exact (hsecond.trans hfirst).trans ((List.suffix_append whole rest).trans hbody)
  simp only [hfraction, hexponent]
  split
  · exact .refused (by decide)
  · split
    · split
      · next hlong =>
        -- the whole part is the run of digits
        refine ⟨fun _ => ⟨whole, ?_, hlong, fun c hc => ?_⟩, nofun⟩
        · exact (List.prefix_append whole rest).isInfix.trans hbody.isInfix
        · exact isDigit_of_mem_takeWhole (cs.drop sign.length) (by rwa [hwhole])
      · exact ⟨hafter, fun _ => .of_leaf rfl trivial⟩
    · split
      · exact ⟨hafter, fun _ => .of_leaf rfl trivial⟩
      · exact .refused (by decide)

/-! ## Values -/

/-- The words that are values hold no text. -/
theorem readWord?_follows {cs : List Char} {found : Value × List Char}
    (h : readWord? cs = some found) : Follows limits Value.Unbroken cs (.ok found) := by
  obtain ⟨⟨word, v⟩, hword, hfound⟩ := List.exists_of_findSome?_eq_some h
  have hunbroken : v.Unbroken := by
    have hwords : ∀ entry ∈ ([("null", .null), ("true", .bool true), ("false", .bool false),
        ("NaN", .float (.nan 0)), ("Infinity", .float (.infinity false)),
        ("-Infinity", .float (.infinity true))] : List (String × Value)), entry.2.Unbroken := by
      decide
    exact hwords _ hword
  dsimp only at hfound
  split at hfound
  · cases hfound
    exact ⟨List.drop_suffix _ cs, fun _ => hunbroken⟩
  · cases hfound

theorem skipSpace_suffix (cs : List Char) : skipSpace cs <:+ cs :=
  List.dropWhile_suffix _

/-- What stands behind a mark at the front of the next part. -/
theorem behind_suffix {cs rest behind : List Char} {c : Char} (hs : rest <:+ cs)
    (h : skipSpace rest = c :: behind) : behind <:+ cs := by
  have hmark : c :: behind <:+ rest := h ▸ skipSpace_suffix rest
  exact ((List.suffix_cons c behind).trans hmark).trans hs

/-- The next part, behind such a mark. -/
theorem next_suffix {cs rest behind : List Char} {c : Char} (hs : rest <:+ cs)
    (h : skipSpace rest = c :: behind) : skipSpace behind <:+ cs :=
  (skipSpace_suffix behind).trans (behind_suffix hs h)

section Nested

variable {digits depth fuel : Nat}

/-- The values of members that are whole. -/
def WholeMembers (members : List (Value × Value)) : Prop :=
  ∀ e ∈ members, e.2.Unbroken

/-- Items that are whole. -/
def WholeItems (items : List Value) : Prop :=
  ∀ v ∈ items, v.Unbroken

/-- Items follow where values do, and the items behind the next one. -/
theorem readItems_step
    (hvalue : ∀ cs, Follows ⟨depth, digits⟩ Value.Unbroken cs (readValue digits depth fuel cs))
    (hitems : ∀ cs, Follows ⟨depth, digits⟩ WholeItems cs (readItems digits depth fuel cs))
    (cs : List Char) :
    Follows ⟨depth, digits⟩ WholeItems cs (readItems digits depth (fuel + 1) cs) := by
  unfold readItems
  refine (hvalue cs).bind fun item rest hrest hitem => ?_
  dsimp only
  split
  · next after hclose =>
    refine ⟨behind_suffix hrest hclose, fun hescape => ?_⟩
    exact List.forall_mem_singleton.2 (hitem hescape)
  · next behind hcomma =>
    refine ((hitems _).of_suffix (next_suffix hrest hcomma)).bind fun items after hafter hwhole => ?_
    exact ⟨hafter, fun hescape => List.forall_mem_cons.2 ⟨hitem hescape, hwhole hescape⟩⟩
  · exact .refused (by decide)

theorem readMembers_step
    (hvalue : ∀ cs, Follows ⟨depth, digits⟩ Value.Unbroken cs (readValue digits depth fuel cs))
    (hmembers : ∀ cs, Follows ⟨depth, digits⟩ WholeMembers cs (readMembers digits depth fuel cs))
    (cs : List Char) :
    Follows ⟨depth, digits⟩ WholeMembers cs (readMembers digits depth (fuel + 1) cs) := by
  unfold readMembers
  split
  · next start =>
    have hstart : start <:+ '"' :: start := List.suffix_cons '"' start
    refine ((readString_follows start).of_suffix hstart).bind fun name rest hrest _ => ?_
    dsimp only
    split
    · next behind hcolon =>
      refine ((hvalue _).of_suffix (next_suffix hrest hcolon)).bind fun value rest hrest hwhole => ?_
      dsimp only
      split
      · next after hclose =>
        refine ⟨behind_suffix hrest hclose, fun hescape => ?_⟩
        exact List.forall_mem_singleton.2 (hwhole hescape)
      · next behind hcomma =>
        refine ((hmembers _).of_suffix (next_suffix hrest hcomma)).bind
          fun members after hafter hmembers => ?_
        exact ⟨hafter, fun hescape => List.forall_mem_cons.2 ⟨hwhole hescape, hmembers hescape⟩⟩
      · exact .refused (by decide)
    · exact .refused (by decide)
  · exact .refused (by decide)

theorem readValue_step
    (hitems : ∀ cs, Follows ⟨depth - 1, digits⟩ WholeItems cs
      (readItems digits (depth - 1) fuel cs))
    (hmembers : ∀ cs, Follows ⟨depth - 1, digits⟩ WholeMembers cs
      (readMembers digits (depth - 1) fuel cs))
    (cs : List Char) :
    Follows ⟨depth, digits⟩ Value.Unbroken cs (readValue digits depth (fuel + 1) cs) := by
  cases cs with
  | nil => exact .other (by decide)
  | cons c rest =>
    have hrest : rest <:+ c :: rest := List.suffix_cons c rest
    unfold readValue
    by_cases hquote : c = '"'
    · rw [if_pos hquote]
      exact (readString_follows rest).of_suffix hrest
    rw [if_neg hquote]
    by_cases hopen : c = '[' ∨ c = '\x7b'
    · rw [if_pos hopen]
      have hopening : isOpening c = true := by simpa [isOpening] using hopen
      by_cases hdepth : depth = 0
      · -- no bracket may be opened, and this is one
        rw [if_pos hdepth]
        refine ⟨nofun, fun _ => ?_⟩
        have hmore : openings (c :: rest) = openings rest + 1 := List.countP_cons_of_pos hopening
        show depth < openings (c :: rest)
        omega
      rw [if_neg hdepth]
      split
      · next after hclose =>
        exact ⟨behind_suffix hrest hclose, fun _ => Value.unbroken_list.2 (List.forall_mem_nil _)⟩
      · refine Follows.enclosed hopening (skipSpace_suffix rest) ?_
        refine (hitems (skipSpace rest)).bind fun items after hafter hwhole => ?_
        exact ⟨hafter, fun hescape => Value.unbroken_list.2 (hwhole hescape)⟩
      · next after _ hclose =>
        exact ⟨behind_suffix hrest hclose, fun _ => Value.unbroken_dict.2 (List.forall_mem_nil _)⟩
      · refine Follows.enclosed hopening (skipSpace_suffix rest) ?_
        refine (hmembers (skipSpace rest)).bind fun members after hafter hwhole => ?_
        exact ⟨hafter, fun hescape => Value.unbroken_ofEntries (hwhole hescape)⟩
    rw [if_neg hopen]
    split
    · next found hfound => exact readWord?_follows hfound
    · exact readNumber_follows (c :: rest)

end Nested

/-- Values, items and members follow the text they are read from: by induction on the fuel, all three
at once and for every depth, since an array reads its items with one level less. -/
theorem readers_follow (digits fuel : Nat) : ∀ depth,
    (∀ cs, Follows ⟨depth, digits⟩ Value.Unbroken cs (readValue digits depth fuel cs)) ∧
    (∀ cs, Follows ⟨depth, digits⟩ WholeItems cs (readItems digits depth fuel cs)) ∧
    ∀ cs, Follows ⟨depth, digits⟩ WholeMembers cs (readMembers digits depth fuel cs) := by
  induction fuel with
  | zero =>
    intro depth
    refine ⟨fun cs => ?_, fun cs => ?_, fun cs => ?_⟩
    · exact .other (by decide)
    · exact .other (by decide)
    · exact .other (by decide)
  | succ fuel ih =>
    intro depth
    obtain ⟨hvalue, hitems, hmembers⟩ := ih depth
    obtain ⟨-, hitems', hmembers'⟩ := ih (depth - 1)
    exact ⟨readValue_step hitems' hmembers', readItems_step hvalue hitems,
      readMembers_step hvalue hmembers⟩

/-! ## Documents -/

section Document

variable {document : String}

/-- A document is read to its end. -/
theorem readWithin_follows (limits : Limits) (document : String) :
    Follows limits Value.Unbroken document.toList ((·, []) <$> readWithin limits document) := by
  have hend : ([] : List Char) <:+ document.toList := List.nil_suffix
  unfold readWithin
  dsimp only
  split
  · exact .other (by decide)
  · obtain ⟨hvalue, -⟩ := readers_follow limits.digits (2 * document.toList.length + 2) limits.depth
    have hread := (hvalue _).of_suffix (skipSpace_suffix document.toList)
    rw [map_bind]
    refine hread.bind fun v rest _ hwhole => ?_
    dsimp only
    split
    · exact ⟨hend, hwhole⟩
    · exact .other (by decide)

/-- What is read from a text without escapes of half a pair is not broken. -/
theorem unbroken_of_read {v : Value} (h : readWithin limits document = .ok v)
    (hescape : ¬SurrogateEscape document.toList) : v.Unbroken := by
  have hfollows := readWithin_follows limits document
  rw [h] at hfollows
  exact hfollows.2 hescape

/-- An integer is too long only where the text has a run of so many digits. -/
theorem longRun_of_read {fault : Fault} (h : readWithin limits document = .error fault)
    (hcause : fault.cause = .longInteger) : LongRun limits.digits document.toList := by
  have hfollows := readWithin_follows limits document
  rw [h] at hfollows
  exact hfollows.1 hcause

/-- The nesting is too deep only where the text opens so many brackets. -/
theorem openings_of_read {fault : Fault} (h : readWithin limits document = .error fault)
    (hcause : fault.cause = .tooDeep) : limits.depth < openings document.toList := by
  have hfollows := readWithin_follows limits document
  rw [h] at hfollows
  exact hfollows.2 hcause

end Document

end Json

end LayeredLint
