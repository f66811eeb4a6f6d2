import LayeredLint.FlatConfig
import LayeredLint.Proofs.Json.ReadBack

/-!
# Expressions of a configuration module

What stands for a member in an entry is a document, a reference to a module or members in braces.
Where such an expression ends can be told from the text that it begins, so that two entries with the
same text have the same members.

- `Followed`: what follows an expression.
- `Key`: what stands before the colon of a member.
- `Expression`: the texts that stand for members.
- `Expression.append_inj`: **an expression can be told from what follows it**.
- `IsMember`, `braced_append_inj`: and so can each of its members, where it is in braces.
-/

namespace LayeredLint

open Json (stringText text? oneLine Ended)

/-! ## Where expressions end -/

/-- What follows an expression: a comma, or a blank before a closing brace. -/
def Followed (rest : List Char) : Prop :=
  ∃ tail, rest = ',' :: tail ∨ rest = ' ' :: tail

theorem Followed.ended {rest : List Char} (h : Followed rest) : Ended rest := by
  obtain ⟨tail, rfl | rfl⟩ := h
  · exact Json.ended_of_mem (by decide) tail
  · exact Json.ended_of_mem (by decide) tail

/-- Neither of them occurs in a reference. -/
theorem Followed.stops {rest : List Char} (h : Followed rest) :
    ∀ c ∈ rest.head?, (c != ',' && c != ' ') = false := by
  intro c hc
  obtain ⟨tail, rfl | rfl⟩ := h <;> cases hc <;> rfl

/-- A text in which a test holds can be told from what follows, where the test fails there. -/
theorem append_inj_of_test {test : Char → Bool} {t t' rest rest' : List Char}
    (ht : ∀ c ∈ t, test c = true) (ht' : ∀ c ∈ t', test c = true)
    (hrest : ∀ c ∈ rest.head?, test c = false) (hrest' : ∀ c ∈ rest'.head?, test c = false)
    (h : t ++ rest = t' ++ rest') : t = t' ∧ rest = rest' := by
  have cut : ∀ {u tail : List Char}, (∀ c ∈ u, test c = true) → (∀ c ∈ tail.head?, test c = false) →
      (u ++ tail).takeWhile test = u := by
    intro u tail hu htail
    rw [List.takeWhile_append_of_pos hu]
    cases tail with
    | nil => exact List.append_nil u
    | cons c tail =>
      rw [List.takeWhile_cons_of_neg (by rw [htail c rfl]; decide), List.append_nil]
  have htt : t = t' := by rw [← cut ht hrest, h, cut ht' hrest']
  rw [htt] at h
  exact ⟨htt, List.append_cancel_left h⟩

/-! ## Keys -/

/-- What stands before the colon of a member: a word, or a text in quotes. -/
inductive Key : List Char → Prop where
  | word {k : List Char} (hne : k ≠ []) (h : ∀ c ∈ k, c.isAlpha = true) : Key k
  | quoted (s : String) : Key (stringText s)

/-- A key starts with a letter or a quote. -/
theorem Key.exists_cons {k : List Char} (h : Key k) :
    ∃ c cs, k = c :: cs ∧ (c = '"' ∨ c.isAlpha = true) := by
  cases h with
  | word hne h =>
    obtain ⟨c, cs, rfl⟩ := List.exists_cons_of_ne_nil hne
    exact ⟨c, cs, rfl, .inr (h c List.mem_cons_self)⟩
  | quoted s => exact ⟨'"', _, rfl, .inl rfl⟩

/-- A key can be told from the colon that follows it. -/
theorem Key.append_inj {k k' rest rest' : List Char} (hk : Key k) (hk' : Key k')
    (h : k ++ ':' :: rest = k' ++ ':' :: rest') : k = k' ∧ rest = rest' := by
  have hcolon : ∀ {tail : List Char}, ∀ c ∈ (':' :: tail).head?, c.isAlpha = false := by
    intro tail c hc
    cases hc
    rfl
  -- a quote is no letter, so both keys are words or both are in quotes
  have hquote : ∀ {w cs tail : List Char}, w ≠ [] → (∀ c ∈ w, c.isAlpha = true) →
      w ++ tail ≠ '"' :: cs := by
    intro w cs tail hne hw hcons
    obtain ⟨c, w, rfl⟩ := List.exists_cons_of_ne_nil hne
    injection hcons with hc
    have halpha := hw c List.mem_cons_self
    rw [hc] at halpha
    cases halpha
  cases hk with
  | word hne hw =>
    cases hk' with
    | word _ hw' =>
      obtain ⟨hkk, htail⟩ := append_inj_of_test hw hw' hcolon hcolon h
      injection htail with _ htail
      exact ⟨hkk, htail⟩
    | quoted s' => exact absurd h (hquote hne hw)
  | quoted s =>
    cases hk' with
    | word hne' hw' => exact absurd h.symm (hquote hne' hw')
    | quoted s' =>
      obtain ⟨rfl, htail⟩ := Json.stringText_append_inj h
      injection htail with _ htail
      exact ⟨rfl, htail⟩

/-! ## Expressions -/

/-- A member as it stands between braces. -/
def memberText (m : Member) : List Char :=
  m.1.toList ++ ':' :: ' ' :: m.2.toList

/-- Further members, each behind a comma. -/
def furtherMembers (members : List Member) : List Char :=
  members.flatMap fun m => ',' :: ' ' :: memberText m

/-- Members as they stand between braces. -/
def membersText : List Member → List Char
  | [] => []
  | m :: rest => memberText m ++ furtherMembers rest

theorem intercalate_eq_membersText (members : List Member) :
    [',', ' '].intercalate (members.map memberText) = membersText members := by
  cases members with
  | nil => rfl
  | cons m rest =>
    induction rest generalizing m with
    | nil => simp [membersText, furtherMembers]
    | cons m' rest ih =>
      rw [List.map_cons, List.map_cons, Json.intercalate_cons, ← List.map_cons, ih m']
      simp [membersText, furtherMembers]

theorem toList_braced (members : List Member) :
    (braced members).toList = '\x7b' :: ' ' :: (membersText members ++ [' ', '\x7d']) := by
  have htexts : members.map (fun m => (m.1 ++ ": " ++ m.2).toList) = members.map memberText := by
    refine List.map_congr_left fun m _ => ?_
    simp [memberText]
  rw [← intercalate_eq_membersText, ← htexts]
  simp [braced, commaSeparated, Function.comp_def]

/-- The forms of expressions. -/
inductive Form where
  | document
  | reference
  | braced
  deriving DecidableEq

/-- The form of an expression at the front of a text. -/
def formOf : List Char → Form
  | 'm' :: _ => .reference
  | '\x7b' :: ' ' :: _ => .braced
  | _ => .document

/-- The texts that stand for members, by their forms. -/
inductive Expression : Form → List Char → Prop where
  | document {v : Value} {t : List Char} (hv : v.IsJson) (ht : text? oneLine 0 v = some t) :
    Expression .document t
  | reference {t : List Char} (hfirst : t.head? = some 'm')
    (h : ∀ c ∈ t, (c != ',' && c != ' ') = true) : Expression .reference t
  | braced {members : List Member} (hkeys : ∀ m ∈ members, Key m.1.toList)
    (h : ∀ m ∈ members, Expression (formOf m.2.toList) m.2.toList) :
    Expression .braced (braced members).toList

/-- No document starts as members in braces do. -/
theorem ne_brace_blank {v : Value} {t : List Char} (hv : v.IsJson)
    (ht : text? oneLine 0 v = some t) (rest cs : List Char) : t ++ rest ≠ '\x7b' :: ' ' :: cs := by
  cases v with
  | dict entries =>
    obtain ⟨digits, hdigits, -⟩ := Json.exists_readable hv hv
    obtain ⟨⟨⟨hkeys, -⟩, -⟩, hvalues⟩ := Value.throughout_dict.1 hdigits
    obtain ⟨texts, htexts, hmembers⟩ := Json.memberTexts?_reads 1 hkeys hvalues
    rw [text?, htexts] at ht
    cases ht
    cases hmembers with
    | nil => rintro ⟨⟩
    | @cons _ _ _ texts hm _ =>
      -- the first member starts with the quote of its name
      obtain ⟨name, rfl⟩ := hm.exists_cons
      obtain ⟨more, hmore⟩ := Json.exists_intercalate_cons '"' name texts
      rw [Json.enclose_oneLine, hmore]
      rintro ⟨⟩
  | list items =>
    obtain ⟨texts, -, rfl⟩ := Option.map_eq_some_iff.1 ht
    cases texts <;> rintro ⟨⟩
  | tuple items =>
    obtain ⟨texts, -, rfl⟩ := Option.map_eq_some_iff.1 ht
    cases texts <;> rintro ⟨⟩
  | int n =>
    cases ht
    obtain ⟨d, ds, hd, htext | htext⟩ := Json.exists_digit_intText n
    · rw [htext]
      intro heq
      injection heq with hbrace
      rw [hbrace] at hd
      cases hd
    · rw [htext]
      rintro ⟨⟩
  | bool b => cases ht; cases b <;> rintro ⟨⟩
  | null | str _ | brokenText _ | severity _ => cases ht; rintro ⟨⟩
  | _ => exact hv.self.elim

/-- The form of an expression is seen at its front. -/
theorem Expression.formOf_append {form : Form} {t : List Char} (h : Expression form t)
    (rest : List Char) : formOf (t ++ rest) = form := by
  cases h with
  | @document v t hv ht =>
    obtain ⟨digits, hdigits, -⟩ := Json.exists_readable hv hv
    obtain ⟨_, hsome, hread⟩ := Json.text?_reads 0 hdigits
    cases ht.symm.trans hsome
    obtain ⟨c, cs, rfl, hc⟩ := hread.opens
    have hm : c ≠ 'm' := hc.ne (by decide)
    unfold formOf
    split
    · next heq => injection heq with hcm; exact absurd hcm hm
    · next heq => exact absurd heq (ne_brace_blank hv ht rest _)
    · rfl
  | reference hfirst _ =>
    obtain ⟨cs, rfl⟩ := List.head?_eq_some_iff.1 hfirst
    rfl
  | braced _ _ =>
    rw [toList_braced]
    rfl

/-- Expressions at the front of one text have one form. -/
theorem Expression.form_unique {form form' : Form} {t t' rest rest' : List Char}
    (h : Expression form t) (h' : Expression form' t') (heq : t ++ rest = t' ++ rest') :
    form = form' := by
  rw [← h.formOf_append rest, heq, h'.formOf_append]

/-- A text can be told from what follows it, where an expression might stand as well. -/
def Delimited (t : List Char) : Prop :=
  ∀ {form : Form} {t' rest rest' : List Char}, Expression form t' → Followed rest → Followed rest' →
    t ++ rest = t' ++ rest' → t = t' ∧ rest = rest'

/-! ### Members -/

theorem memberText_append_inj {m m' : Member} {rest rest' : List Char} (hk : Key m.1.toList)
    (hk' : Key m'.1.toList) (h : Delimited m.2.toList)
    (h' : Expression (formOf m'.2.toList) m'.2.toList) (hrest : Followed rest)
    (hrest' : Followed rest') (heq : memberText m ++ rest = memberText m' ++ rest') :
    m = m' ∧ rest = rest' := by
  simp only [memberText, List.append_assoc, List.cons_append] at heq
  obtain ⟨hkey, heq⟩ := hk.append_inj hk' heq
  injection heq with _ heq
  obtain ⟨hvalue, hrest⟩ := h h' hrest hrest' heq
  exact ⟨Prod.ext (String.toList_inj.1 hkey) (String.toList_inj.1 hvalue), hrest⟩

/-- Further members, or the closing brace, may follow an expression. -/
theorem followed_furtherMembers (members : List Member) (rest : List Char) :
    Followed (furtherMembers members ++ ' ' :: rest) := by
  cases members with
  | nil => exact ⟨rest, .inr rfl⟩
  | cons m members => exact ⟨_, .inl rfl⟩

theorem furtherMembers_append_inj {members members' : List Member} {rest rest' : List Char}
    (hkeys : ∀ m ∈ members, Key m.1.toList) (hkeys' : ∀ m ∈ members', Key m.1.toList)
    (h : ∀ m ∈ members, Delimited m.2.toList)
    (h' : ∀ m ∈ members', Expression (formOf m.2.toList) m.2.toList)
    (heq : furtherMembers members ++ ' ' :: rest = furtherMembers members' ++ ' ' :: rest') :
    members = members' ∧ rest = rest' := by
  -- a further member starts with a comma, and the closing brace with a blank
  induction members generalizing members' with
  | nil =>
    cases members' with
    | nil => injection heq with _ heq; exact ⟨rfl, heq⟩
    | cons m' members' => cases heq
  | cons m members ih =>
    cases members' with
    | nil => cases heq
    | cons m' members' =>
      rw [List.forall_mem_cons] at hkeys hkeys' h h'
      simp only [furtherMembers, List.flatMap_cons, List.cons_append, List.append_assoc] at heq
      injection heq with _ heq
      injection heq with _ heq
      obtain ⟨rfl, htail⟩ := memberText_append_inj hkeys.1 hkeys'.1 h.1 h'.1
        (followed_furtherMembers members rest) (followed_furtherMembers members' rest') heq
      obtain ⟨rfl, hrest⟩ := ih hkeys.2 hkeys'.2 h.2 h'.2 htail
      exact ⟨rfl, hrest⟩

/-- Members can be told from what follows their closing brace, where their expressions can. -/
theorem membersText_append_inj {members members' : List Member} {rest rest' : List Char}
    (hkeys : ∀ m ∈ members, Key m.1.toList) (hkeys' : ∀ m ∈ members', Key m.1.toList)
    (h : ∀ m ∈ members, Delimited m.2.toList)
    (h' : ∀ m ∈ members', Expression (formOf m.2.toList) m.2.toList)
    (heq : membersText members ++ ' ' :: rest = membersText members' ++ ' ' :: rest') :
    members = members' ∧ rest = rest' := by
  -- no key starts with a blank, so either both lists have a first member or none of them has
  have hblank : ∀ {m : Member} {tail tail' : List Char}, Key m.1.toList →
      memberText m ++ tail ≠ ' ' :: tail' := by
    intro m tail tail' hk hcons
    obtain ⟨c, cs, hkey, hc⟩ := hk.exists_cons
    rw [memberText, hkey] at hcons
    injection hcons with hc'
    rw [hc'] at hc
    rcases hc with hc | hc <;> cases hc
  cases members with
  | nil =>
    cases members' with
    | nil => injection heq with _ heq; exact ⟨rfl, heq⟩
    | cons m' members' =>
      rw [membersText, membersText, List.append_assoc] at heq
      exact absurd heq.symm (hblank (hkeys' m' List.mem_cons_self))
  | cons m members =>
    cases members' with
    | nil =>
      rw [membersText, membersText, List.append_assoc] at heq
      exact absurd heq (hblank (hkeys m List.mem_cons_self))
    | cons m' members' =>
      rw [List.forall_mem_cons] at hkeys hkeys' h h'
      rw [membersText, membersText, List.append_assoc, List.append_assoc] at heq
      obtain ⟨rfl, htail⟩ := memberText_append_inj hkeys.1 hkeys'.1 h.1 h'.1
        (followed_furtherMembers members rest) (followed_furtherMembers members' rest') heq
      obtain ⟨rfl, hrest⟩ := furtherMembers_append_inj hkeys.2 hkeys'.2 h.2 h'.2 htail
      exact ⟨rfl, hrest⟩

/-- **An expression can be told from what follows it.** -/
theorem Expression.delimited {form : Form} {t : List Char} (h : Expression form t) :
    Delimited t := by
  -- Both texts have one form. A document is read back, a reference ends before the first comma or
  -- blank, and of members in braces the hypotheses say that each of their values is delimited.
  induction h with
  | document hv ht =>
    intro form' t' rest rest' ht' hrest hrest' heq
    cases (Expression.document hv ht).form_unique ht' heq
    cases ht' with
    | document hv' ht' =>
      exact (Json.text?_append_inj hv hv' ht ht' hrest.ended hrest'.ended heq).2
  | reference hfirst hchars =>
    intro form' t' rest rest' ht' hrest hrest' heq
    cases (Expression.reference hfirst hchars).form_unique ht' heq
    cases ht' with
    | reference _ hchars' =>
      exact append_inj_of_test hchars hchars' hrest.stops hrest'.stops heq
  | @braced members hkeys hmembers ih =>
    intro form' t' rest rest' ht' hrest hrest' heq
    cases (Expression.braced hkeys hmembers).form_unique ht' heq
    cases ht' with
    | @braced members' hkeys' hmembers' =>
      simp only [toList_braced, List.cons_append, List.append_assoc, List.nil_append] at heq
      injection heq with _ heq
      injection heq with _ heq
      obtain ⟨rfl, htail⟩ := membersText_append_inj hkeys hkeys' ih hmembers' heq
      injection htail with _ htail
      exact ⟨rfl, htail⟩

/-! ## Well-formed members -/

/-- A member that has a key and an expression. -/
structure IsMember (m : Member) : Prop where
  key : Key m.1.toList
  expression : Expression (formOf m.2.toList) m.2.toList

theorem IsMember.of_expression {form : Form} {m : Member} (key : Key m.1.toList)
    (h : Expression form m.2.toList) : IsMember m where
  key := key
  expression := by
    have hform := h.formOf_append []
    rw [List.append_nil] at hform
    rwa [hform]

theorem expression_braced {members : List Member} (h : ∀ m ∈ members, IsMember m) :
    Expression .braced (braced members).toList :=
  .braced (fun m hm => (h m hm).key) fun m hm => (h m hm).expression

/-- Members in braces can be told from what follows. -/
theorem braced_append_inj {members members' : List Member} {rest rest' : List Char}
    (h : ∀ m ∈ members, IsMember m) (h' : ∀ m ∈ members', IsMember m)
    (heq : (braced members).toList ++ rest = (braced members').toList ++ rest') :
    members = members' ∧ rest = rest' := by
  simp only [toList_braced, List.cons_append, List.append_assoc, List.nil_append] at heq
  injection heq with _ heq
  injection heq with _ heq
  obtain ⟨rfl, htail⟩ := membersText_append_inj (fun m hm => (h m hm).key)
    (fun m hm => (h' m hm).key) (fun m hm => (h m hm).expression.delimited)
    (fun m hm => (h' m hm).expression) heq
  injection htail with _ htail
  exact ⟨rfl, htail⟩

/-- Members whose text in braces is the same are the same. -/
theorem braced_inj {members members' : List Member} (h : ∀ m ∈ members, IsMember m)
    (h' : ∀ m ∈ members', IsMember m) (heq : braced members = braced members') :
    members = members' :=
  (@braced_append_inj _ _ [] [] h h' (by rw [heq])).1

end LayeredLint
