import LayeredLint.Proofs.Json.Scalars
import LayeredLint.Proofs.Table.LastWrite

/-!
# Values that a document can hold

A document has no form for a tuple or a severity of its own: they come back as a list and as a text.
Everything else that it can hold comes back as it was. What it cannot hold is a broken text in which
the two halves of a surrogate pair stand side by side: there they are one character.

- `Value.contents`: a value with everything inside it.
- `Value.Throughout`: a property of a value and of everything inside it.
- `Value.nesting`: how deeply sequences and tables are nested.
- `Value.LoneHalves`: a broken text in which no two halves make up a character.
- `Value.IsJson`: a value that a document can hold, floating point numbers left aside.
- `Value.Readable`: a part of a document in which no integer is too long.
- `Value.plain`: what comes back for a value.
- `Value.distinct_plainMembers`: a table comes back with one entry for each key.
-/

namespace LayeredLint.Value

/-! ## What is inside a value -/

mutual

/-- A value with everything inside it; the keys of tables are left out. -/
def contents : Value → List Value
  | .list items => .list items :: contentsItems items
  | .tuple items => .tuple items :: contentsItems items
  | .dict entries => .dict entries :: contentsMembers entries
  | v => [v]

/-- `contents` of every item. -/
def contentsItems : List Value → List Value
  | [] => []
  | v :: rest => contents v ++ contentsItems rest

/-- `contents` of the value of every member. -/
def contentsMembers : List (Value × Value) → List Value
  | [] => []
  | (_, v) :: rest => contents v ++ contentsMembers rest

end

theorem mem_contentsItems {part : Value} {items : List Value} :
    part ∈ contentsItems items ↔ ∃ v ∈ items, part ∈ contents v := by
  induction items with
  | nil => simp [contentsItems]
  | cons v rest ih => simp [contentsItems, ih]

theorem mem_contentsMembers {part : Value} {entries : List (Value × Value)} :
    part ∈ contentsMembers entries ↔ ∃ e ∈ entries, part ∈ contents e.2 := by
  induction entries with
  | nil => simp [contentsMembers]
  | cons e rest ih => simp [contentsMembers, ih]

/-- A value is among its own contents. -/
theorem mem_contents_self (v : Value) : v ∈ contents v := by
  cases v <;> simp [contents]

/-- A property of a value and of everything inside it. -/
def Throughout (p : Value → Prop) (v : Value) : Prop :=
  ∀ part ∈ v.contents, p part

instance (p : Value → Prop) [DecidablePred p] (v : Value) : Decidable (v.Throughout p) :=
  inferInstanceAs (Decidable (∀ part ∈ v.contents, p part))

section Throughout

variable {p : Value → Prop}

theorem Throughout.self {v : Value} (h : v.Throughout p) : p v :=
  h v v.mem_contents_self

/-- What holds of a value with nothing inside it holds throughout. -/
theorem Throughout.of_leaf {v : Value} (hleaf : v.contents = [v]) (h : p v) : v.Throughout p := by
  intro part hp
  rw [hleaf] at hp
  cases List.mem_singleton.1 hp
  exact h

theorem throughout_list {items : List Value} : (Value.list items).Throughout p ↔
    p (.list items) ∧ ∀ v ∈ items, v.Throughout p := by
  simp only [Throughout, contents, List.forall_mem_cons, mem_contentsItems]
  exact and_congr_right fun _ => ⟨fun h v hv part hp => h part ⟨v, hv, hp⟩,
    fun h part ⟨v, hv, hp⟩ => h v hv part hp⟩

theorem throughout_tuple {items : List Value} : (Value.tuple items).Throughout p ↔
    p (.tuple items) ∧ ∀ v ∈ items, v.Throughout p := by
  simp only [Throughout, contents, List.forall_mem_cons, mem_contentsItems]
  exact and_congr_right fun _ => ⟨fun h v hv part hp => h part ⟨v, hv, hp⟩,
    fun h part ⟨v, hv, hp⟩ => h v hv part hp⟩

theorem throughout_dict {entries : List (Value × Value)} : (Value.dict entries).Throughout p ↔
    p (.dict entries) ∧ ∀ e ∈ entries, e.2.Throughout p := by
  simp only [Throughout, contents, List.forall_mem_cons, mem_contentsMembers]
  exact and_congr_right fun _ => ⟨fun h e he part hp => h part ⟨e, he, hp⟩,
    fun h part ⟨e, he, hp⟩ => h e he part hp⟩

end Throughout

/-! ## Nesting -/

mutual

/-- How deeply sequences and tables are nested. -/
def nesting : Value → Nat
  | .list items => nestingItems items + 1
  | .tuple items => nestingItems items + 1
  | .dict entries => nestingMembers entries + 1
  | _ => 0

/-- The greatest nesting of an item. -/
def nestingItems : List Value → Nat
  | [] => 0
  | v :: rest => max (nesting v) (nestingItems rest)

/-- The greatest nesting of the value of a member. -/
def nestingMembers : List (Value × Value) → Nat
  | [] => 0
  | (_, v) :: rest => max (nesting v) (nestingMembers rest)

end

theorem nestingItems_le_iff {items : List Value} {depth : Nat} :
    nestingItems items ≤ depth ↔ ∀ v ∈ items, nesting v ≤ depth := by
  induction items with
  | nil => simp [nestingItems]
  | cons v rest ih => rw [nestingItems, Nat.max_le, ih, List.forall_mem_cons]

theorem nestingMembers_le_iff {entries : List (Value × Value)} {depth : Nat} :
    nestingMembers entries ≤ depth ↔ ∀ e ∈ entries, nesting e.2 ≤ depth := by
  induction entries with
  | nil => simp [nestingMembers]
  | cons e rest ih => rw [nestingMembers, Nat.max_le, ih, List.forall_mem_cons]

/-! ## Texts -/

/-- The code points of a broken text: some are halves of surrogate pairs, and no two of them make up
a character. -/
def LoneHalves (points : List Nat) : Prop :=
  (∀ n ∈ points, n < 0x110000) ∧ (∃ n ∈ points, ¬n.isValidChar) ∧ Json.Unpaired points

instance (points : List Nat) : Decidable (LoneHalves points) :=
  inferInstanceAs (Decidable (_ ∧ _ ∧ _))

/-- Where a value is a broken text, no two halves in it make up a character. -/
def Unjoined : Value → Prop
  | .brokenText points => LoneHalves points
  | _ => True

instance : DecidablePred Unjoined
  | .brokenText points => inferInstanceAs (Decidable (LoneHalves points))
  | .null | .bool _ | .int _ | .float _ | .str _ | .bytes _ | .list _ | .tuple _ | .dict _
  | .severity _ | .setting .. | .module _ | .handle _ | .language .. | .moment _ =>
    inferInstanceAs (Decidable True)

/-- A text that a document can hold. -/
def IsText (v : Value) : Prop :=
  v.isText = true ∧ v.Unjoined

instance (v : Value) : Decidable v.IsText :=
  inferInstanceAs (Decidable (_ ∧ _))

/-- Code points of which some is no character are those of a broken text. -/
theorem LoneHalves.ofPoints {points : List Nat} (h : LoneHalves points) :
    ofPoints points = .brokenText points := by
  obtain ⟨-, ⟨n, hn, hvalid⟩, -⟩ := h
  refine if_neg fun hall => hvalid ?_
  exact of_decide_eq_true (List.all_eq_true.1 hall n hn)

/-! ## Documents -/

/-- What a part of a document is: null, a truth value, an integer, a text, a sequence, or a table
that has texts as keys and one entry for each. -/
def JsonPart : Value → Prop
  | .null | .bool _ | .int _ | .str _ | .severity _ | .list _ | .tuple _ => True
  | .brokenText points => LoneHalves points
  | .dict entries => (∀ e ∈ entries, e.1.IsText) ∧ Entries.Distinct entries
  | _ => False

instance (entries : List (Value × Value)) : Decidable (Entries.Distinct entries) :=
  inferInstanceAs (Decidable (entries.Pairwise fun a b => same a.1 b.1 = false))

instance : DecidablePred JsonPart
  | .null | .bool _ | .int _ | .str _ | .severity _ | .list _ | .tuple _ =>
    inferInstanceAs (Decidable True)
  | .brokenText points => inferInstanceAs (Decidable (LoneHalves points))
  | .dict entries =>
    inferInstanceAs (Decidable ((∀ e ∈ entries, e.1.IsText) ∧ Entries.Distinct entries))
  | .float _ | .bytes _ | .setting .. | .module _ | .handle _ | .language .. | .moment _ =>
    inferInstanceAs (Decidable False)

/-- A value that a document can hold, floating point numbers left aside. -/
def IsJson (v : Value) : Prop :=
  v.Throughout JsonPart

instance (v : Value) : Decidable v.IsJson :=
  inferInstanceAs (Decidable (v.Throughout JsonPart))

/-- How many digits an integer has; another value has none. -/
def digitCount : Value → Nat
  | .int n => (Nat.toDigits 10 n.natAbs).length
  | _ => 0

/-- A part of a document in which no integer is too long. -/
def Readable (digits : Nat) (part : Value) : Prop :=
  part.JsonPart ∧ part.digitCount ≤ digits

/-! ## What comes back -/

mutual

/-- What comes back for a value: a list for a tuple, a text for a severity, and everything else as it
was. -/
def plain : Value → Value
  | .list items => .list (plainItems items)
  | .tuple items => .list (plainItems items)
  | .dict entries => .dict (plainMembers entries)
  | .severity s => .str s.word
  | v => v

/-- `plain` for every item. -/
def plainItems : List Value → List Value
  | [] => []
  | v :: rest => plain v :: plainItems rest

/-- `plain` for every key and value. -/
def plainMembers : List (Value × Value) → List (Value × Value)
  | [] => []
  | (k, v) :: rest => (plain k, plain v) :: plainMembers rest

end

theorem plainItems_eq_map (items : List Value) : plainItems items = items.map plain := by
  induction items with
  | nil => rfl
  | cons v rest ih => rw [plainItems, ih, List.map_cons]

theorem plainMembers_eq_map (entries : List (Value × Value)) :
    plainMembers entries = entries.map fun e => (plain e.1, plain e.2) := by
  induction entries with
  | nil => rfl
  | cons e rest ih => rw [plainMembers, ih, List.map_cons]

/-- What comes back for a text is a text. -/
theorem isText_plain {v : Value} (h : v.isText = true) : v.plain.isText = true := by
  cases v with
  | str _ | severity _ | brokenText _ => rfl
  | _ => cases h

/-- A key that is a text names the same entry when it comes back. -/
theorem keyForm_plain {k : Value} (h : k.isText = true) : keyForm k.plain = keyForm k := by
  cases k with
  | str _ | severity _ | brokenText _ => rfl
  | _ => cases h

/-- One entry for each key is what comes back, too. -/
theorem distinct_plainMembers {entries : List (Value × Value)}
    (htext : ∀ e ∈ entries, e.1.IsText) (h : Entries.Distinct entries) :
    Entries.Distinct (plainMembers entries) := by
  rw [plainMembers_eq_map, Entries.Distinct, List.pairwise_map]
  refine List.Pairwise.imp_of_mem (fun {a b} ha hb hab => ?_) h
  simp only [same, keyForm_plain (htext a ha).1, keyForm_plain (htext b hb).1] at hab ⊢
  exact hab

end LayeredLint.Value
