import LayeredLint.Proofs.Json.ReadBack

/-!
# Values that can be printed

A value has a text where it is made of scalars, sequences and tables, and where the keys of its tables
are scalars, as every one of them can be spelled out.

- `Value.Serialisable`: a value that can be printed, floating point numbers and all.
- `Value.Serialisable.copyable`: it can be copied, too.
- `Json.isSome_text?_iff`: **these values have a text, and no others**.
-/

namespace LayeredLint

namespace Value

/-- A value without parts that can be printed: null, a truth value, a number, or a text, broken or
not. -/
def Scalar : Value → Prop
  | .null | .bool _ | .int _ | .float _ | .str _ | .brokenText _ | .severity _ => True
  | _ => False

/-- A part of a value that can be printed: a scalar, a sequence, or a table with scalars as keys. -/
def SerialisablePart : Value → Prop
  | .list _ | .tuple _ => True
  | .dict entries => ∀ e ∈ entries, e.1.Scalar
  | v => v.Scalar

instance : DecidablePred Scalar
  | .null | .bool _ | .int _ | .float _ | .str _ | .brokenText _ | .severity _ =>
    inferInstanceAs (Decidable True)
  | .bytes _ | .list _ | .tuple _ | .dict _ | .setting .. | .module _ | .handle _ | .language ..
  | .moment _ => inferInstanceAs (Decidable False)

instance : DecidablePred SerialisablePart
  | .list _ | .tuple _ => inferInstanceAs (Decidable True)
  | .dict entries => inferInstanceAs (Decidable (∀ e ∈ entries, e.1.Scalar))
  | .null | .bool _ | .int _ | .float _ | .str _ | .brokenText _ | .severity _ =>
    inferInstanceAs (Decidable True)
  | .bytes _ | .setting .. | .module _ | .handle _ | .language .. | .moment _ =>
    inferInstanceAs (Decidable False)

/-- A value that can be printed. -/
def Serialisable (v : Value) : Prop :=
  v.Throughout SerialisablePart

instance (v : Value) : Decidable v.Serialisable :=
  inferInstanceAs (Decidable (v.Throughout SerialisablePart))

theorem serialisable_list {items : List Value} :
    (Value.list items).Serialisable ↔ ∀ v ∈ items, v.Serialisable :=
  throughout_list.trans (and_iff_right trivial)

theorem serialisable_tuple {items : List Value} :
    (Value.tuple items).Serialisable ↔ ∀ v ∈ items, v.Serialisable :=
  throughout_tuple.trans (and_iff_right trivial)

theorem serialisable_dict {entries : List (Value × Value)} :
    (Value.dict entries).Serialisable ↔
      (∀ e ∈ entries, e.1.Scalar) ∧ ∀ e ∈ entries, e.2.Serialisable :=
  throughout_dict

/-- A scalar can be printed. -/
theorem Scalar.serialisable {v : Value} (h : v.Scalar) : v.Serialisable := by
  cases v with
  | null | bool _ | int _ | float _ | str _ | brokenText _ | severity _ =>
    exact .of_leaf rfl trivial
  | _ => exact h.elim

theorem scalar_of_isText {v : Value} (h : v.isText = true) : v.Scalar := by
  cases v with
  | str _ | brokenText _ | severity _ => trivial
  | _ => cases h

/-- Part by part, what a document can hold can be printed. -/
theorem IsJson.serialisable {v : Value} (h : v.IsJson) : v.Serialisable := by
  intro part hp
  have hpart := h part hp
  cases part with
  | dict entries => exact fun e he => scalar_of_isText (hpart.1 e he).1
  | null | bool _ | int _ | str _ | brokenText _ | list _ | tuple _ | severity _ => trivial
  | _ => exact hpart.elim

/-! ## Copies -/

theorem Scalar.copyable {v : Value} (h : v.Scalar) : Value.copyable v = true := by
  cases v with
  | null | bool _ | int _ | float _ | str _ | brokenText _ | severity _ => rfl
  | _ => exact h.elim

mutual

/-- What can be printed can be copied in depth. -/
theorem Serialisable.copyable : ∀ {v : Value}, v.Serialisable → Value.copyable v = true
  | .list _, h => copyableItems_of_serialisable (serialisable_list.1 h)
  | .tuple _, h => copyableItems_of_serialisable (serialisable_tuple.1 h)
  | .dict _, h =>
    copyableEntries_of_serialisable (serialisable_dict.1 h).1 (serialisable_dict.1 h).2
  | .null, _ | .bool _, _ | .int _, _ | .float _, _ | .str _, _ | .brokenText _, _
  | .severity _, _ => rfl
  | .bytes _, h | .setting .., h | .module _, h | .handle _, h | .language .., h | .moment _, h =>
    h.self.elim

theorem copyableItems_of_serialisable : ∀ {items : List Value}, (∀ v ∈ items, v.Serialisable) →
    copyableItems items = true
  | [], _ => rfl
  | v :: rest, h => by
    rw [List.forall_mem_cons] at h
    rw [copyableItems, h.1.copyable, copyableItems_of_serialisable h.2]
    rfl

theorem copyableEntries_of_serialisable : ∀ {entries : List (Value × Value)},
    (∀ e ∈ entries, e.1.Scalar) → (∀ e ∈ entries, e.2.Serialisable) →
      copyableEntries entries = true
  | [], _, _ => rfl
  | (k, v) :: rest, hkeys, hvalues => by
    rw [List.forall_mem_cons] at hkeys hvalues
    rw [copyableEntries, hkeys.1.copyable, hvalues.1.copyable,
      copyableEntries_of_serialisable hkeys.2 hvalues.2]
    rfl

end

end Value

namespace Json

/-! ## Which values have a text -/

theorem isSome_keyText?_iff {k : Value} : (keyText? k).isSome = true ↔ k.Scalar := by
  cases k with
  | null | bool _ | int _ | float _ | str _ | brokenText _ | severity _ =>
    exact iff_of_true rfl trivial
  | _ => exact iff_of_false Bool.false_ne_true id

mutual

/-- **A value has a text if it can be printed**, in every layout. -/
theorem isSome_text?_iff (layout : Layout) (level : Nat) : ∀ v : Value,
    (text? layout level v).isSome = true ↔ v.Serialisable
  | .list items => by
    rw [text?, Option.isSome_map, isSome_itemTexts?_iff, Value.serialisable_list]
  | .tuple items => by
    rw [text?, Option.isSome_map, isSome_itemTexts?_iff, Value.serialisable_tuple]
  | .dict entries => by
    rw [text?, Option.isSome_map, isSome_memberTexts?_iff, Value.serialisable_dict]
  | .null | .bool _ | .int _ | .float _ | .str _ | .brokenText _ | .severity _ =>
    iff_of_true rfl (.of_leaf rfl trivial)
  | .bytes _ | .setting .. | .module _ | .handle _ | .language .. | .moment _ =>
    iff_of_false Bool.false_ne_true fun h => h.self

theorem isSome_itemTexts?_iff (layout : Layout) (level : Nat) : ∀ items : List Value,
    (itemTexts? layout level items).isSome = true ↔ ∀ v ∈ items, v.Serialisable
  | [] => iff_of_true rfl (List.forall_mem_nil _)
  | v :: rest => by
    rw [List.forall_mem_cons, ← isSome_text?_iff layout level v,
      ← isSome_itemTexts?_iff layout level rest, itemTexts?]
    cases text? layout level v <;> cases itemTexts? layout level rest <;> simp

theorem isSome_memberTexts?_iff (layout : Layout) (level : Nat) :
    ∀ entries : List (Value × Value), (memberTexts? layout level entries).isSome = true ↔
      (∀ e ∈ entries, e.1.Scalar) ∧ ∀ e ∈ entries, e.2.Serialisable
  | [] => iff_of_true rfl ⟨List.forall_mem_nil _, List.forall_mem_nil _⟩
  | (k, v) :: rest => by
    rw [List.forall_mem_cons, List.forall_mem_cons, and_and_and_comm, ← isSome_keyText?_iff,
      ← isSome_text?_iff layout level v, ← isSome_memberTexts?_iff layout level rest, memberTexts?]
    cases keyText? k <;> cases text? layout level v <;> cases memberTexts? layout level rest <;> simp

end

end Json

end LayeredLint
