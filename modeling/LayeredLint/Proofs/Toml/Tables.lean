import LayeredLint.Proofs.Except
import LayeredLint.Proofs.Json.Document
import LayeredLint.Toml.Document

/-!
# The tables that statements make

Statements are the only way to build a document, and each of them changes one table along a path of
names. So every table has texts as keys and one entry for each of them.

- `Value.Named`: a value in which every table is like that.
- `Toml.Keeps`: a change of a table that keeps it so; `Toml.keeps_updateAt?`: such a change may be
  made at the end of a path.
- `Toml.Document.Named`: the document built so far; `openTable_builds`, `openItem_builds`,
  `assign_builds`: **each statement keeps it so**, and is refused as malformed only.
-/

namespace LayeredLint

namespace Value

/-! ## Tables of names -/

/-- A table has texts as keys, and one entry for each. -/
def NamedPart : Value → Prop
  | .dict entries => (∀ e ∈ entries, ∃ s, e.1 = .str s) ∧ Entries.Distinct entries
  | _ => True

/-- Every table in a value has texts as keys, and one entry for each. -/
def Named (v : Value) : Prop :=
  v.Throughout NamedPart

theorem named_list {items : List Value} : (Value.list items).Named ↔ ∀ v ∈ items, v.Named :=
  throughout_list.trans (and_iff_right trivial)

theorem named_dict {entries : List (Value × Value)} : (Value.dict entries).Named ↔
    ((∀ e ∈ entries, ∃ s, e.1 = .str s) ∧ Entries.Distinct entries) ∧ ∀ e ∈ entries, e.2.Named :=
  throughout_dict

theorem named_dict_nil : (Value.dict []).Named :=
  named_dict.2 ⟨⟨List.forall_mem_nil _, List.Pairwise.nil⟩, List.forall_mem_nil _⟩

theorem Named.of_find? {entries : List (Value × Value)} (h : (Value.dict entries).Named)
    {k v : Value} (hv : Entries.find? k entries = some v) : v.Named := by
  obtain ⟨e, he, -, rfl⟩ := Entries.mem_of_find? hv
  exact (named_dict.1 h).2 e he

/-- An assignment changes the value of an entry, or adds the entry. -/
theorem mem_insert {k v : Value} {entries : List (Value × Value)} {e : Value × Value}
    (h : e ∈ Entries.insert k v entries) :
    e ∈ entries ∨ e = (k, v) ∨ ∃ e' ∈ entries, e = (e'.1, v) := by
  induction entries with
  | nil => exact .inr (.inl (List.mem_singleton.1 h))
  | cons e₀ rest ih =>
    rw [Entries.insert] at h
    split at h
    · rcases List.mem_cons.1 h with rfl | h
      · exact .inr (.inr ⟨e₀, List.mem_cons_self, rfl⟩)
      · exact .inl (List.mem_cons_of_mem _ h)
    · rcases List.mem_cons.1 h with rfl | h
      · exact .inl List.mem_cons_self
      · rcases ih h with h | h | ⟨e', he', h⟩
        · exact .inl (List.mem_cons_of_mem _ h)
        · exact .inr (.inl h)
        · exact .inr (.inr ⟨e', List.mem_cons_of_mem _ he', h⟩)

theorem Named.insert {entries : List (Value × Value)} (h : (Value.dict entries).Named)
    (name : String) {v : Value} (hv : v.Named) :
    (Value.dict (Entries.insert (.str name) v entries)).Named := by
  obtain ⟨⟨hkeys, hdistinct⟩, hvalues⟩ := named_dict.1 h
  refine named_dict.2 ⟨⟨fun e he => ?_, hdistinct.insert _ v⟩, fun e he => ?_⟩
  · rcases mem_insert he with he | rfl | ⟨e', he', rfl⟩
    · exact hkeys e he
    · exact ⟨name, rfl⟩
    · exact hkeys e' he'
  · rcases mem_insert he with he | rfl | ⟨_, -, rfl⟩
    · exact hvalues e he
    · exact hv
    · exact hv

end Value

namespace Toml

open Value (Named)

/-! ## Changes along a path -/

/-- A change that keeps tables of names. -/
def Keeps (change : Entries → Option Entries) : Prop :=
  ∀ entries changed, (Value.dict entries).Named → change entries = some changed →
    (Value.dict changed).Named

theorem keeps_some : Keeps some := by
  rintro entries _ h ⟨⟩
  exact h

theorem keeps_insertNew? (name : String) {v : Value} (hv : v.Named) :
    Keeps (insertNew? name v) := by
  intro entries changed h hchanged
  unfold insertNew? at hchanged
  split at hchanged
  · cases hchanged
  · cases hchanged
    exact h.insert name hv

theorem keeps_addItem? (name : String) : Keeps (addItem? name) := by
  intro entries changed h hchanged
  unfold addItem? at hchanged
  split at hchanged
  · cases hchanged
    exact h.insert name (Value.named_list.2 (List.forall_mem_singleton.2 Value.named_dict_nil))
  · next items hitems =>
    cases hchanged
    have hold : ∀ v ∈ items, v.Named := Value.named_list.1 (h.of_find? hitems)
    refine h.insert name (Value.named_list.2 (List.forall_mem_append.2 ⟨hold, ?_⟩))
    exact List.forall_mem_singleton.2 Value.named_dict_nil
  · cases hchanged

/-- The table that is changed may be the value itself, or the last item of an array. -/
theorem named_of_updateTable? {throughArrays : Bool} {change : Entries → Option Entries}
    (hchange : Keeps change) {v changed : Value} (hv : v.Named)
    (h : updateTable? throughArrays change v = some changed) : changed.Named := by
  unfold updateTable? at h
  split at h
  · next entries =>
    obtain ⟨entries', hentries, rfl⟩ := Option.map_eq_some_iff.1 h
    exact hchange entries entries' hv hentries
  · next items =>
    split at h
    · cases h
    · obtain ⟨entries, hlast, h⟩ := Option.bind_eq_some_iff.1 h
      obtain ⟨entries', hentries, h⟩ := Option.bind_eq_some_iff.1 h
      cases h
      obtain ⟨last, hmem, htable⟩ := Option.bind_eq_some_iff.1 hlast
      have hitems := Value.named_list.1 hv
      have hold : (Value.dict entries).Named := by
        have hlastNamed := hitems last (List.mem_of_getLast? hmem)
        cases last with
        | dict entries₀ => cases htable; exact hlastNamed
        | _ => cases htable
      refine Value.named_list.2 (List.forall_mem_append.2 ⟨fun v hmem => ?_, ?_⟩)
      · exact hitems v ((List.dropLast_sublist items).mem hmem)
      · exact List.forall_mem_singleton.2 (hchange entries entries' hold hentries)
  · cases h

/-- A change may be made at the end of a path. -/
theorem keeps_updateAt? {throughArrays : Bool} {change : Entries → Option Entries}
    (hchange : Keeps change) (key : Key) : Keeps (updateAt? throughArrays change key) := by
  induction key with
  | nil => exact hchange
  | cons part rest ih =>
    intro entries changed h hchanged
    obtain ⟨v, hv, hchanged⟩ := Option.bind_eq_some_iff.1 hchanged
    cases hchanged
    refine h.insert part (named_of_updateTable? ih ?_ hv)
    -- a table that is not there starts out empty
    cases hfind : LayeredLint.Entries.find? (Value.str part) entries with
    | none => exact Value.named_dict_nil
    | some current => exact h.of_find? hfind

/-! ## Statements -/

/-- An answer that is refused as malformed only. -/
abbrev Builds {α : Type} (right : α → Prop) (x : Except Fault α) : Prop :=
  Meets (· = .malformed) right x

theorem builds_malformed {α : Type} {right : α → Prop} : Builds right (malformed : Except Fault α) :=
  rfl

theorem orMalformed_builds {α : Type} (x : Option α) :
    Builds (fun a => x = some a) (orMalformed x) := by
  cases x with
  | none => rfl
  | some a => rfl

namespace Document

/-- Every table of a document has texts as keys, and one entry for each. -/
def Named (d : Document) : Prop :=
  (Value.dict d.entries).Named

variable {d : Document}

/-- **A header opens a table** that is there or empty. -/
theorem openTable_builds (h : d.Named) (key : Key) : Builds Named (d.openTable key) := by
  unfold openTable
  split
  · exact builds_malformed
  · refine (orMalformed_builds _).bind fun entries hentries => ?_
    exact keeps_updateAt? keeps_some key _ entries h hentries

/-- **A header adds a table** to an array. -/
theorem openItem_builds (h : d.Named) (key : Key) : Builds Named (d.openItem key) := by
  unfold openItem
  split
  · exact builds_malformed
  · refine (orMalformed_builds _).bind fun (parent, name) _ => ?_
    refine (orMalformed_builds _).bind fun entries hentries => ?_
    exact keeps_updateAt? (keeps_addItem? name) parent _ entries h hentries

/-- **An entry is added** to the table that was opened last. -/
theorem assign_builds (h : d.Named) (key : Key) {v : Value} (hv : v.Named) :
    Builds Named (d.assign key v) := by
  unfold assign
  refine (orMalformed_builds _).bind fun (parent, name) _ => ?_
  dsimp only
  split
  · exact builds_malformed
  · refine (orMalformed_builds _).bind fun entries hentries => ?_
    exact keeps_updateAt? (keeps_insertNew? name hv) _ _ entries h hentries

end Document

/-- An entry is added to a table written in place. -/
theorem assignInline_builds {entries : Entries} (h : (Value.dict entries).Named)
    (filled : List Key) (key : Key) {v : Value} (hv : v.Named) :
    Builds (fun a => (Value.dict a.1).Named) (assignInline entries filled key v) := by
  unfold assignInline
  by_cases hfilled : (filled.any fun c => c.isPrefixOf key) = true
  · rw [if_pos hfilled]
    exact builds_malformed
  · rw [if_neg hfilled]
    refine (orMalformed_builds _).bind fun (parent, name) _ => ?_
    refine (orMalformed_builds _).bind fun entries' hentries => ?_
    exact keeps_updateAt? (keeps_insertNew? name hv) _ _ entries' h hentries

end Toml

end LayeredLint
