import LayeredLint.Report

/-!
# Messages of a report

What a report holds is any document. The messages in it are the tables in the lists of messages of
its entries, and everything else is passed over.

- `MessageIn`: a report holds a message.
- `TablesAmong`, `MessagesOf`: the tables among some items, and the messages of a report, in order.
- `messagesOf_iff`: **these messages are the ones that become diagnostics**.
- `readReport_of_read`: the answer for a text that is a report.
-/

namespace LayeredLint

/-! ## Single messages -/

/-- A report holds a message: a table in the list of messages of one of its entries. -/
def MessageIn (entries : List Value) (message : List (Value × Value)) : Prop :=
  ∃ fields messages, Value.dict fields ∈ entries ∧
    Diagnostic.member fields "messages" = .list messages ∧ Value.dict message ∈ messages

theorem mem_entryMessages {entry : Value} {message : List (Value × Value)} :
    message ∈ entryMessages entry ↔
      ∃ fields messages, entry = .dict fields ∧
        Diagnostic.member fields "messages" = .list messages ∧ Value.dict message ∈ messages := by
  constructor
  · intro h
    unfold entryMessages at h
    split at h
    · next fields =>
      split at h
      · next messages hmember =>
        obtain ⟨item, hitem, htable⟩ := List.mem_filterMap.1 h
        refine ⟨fields, messages, rfl, hmember, ?_⟩
        cases item with
        | dict table => exact Option.some.inj htable ▸ hitem
        | _ => cases htable
      · cases h
    · cases h
  · rintro ⟨fields, messages, rfl, hmember, hmem⟩
    unfold entryMessages
    simp only [hmember]
    exact List.mem_filterMap.2 ⟨_, hmem, rfl⟩

theorem mem_flatMap_entryMessages {entries : List Value} {message : List (Value × Value)} :
    message ∈ entries.flatMap entryMessages ↔ MessageIn entries message := by
  rw [List.mem_flatMap]
  constructor
  · rintro ⟨entry, hentry, hmessage⟩
    obtain ⟨fields, messages, rfl, hmember, hmem⟩ := mem_entryMessages.1 hmessage
    exact ⟨fields, messages, hentry, hmember, hmem⟩
  · rintro ⟨fields, messages, hentry, hmember, hmem⟩
    exact ⟨_, hentry, mem_entryMessages.2 ⟨fields, messages, rfl, hmember, hmem⟩⟩

/-! ## All messages in order -/

/-- The tables among some items, in order. Every other item is passed over. -/
inductive TablesAmong : List Value → List (List (Value × Value)) → Prop
  | nil : TablesAmong [] []
  | keep {table : List (Value × Value)} {items : List Value}
      {tables : List (List (Value × Value))} :
      TablesAmong items tables → TablesAmong (.dict table :: items) (table :: tables)
  | skip {item : Value} {items : List Value} {tables : List (List (Value × Value))} :
      (∀ table, item ≠ .dict table) → TablesAmong items tables → TablesAmong (item :: items) tables

/-- The messages of a report, in order. Every entry that is no table with a list of messages is
passed over. -/
inductive MessagesOf : List Value → List (List (Value × Value)) → Prop
  | nil : MessagesOf [] []
  | keep {fields : List (Value × Value)} {items entries : List Value}
      {tables messages : List (List (Value × Value))} :
      Diagnostic.member fields "messages" = .list items → TablesAmong items tables →
      MessagesOf entries messages → MessagesOf (.dict fields :: entries) (tables ++ messages)
  | skip {entry : Value} {entries : List Value} {messages : List (List (Value × Value))} :
      (∀ fields items, entry = .dict fields →
        Diagnostic.member fields "messages" ≠ .list items) →
      MessagesOf entries messages → MessagesOf (entry :: entries) messages

/-- A table as such, and nothing for any other item. -/
def table? : Value → Option (List (Value × Value))
  | .dict table => some table
  | _ => none

theorem table?_eq_none {item : Value} (h : ∀ table, item ≠ .dict table) : table? item = none := by
  cases item with
  | dict table => exact absurd rfl (h table)
  | _ => rfl

theorem entryMessages_of_list {fields : List (Value × Value)} {items : List Value}
    (h : Diagnostic.member fields "messages" = .list items) :
    entryMessages (.dict fields) = items.filterMap table? := by
  simp only [entryMessages, h]
  rfl

theorem entryMessages_of_other {entry : Value}
    (h : ∀ fields items, entry = .dict fields →
      Diagnostic.member fields "messages" ≠ .list items) : entryMessages entry = [] := by
  unfold entryMessages
  split
  · next fields =>
    split
    · next items hmember => exact absurd hmember (h fields items rfl)
    · rfl
  · rfl

theorem tablesAmong_filterMap (items : List Value) :
    TablesAmong items (items.filterMap table?) := by
  induction items with
  | nil => exact .nil
  | cons item items ih =>
    by_cases htable : ∃ table, item = .dict table
    · obtain ⟨table, rfl⟩ := htable
      exact .keep ih
    · have hother := not_exists.1 htable
      rw [List.filterMap_cons_none (table?_eq_none hother)]
      exact .skip hother ih

theorem TablesAmong.eq_filterMap {items : List Value} {tables : List (List (Value × Value))}
    (h : TablesAmong items tables) : items.filterMap table? = tables := by
  induction h with
  | nil => rfl
  | keep _ ih => exact congrArg (List.cons _) ih
  | skip hother _ ih => rw [List.filterMap_cons_none (table?_eq_none hother), ih]

theorem messagesOf_flatMap (entries : List Value) :
    MessagesOf entries (entries.flatMap entryMessages) := by
  induction entries with
  | nil => exact .nil
  | cons entry entries ih =>
    rw [List.flatMap_cons]
    by_cases hlist : ∃ fields items, entry = .dict fields ∧
        Diagnostic.member fields "messages" = .list items
    · obtain ⟨fields, items, rfl, hmember⟩ := hlist
      rw [entryMessages_of_list hmember]
      exact .keep hmember (tablesAmong_filterMap items) ih
    · have hother : ∀ fields items, entry = .dict fields →
          Diagnostic.member fields "messages" ≠ .list items :=
        fun fields items hentry hmember => hlist ⟨fields, items, hentry, hmember⟩
      rw [entryMessages_of_other hother]
      exact .skip hother ih

/-- The messages of a report are the ones that its diagnostics are made of. -/
theorem messagesOf_iff {entries : List Value} {messages : List (List (Value × Value))} :
    MessagesOf entries messages ↔ entries.flatMap entryMessages = messages := by
  constructor
  · intro h
    induction h with
    | nil => rfl
    | keep hmember htables _ ih =>
      rw [List.flatMap_cons, entryMessages_of_list hmember, htables.eq_filterMap, ih]
    | skip hother _ ih => rw [List.flatMap_cons, entryMessages_of_other hother, ih, List.nil_append]
  · rintro rfl
    exact messagesOf_flatMap entries

/-! ## Texts that are reports -/

/-- An empty text is no document. -/
theorem ne_empty_of_read {stdout : String} {v : Value} (h : Json.read stdout = .ok v) :
    stdout ≠ "" := by
  rintro rfl
  cases h

theorem readReport_of_read {stdout : String} {entries : List Value}
    (h : Json.read stdout = .ok (.list entries)) :
    readReport stdout = reportDiagnostics entries := by
  simp only [readReport, if_neg (ne_empty_of_read h), h]

end LayeredLint
