import LayeredLint.Proofs.Except
import LayeredLint.Record.Field

/-!
# Checks of records

A check of a record collects issues from all its parts. It succeeds when every part does, and says
what is wrong where it fails.

- `Checked.under_eq_ok_iff`, `Checked.apply_eq_ok_iff`, `Checked.all_eq_ok_iff`,
  `Checked.alsoRefuse_eq_ok_iff`: the combinators, one by one.
- `Checked.issues`: everything that is wrong; `Checked.issues_apply`, `Checked.issues_alsoRefuse`:
  what is wrong with the parts, in order.
- `Checked.Explained`: a check that fails has an issue.
- `itemsOfValue_eq_ok_iff`: a sequence is converted when each of its items is.
- `textOfValue_eq_ok_iff`: what is converted to a text.
- `field_eq_ok_iff`: a field has its default, or what is given for it is converted.
- `requiredField_plain_eq_ok_iff`: what is required is given and converted.
-/

namespace LayeredLint.Record

variable {α β : Type}

namespace Checked

theorem under_eq_ok_iff {step : Step} {c : Checked α} {a : α} : c.under step = .ok a ↔ c = .ok a := by
  cases c with
  | error issues => exact iff_of_false (fun h => by cases h) (fun h => by cases h)
  | ok b => exact Iff.rfl

theorem apply_eq_ok_iff {f : Checked (α → β)} {c : Checked α} {b : β} :
    Checked.apply f c = .ok b ↔ ∃ g a, f = .ok g ∧ c = .ok a ∧ g a = b := by
  constructor
  · intro h
    cases f with
    | error issues => cases c <;> cases h
    | ok g =>
      cases c with
      | error issues => cases h
      | ok a => exact ⟨g, a, rfl, rfl, Except.ok.inj h⟩
  · rintro ⟨g, a, rfl, rfl, rfl⟩
    rfl

/-- Several checks succeed when each of them does, with the results in order. -/
theorem all_eq_ok_iff {checks : List (Checked α)} {results : List α} :
    Checked.all checks = .ok results ↔ List.Forall₂ (fun c a => c = .ok a) checks results := by
  induction checks generalizing results with
  | nil =>
    rw [List.forall₂_nil_left_iff]
    exact ⟨fun h => (Except.ok.inj h).symm, fun h => h ▸ rfl⟩
  | cons c rest ih =>
    rw [Checked.all, List.forall₂_cons_left_iff]
    constructor
    · intro h
      obtain ⟨g, as, hg, has, rfl⟩ := apply_eq_ok_iff.1 h
      obtain ⟨g', a, hg', ha, rfl⟩ := apply_eq_ok_iff.1 hg
      cases hg'
      exact ⟨a, as, ha, ih.1 has, rfl⟩
    · rintro ⟨a, as, ha, has, rfl⟩
      exact apply_eq_ok_iff.2 ⟨_, as, apply_eq_ok_iff.2 ⟨_, a, rfl, ha, rfl⟩, ih.2 has, rfl⟩

theorem alsoRefuse_eq_ok_iff {c : Checked α} {issues : List Issue} {a : α} :
    c.alsoRefuse issues = .ok a ↔ c = .ok a ∧ issues = [] := by
  unfold alsoRefuse
  cases issues with
  | nil => exact (and_iff_left rfl).symm
  | cons issue rest =>
    rw [if_neg (by simp)]
    constructor
    · intro h
      obtain ⟨_, _, -, hrefused, -⟩ := apply_eq_ok_iff.1 h
      cases hrefused
    · rintro ⟨-, h⟩
      cases h

/-! ## Issues -/

/-- Everything that is wrong according to a check. -/
def issues : Checked α → List Issue
  | .ok _ => []
  | .error issues => issues

theorem issues_apply (f : Checked (α → β)) (c : Checked α) :
    (Checked.apply f c).issues = f.issues ++ c.issues := by
  cases f with
  | ok g => cases c <;> rfl
  | error others =>
    cases c with
    | ok a => exact (List.append_nil others).symm
    | error issues => rfl

theorem issues_map (f : α → β) (c : Checked α) : Checked.issues (c.map f) = c.issues := by
  cases c <;> rfl

theorem issues_under (step : Step) (c : Checked α) :
    (c.under step).issues = c.issues.map (Issue.under step) := by
  cases c <;> rfl

theorem issues_alsoRefuse (c : Checked α) (more : List Issue) :
    (c.alsoRefuse more).issues = c.issues ++ more := by
  unfold alsoRefuse
  cases more with
  | nil => exact (List.append_nil c.issues).symm
  | cons issue rest =>
    rw [if_neg (by simp), issues_apply, issues_apply]
    rfl

theorem under_eq_error_iff {step : Step} {c : Checked α} {issues : List Issue} :
    c.under step = .error issues ↔ ∃ inner, c = .error inner ∧ issues = inner.map (Issue.under step) := by
  cases c with
  | error inner =>
    constructor
    · intro h
      exact ⟨inner, rfl, (Except.error.inj h).symm⟩
    · rintro ⟨_, h, rfl⟩
      cases h
      rfl
  | ok a => exact iff_of_false (fun h => by cases h) (fun ⟨_, h, _⟩ => by cases h)

/-! ## Checks that fail -/

/-- A check that fails says what is wrong. -/
def Explained (c : Checked α) : Prop :=
  c ≠ .error []

theorem explained_ok {a : α} : Explained (.ok a : Checked α) := by
  intro h
  cases h

theorem explained_issue {kind : IssueKind} : Explained (issue kind : Checked α) := by
  intro h
  cases h

theorem Explained.map {c : Checked α} (h : c.Explained) (f : α → β) :
    Explained (f <$> c : Checked β) :=
  fun hmap => h (map_eq_error.1 hmap)

theorem Explained.under {c : Checked α} (h : c.Explained) (step : Step) :
    (c.under step).Explained := by
  intro hunder
  obtain ⟨inner, hc, hinner⟩ := under_eq_error_iff.1 hunder
  rw [List.map_eq_nil_iff.1 hinner.symm] at hc
  exact h hc

theorem Explained.apply {f : Checked (α → β)} {c : Checked α} (hf : f.Explained)
    (hc : c.Explained) : (Checked.apply f c).Explained := by
  intro h
  cases f with
  | ok g =>
    cases c with
    | ok a => cases h
    | error issues => exact hc (congrArg Except.error (Except.error.inj h))
  | error issues =>
    cases c with
    | ok a => exact hf (congrArg Except.error (Except.error.inj h))
    | error others =>
      have both : issues ++ others = [] := Except.error.inj h
      exact hf (congrArg Except.error (List.append_eq_nil_iff.1 both).1)

theorem Explained.all {checks : List (Checked α)} (h : ∀ c ∈ checks, c.Explained) :
    (Checked.all checks).Explained := by
  induction checks with
  | nil => exact explained_ok
  | cons c rest ih =>
    rw [List.forall_mem_cons] at h
    exact (explained_ok.apply h.1).apply (ih h.2)

end Checked

/-! ## Sequences and texts -/

theorem forall₂_mapIdx_iff {γ δ : Type} {f : Nat → α → γ} {R : γ → δ → Prop} {S : α → δ → Prop}
    (h : ∀ i a d, R (f i a) d ↔ S a d) {items : List α} {results : List δ} :
    List.Forall₂ R (items.mapIdx f) results ↔ List.Forall₂ S items results := by
  induction items generalizing f results with
  | nil => rw [List.mapIdx_nil, List.forall₂_nil_left_iff, List.forall₂_nil_left_iff]
  | cons a rest ih =>
    rw [List.mapIdx_cons, List.forall₂_cons_left_iff, List.forall₂_cons_left_iff]
    simp only [h 0 a, ih fun i => h (i + 1)]

/-- The items of a sequence. -/
def sequence? : Value → Option (List Value)
  | .list items => some items
  | .tuple items => some items
  | _ => none

/-- A sequence is converted when each of its items is. -/
theorem itemsOfValue_eq_ok_iff {convert : Value → Checked α} {v : Value} {results : List α} :
    itemsOfValue convert v = .ok results ↔ ∃ items, sequence? v = some items ∧
      List.Forall₂ (fun item a => convert item = .ok a) items results := by
  have items_iff : ∀ items : List Value,
      Checked.all (items.mapIdx fun i item => (convert item).under (.index i)) = .ok results ↔
        List.Forall₂ (fun item a => convert item = .ok a) items results := fun items =>
    Checked.all_eq_ok_iff.trans (forall₂_mapIdx_iff fun _ _ _ => Checked.under_eq_ok_iff)
  cases v with
  | list items => exact (items_iff items).trans (by simp [sequence?])
  | tuple items => exact (items_iff items).trans (by simp [sequence?])
  | _ => exact iff_of_false (fun h => by cases h) (fun ⟨_, h, _⟩ => by cases h)

theorem textOfValue_eq_ok_iff {v : Value} {s : String} :
    textOfValue v = .ok s ↔ textOrBytes? v = some (some s) := by
  unfold textOfValue
  split
  · next h => rw [h]; simp
  · next h => rw [h]; exact iff_of_false (fun h => by cases h) (fun h => by cases h)
  · next h => rw [h]; exact iff_of_false (fun h => by cases h) (fun h => by cases h)

theorem explained_textOfValue (v : Value) : (textOfValue v).Explained := by
  unfold textOfValue
  split
  · exact Checked.explained_ok
  · exact Checked.explained_issue
  · exact Checked.explained_issue

theorem explained_itemsOfValue {convert : Value → Checked α} (h : ∀ v, (convert v).Explained)
    (v : Value) : (itemsOfValue convert v).Explained := by
  have items_explained : ∀ items : List Value,
      (Checked.all (items.mapIdx fun i item => (convert item).under (.index i))).Explained := by
    intro items
    refine Checked.Explained.all fun c mem => ?_
    obtain ⟨i, _, rfl⟩ := List.mem_mapIdx.1 mem
    exact (h _).under _
  cases v with
  | list items => exact items_explained items
  | tuple items => exact items_explained items
  | _ => exact Checked.explained_issue

/-! ## Fields -/

/-- A field with one name is the entry under it. -/
theorem find?_plain (name : String) (entries : List (Value × Value)) :
    (FieldName.plain name).find? entries = (Entries.find? (.str name) entries).map (name, ·) := by
  unfold FieldName.find? FieldName.plain
  cases Entries.find? (Value.str name) entries <;> rfl

/-- A field has its default, or what is given for it is converted. -/
theorem field_eq_ok_iff {entries : List (Value × Value)} {name : FieldName}
    {convert : Value → Checked α} {default a : α} :
    field entries name convert default = .ok a ↔
      (name.find? entries = none ∧ a = default) ∨
        ∃ used v, name.find? entries = some (used, v) ∧ convert v = .ok a := by
  unfold field
  cases hfind : name.find? entries with
  | none =>
    constructor
    · intro h
      exact .inl ⟨rfl, (Except.ok.inj h).symm⟩
    · rintro (⟨-, rfl⟩ | ⟨_, _, h, -⟩)
      · rfl
      · cases h
  | some found =>
    obtain ⟨used, v⟩ := found
    constructor
    · intro h
      exact .inr ⟨used, v, rfl, Checked.under_eq_ok_iff.1 h⟩
    · rintro (⟨h, -⟩ | ⟨_, _, h, hv⟩)
      · cases h
      · cases h
        exact Checked.under_eq_ok_iff.2 hv

/-- What is required under one name is given and converted. -/
theorem requiredField_plain_eq_ok_iff {entries : List (Value × Value)} {name : String}
    {convert : Value → Checked α} {a : α} :
    requiredField entries (.plain name) convert = .ok a ↔
      ∃ v, Entries.find? (.str name) entries = some v ∧ convert v = .ok a := by
  rw [requiredField, find?_plain]
  cases Entries.find? (Value.str name) entries with
  | none => exact iff_of_false (fun h => nomatch h) (fun ⟨_, h, _⟩ => nomatch h)
  | some v => simp [Checked.under_eq_ok_iff]

section PlainField

variable {entries : List (Value × Value)} {name : String} {convert : Value → Checked α}
  {default a : α}

/-- What is given for a field with one name is converted. -/
theorem field_plain_of_some {v : Value} (h : Entries.find? (.str name) entries = some v) :
    field entries (.plain name) convert default = .ok a ↔ convert v = .ok a := by
  rw [field, find?_plain, h]
  exact Checked.under_eq_ok_iff

/-- A field with one name has its default where nothing is given for it. -/
theorem field_plain_of_none (h : Entries.find? (.str name) entries = none) :
    field entries (.plain name) convert default = .ok a ↔ a = default := by
  rw [field, find?_plain, h]
  show Except.ok default = .ok a ↔ a = default
  rw [Except.ok.injEq, eq_comm]

end PlainField

end LayeredLint.Record
