import Mathlib.Data.List.Forall2

/-!
# Computations that may fail

What the success or the failure of a computation says about its steps.

- `bind_eq_ok`, `bind_eq_error`, `map_eq_ok`, `map_eq_error`: steps one after another.
- `mapError_eq_ok`, `mapError_eq_error`: failures seen as others.
- `exists_bind_eq_ok_iff`: success of two steps by the success of each.
- `Meets`: what the answer of a computation is, or why there is none.
- `mapM_eq_ok_iff`: one step for each item of a list.
- `forall₂_of_common`, `exists_forall₂_iff`: lists that go with each other, item by item.
-/

namespace LayeredLint

universe u v w

variable {ε : Type u} {α : Type v} {β : Type v}

theorem bind_eq_ok {x : Except ε α} {f : α → Except ε β} {b : β} :
    x >>= f = .ok b ↔ ∃ a, x = .ok a ∧ f a = .ok b := by
  cases x with
  | error e =>
    constructor
    · intro h
      cases h
    · rintro ⟨_, h, -⟩
      cases h
  | ok a =>
    constructor
    · intro h
      exact ⟨a, rfl, h⟩
    · rintro ⟨_, h, hf⟩
      cases h
      exact hf

/-- Two steps succeed if the first one does, and after it the second one. -/
theorem exists_bind_eq_ok_iff {x : Except ε α} {f : α → Except ε β} {p q : Prop}
    (hx : (∃ a, x = .ok a) ↔ p) (hf : ∀ a, x = .ok a → ((∃ b, f a = .ok b) ↔ q)) :
    (∃ b, x >>= f = .ok b) ↔ p ∧ q := by
  constructor
  · rintro ⟨b, h⟩
    obtain ⟨a, ha, hb⟩ := bind_eq_ok.1 h
    exact ⟨hx.1 ⟨a, ha⟩, (hf a ha).1 ⟨b, hb⟩⟩
  · rintro ⟨hp, hq⟩
    obtain ⟨a, ha⟩ := hx.2 hp
    obtain ⟨b, hb⟩ := (hf a ha).2 hq
    exact ⟨b, bind_eq_ok.2 ⟨a, ha, hb⟩⟩

theorem exists_bind_return_iff {x : Except ε α} (make : α → β) :
    (∃ b, (do
      let a ← x
      return make a) = (.ok b : Except ε β)) ↔ ∃ a, x = .ok a := by
  cases x with
  | error e => exact iff_of_false (fun ⟨_, h⟩ => nomatch h) (fun ⟨_, h⟩ => nomatch h)
  | ok a => exact iff_of_true ⟨make a, rfl⟩ ⟨a, rfl⟩

theorem bind_eq_error {x : Except ε α} {f : α → Except ε β} {e : ε} :
    x >>= f = .error e ↔ x = .error e ∨ ∃ a, x = .ok a ∧ f a = .error e := by
  cases x with
  | error e' =>
    constructor
    · intro h
      exact .inl (congrArg Except.error (Except.error.inj h))
    · rintro (h | ⟨_, h, -⟩)
      · exact congrArg Except.error (Except.error.inj h)
      · cases h
  | ok a =>
    constructor
    · intro h
      exact .inr ⟨a, rfl, h⟩
    · rintro (h | ⟨_, h, hf⟩)
      · cases h
      · cases h
        exact hf

theorem map_eq_ok {x : Except ε α} {f : α → β} {b : β} :
    f <$> x = .ok b ↔ ∃ a, x = .ok a ∧ f a = b := by
  cases x with
  | error e =>
    constructor
    · intro h
      cases h
    · rintro ⟨_, h, -⟩
      cases h
  | ok a =>
    constructor
    · intro h
      exact ⟨a, rfl, Except.ok.inj h⟩
    · rintro ⟨_, h, rfl⟩
      cases h
      rfl

theorem map_eq_error {x : Except ε α} {f : α → β} {e : ε} :
    f <$> x = .error e ↔ x = .error e := by
  cases x with
  | error e' =>
    show Except.error e' = .error e ↔ _
    rw [Except.error.injEq, Except.error.injEq]
  | ok a => exact iff_of_false (fun h => by cases h) (fun h => by cases h)

theorem mapError_eq_ok {ε' : Type w} {x : Except ε α} {f : ε → ε'} {a : α} :
    x.mapError f = .ok a ↔ x = .ok a := by
  cases x with
  | error e => exact iff_of_false (fun h => by cases h) (fun h => by cases h)
  | ok b =>
    show Except.ok b = .ok a ↔ _
    rw [Except.ok.injEq, Except.ok.injEq]

theorem mapError_eq_error {ε' : Type w} {x : Except ε α} {f : ε → ε'} {e' : ε'} :
    x.mapError f = .error e' ↔ ∃ e, x = .error e ∧ e' = f e := by
  cases x with
  | error e =>
    constructor
    · intro h
      exact ⟨e, rfl, (Except.error.inj h).symm⟩
    · rintro ⟨_, h, rfl⟩
      cases h
      rfl
  | ok b => exact iff_of_false (fun h => by cases h) (fun ⟨_, h, _⟩ => by cases h)

/-! ## What an answer is -/

/-- The answer of a computation is as it should be, or the reason for there being none is. -/
def Meets (refused : ε → Prop) (right : α → Prop) : Except ε α → Prop
  | .ok a => right a
  | .error e => refused e

namespace Meets

variable {refused refused' : ε → Prop} {right : α → Prop} {right' : β → Prop}

/-- A second step goes on with the answer of the first one. -/
theorem bind {x : Except ε α} {f : α → Except ε β} (hx : Meets refused right x)
    (hf : ∀ a, right a → Meets refused right' (f a)) : Meets refused right' (x >>= f) := by
  cases x with
  | error e => exact hx
  | ok a => exact hf a hx

theorem map {x : Except ε α} {f : α → β} (hx : Meets refused right x)
    (hf : ∀ a, right a → right' (f a)) : Meets refused right' (f <$> x) := by
  cases x with
  | error e => exact hx
  | ok a => exact hf a hx

theorem imp {right' : α → Prop} {x : Except ε α} (hx : Meets refused right x)
    (hrefused : ∀ e, refused e → refused' e) (hright : ∀ a, right a → right' a) :
    Meets refused' right' x := by
  cases x with
  | error e => exact hrefused e hx
  | ok a => exact hright a hx

end Meets

/-! ## One step for each item -/

/-- A step for each item succeeds when every step does, with the results in order. -/
theorem mapM_eq_ok_iff {γ : Type w} {f : γ → Except ε α} {items : List γ} {results : List α} :
    items.mapM f = .ok results ↔ List.Forall₂ (fun a b => f a = .ok b) items results := by
  induction items generalizing results with
  | nil =>
    rw [List.mapM_nil, List.forall₂_nil_left_iff]
    exact ⟨fun h => (Except.ok.inj h).symm, fun h => h ▸ rfl⟩
  | cons a rest ih =>
    rw [List.mapM_cons, bind_eq_ok, List.forall₂_cons_left_iff]
    constructor
    · rintro ⟨b, hb, h⟩
      obtain ⟨bs, hbs, h⟩ := bind_eq_ok.1 h
      exact ⟨b, bs, hb, ih.1 hbs, (Except.ok.inj h).symm⟩
    · rintro ⟨b, bs, hb, hbs, rfl⟩
      exact ⟨b, hb, bind_eq_ok.2 ⟨bs, ih.2 hbs, rfl⟩⟩

/-- Two lists that go with a third one, item by item, go with each other. -/
theorem forall₂_of_common {γ : Type w} {R : α → γ → Prop} {S : β → γ → Prop} {as : List α}
    {bs : List β} {cs : List γ} (h : List.Forall₂ R as cs) (h' : List.Forall₂ S bs cs) :
    List.Forall₂ (fun a b => ∃ c, R a c ∧ S b c) as bs := by
  induction h generalizing bs with
  | nil =>
    rw [List.forall₂_nil_right_iff.1 h']
    exact .nil
  | cons hac _ ih =>
    obtain ⟨b, bs, hbc, hbs, rfl⟩ := List.forall₂_cons_right_iff.1 h'
    exact .cons ⟨_, hac, hbc⟩ (ih hbs)

/-- There is a list to go with another one when there is an item to go with each of its items. -/
theorem exists_forall₂_iff {R : α → β → Prop} {as : List α} :
    (∃ bs, List.Forall₂ R as bs) ↔ ∀ a ∈ as, ∃ b, R a b := by
  induction as with
  | nil => exact iff_of_true ⟨[], .nil⟩ (List.forall_mem_nil _)
  | cons a rest ih =>
    rw [List.forall_mem_cons, ← ih]
    constructor
    · rintro ⟨_, h⟩
      obtain ⟨b, bs, hb, hbs, -⟩ := List.forall₂_cons_left_iff.1 h
      exact ⟨⟨b, hb⟩, bs, hbs⟩
    · rintro ⟨⟨b, hb⟩, bs, hbs⟩
      exact ⟨b :: bs, .cons hb hbs⟩

theorem exists_mapM_eq_ok_iff {f : α → Except ε β} {items : List α} :
    (∃ results, items.mapM f = .ok results) ↔ ∀ a ∈ items, ∃ b, f a = .ok b := by
  simp only [mapM_eq_ok_iff]
  exact exists_forall₂_iff

/-- Every result comes from an item. -/
theorem exists_of_mem_mapM {γ : Type w} {f : γ → Except ε α} {items : List γ} {results : List α}
    (h : items.mapM f = .ok results) {b : α} (hb : b ∈ results) : ∃ a ∈ items, f a = .ok b := by
  induction mapM_eq_ok_iff.1 h with
  | nil => cases hb
  | cons hstep hrest ih =>
    rcases List.mem_cons.1 hb with rfl | hb
    · exact ⟨_, List.mem_cons_self, hstep⟩
    · obtain ⟨a, ha, hfa⟩ := ih (mapM_eq_ok_iff.2 hrest) hb
      exact ⟨a, List.mem_cons_of_mem _ ha, hfa⟩

/-- Every step of a success succeeds. -/
theorem exists_of_mapM_eq_ok {γ : Type w} {f : γ → Except ε α} {items : List γ} {results : List α}
    (h : items.mapM f = .ok results) {a : γ} (ha : a ∈ items) : ∃ b, f a = .ok b := by
  induction mapM_eq_ok_iff.1 h with
  | nil => cases ha
  | cons hstep hrest ih =>
    rcases List.mem_cons.1 ha with rfl | ha
    · exact ⟨_, hstep⟩
    · exact ih (mapM_eq_ok_iff.2 hrest) ha

/-- A failure is the one of some step. -/
theorem exists_of_mapM_eq_error {γ : Type w} {f : γ → Except ε α} {items : List γ} {e : ε}
    (h : items.mapM f = .error e) : ∃ a ∈ items, f a = .error e := by
  induction items with
  | nil => cases h
  | cons a rest ih =>
    cases hstep : f a with
    | error e' =>
      rw [List.mapM_cons, hstep] at h
      cases h
      exact ⟨a, List.mem_cons_self, hstep⟩
    | ok b =>
      cases hrest : rest.mapM f with
      | error e' =>
        rw [List.mapM_cons, hstep, hrest] at h
        cases h
        obtain ⟨a', ha, hfa⟩ := ih hrest
        exact ⟨a', List.mem_cons_of_mem _ ha, hfa⟩
      | ok bs =>
        rw [List.mapM_cons, hstep, hrest] at h
        cases h

theorem mapM_eq_ok_map {γ : Type w} {f : γ → Except ε α} {g : γ → α} {items : List γ}
    (h : ∀ a ∈ items, f a = .ok (g a)) : items.mapM f = .ok (items.map g) := by
  rw [mapM_eq_ok_iff, List.forall₂_map_right_iff, List.forall₂_same]
  exact h

/-- What is made of the result of every step may be made after all steps. -/
theorem mapM_return_eq_ok {γ : Type w} {δ : Type v} {f : γ → Except ε δ} {g : δ → α}
    {items : List γ} {results : List α} :
    (items.mapM fun a => do
      let b ← f a
      return g b) = .ok results ↔
        ∃ steps, List.Forall₂ (fun a b => f a = .ok b) items steps ∧ results = steps.map g := by
  rw [mapM_eq_ok_iff]
  induction items generalizing results with
  | nil =>
    rw [List.forall₂_nil_left_iff]
    exact ⟨fun h => ⟨[], .nil, h⟩, fun ⟨_, hnil, h⟩ => by cases hnil; exact h⟩
  | cons a rest ih =>
    rw [List.forall₂_cons_left_iff]
    constructor
    · rintro ⟨c, cs, hc, hcs, rfl⟩
      obtain ⟨b, hb, hc⟩ := bind_eq_ok.1 hc
      obtain ⟨steps, hsteps, rfl⟩ := ih.1 hcs
      cases hc
      exact ⟨b :: steps, .cons hb hsteps, rfl⟩
    · rintro ⟨_, hsteps, rfl⟩
      obtain ⟨b, steps, hb, hrest, rfl⟩ := List.forall₂_cons_left_iff.1 hsteps
      exact ⟨g b, _, bind_eq_ok.2 ⟨b, hb, rfl⟩, ih.2 ⟨steps, hrest, rfl⟩, rfl⟩

end LayeredLint
