/-!
# Tables in order of first assignment

Rules, plugins and globals are kept in tables. Assigning to a key that is present replaces its
value and keeps its place; a new key goes to the end.

- `SameKey`: when two keys name the same entry.
- `Entries.insert`, `Entries.union`, `Entries.find?`: the operations, on lists of entries.
- `Table`: a list of entries with one entry for each key.
- `Entries.find?_insert`, `Entries.keys_insert`: what an assignment changes, seen through look-up
  and through the order of the keys.
-/

namespace LayeredLint

/-- When two keys name the same entry of a table. -/
class SameKey (κ : Type) where
  same : κ → κ → Bool
  refl : ∀ a, same a a = true
  symm : ∀ {a b}, same a b = true → same b a = true
  trans : ∀ {a b c}, same a b = true → same b c = true → same a c = true

export SameKey (same)

/-- Texts name the same entry when they are equal. -/
instance : SameKey String where
  same a b := a == b
  refl a := by simp
  symm h := by simpa using (by simpa using h : _ = _).symm
  trans h h' := by simp_all

namespace Entries

variable {κ α : Type} [SameKey κ]

/-- The value assigned to a key. -/
def find? (k : κ) : List (κ × α) → Option α
  | [] => none
  | (k', v) :: rest => if same k k' then some v else find? k rest

/-- Whether a key is assigned. -/
def contains (k : κ) (entries : List (κ × α)) : Bool :=
  (find? k entries).isSome

/-- Assign a value to a key. -/
def insert (k : κ) (v : α) : List (κ × α) → List (κ × α)
  | [] => [(k, v)]
  | (k', v') :: rest => if same k k' then (k', v) :: rest else (k', v') :: insert k v rest

/-- Make the assignments of the second list, one after another, on top of the first. -/
def union (entries later : List (κ × α)) : List (κ × α) :=
  later.foldl (fun acc e => insert e.1 e.2 acc) entries

/-- The table that a sequence of assignments makes. -/
def ofList (assignments : List (κ × α)) : List (κ × α) :=
  union [] assignments

/-- The keys in order. -/
def keys (entries : List (κ × α)) : List κ :=
  entries.map Prod.fst

/-- No two entries have the same key. -/
def Distinct (entries : List (κ × α)) : Prop :=
  entries.Pairwise fun a b => same a.1 b.1 = false

/-! ## Keys -/

theorem same_comm (a b : κ) : same a b = same b a := by
  cases h : same a b with
  | true => exact (SameKey.symm h).symm
  | false =>
    cases h' : same b a with
    | true => rw [SameKey.symm h'] at h; exact h.symm
    | false => rfl

theorem same_congr_left {a b : κ} (h : same a b = true) (c : κ) : same a c = same b c := by
  cases hb : same b c with
  | true => exact SameKey.trans h hb
  | false =>
    cases ha : same a c with
    | true => rw [SameKey.trans (SameKey.symm h) ha] at hb; exact hb
    | false => rfl

/-! ## Look-up after an assignment -/

theorem find?_insert (k k' : κ) (v : α) (entries : List (κ × α)) :
    find? k' (insert k v entries) = if same k' k then some v else find? k' entries := by
  induction entries with
  | nil => simp [insert, find?]
  | cons e rest ih =>
    obtain ⟨k₀, v₀⟩ := e
    by_cases h₀ : same k k₀ = true
    · have hk : same k' k = same k' k₀ := by
        rw [same_comm k' k, same_comm k' k₀]
        exact same_congr_left h₀ k'
      simp only [insert, h₀, if_true, find?, hk]
      split <;> rfl
    · by_cases hk : same k' k = true
      · have : same k' k₀ = false := by
          rw [same_congr_left hk]
          simpa using h₀
        simp [insert, h₀, find?, ih, hk, this]
      · simp [insert, h₀, find?, ih, hk]

theorem find?_insert_self (k : κ) (v : α) (entries : List (κ × α)) :
    find? k (insert k v entries) = some v := by
  rw [find?_insert, SameKey.refl, if_pos rfl]

/-! ## Keys after an assignment -/

theorem contains_cons (k k' : κ) (v : α) (rest : List (κ × α)) :
    contains k ((k', v) :: rest) = (same k k' || contains k rest) := by
  unfold contains
  rw [find?]
  cases same k k' <;> simp

/-- A new key goes to the end, a present one keeps its place. -/
theorem keys_insert (k : κ) (v : α) (entries : List (κ × α)) :
    keys (insert k v entries) =
      if contains k entries then keys entries else keys entries ++ [k] := by
  induction entries with
  | nil => simp [insert, keys, contains, find?]
  | cons e rest ih =>
    obtain ⟨k₀, v₀⟩ := e
    rw [contains_cons, insert]
    by_cases h₀ : same k k₀ = true
    · simp [h₀, keys]
    · have h₀' : same k k₀ = false := by simpa using h₀
      rw [h₀', if_neg (by simp), Bool.false_or]
      by_cases hc : contains k rest = true
      · rw [if_pos hc] at ih ⊢
        simp only [keys, List.map_cons] at ih ⊢
        rw [ih]
      · rw [if_neg hc] at ih ⊢
        simp only [keys, List.map_cons, List.cons_append] at ih ⊢
        rw [ih]

/-- A key is assigned when it names the same entry as one of the keys. -/
theorem contains_eq_any (k : κ) (entries : List (κ × α)) :
    contains k entries = entries.any fun e => same k e.1 := by
  induction entries with
  | nil => rfl
  | cons e rest ih =>
    obtain ⟨k₀, v₀⟩ := e
    rw [contains_cons, List.any_cons, ih]

/-! ## One entry for each key -/

theorem any_insert {p : κ → Bool} (hp : ∀ a b, same a b = true → p a = p b) (k : κ) (v : α)
    (entries : List (κ × α)) :
    (insert k v entries).any (fun e => p e.1) = (p k || entries.any fun e => p e.1) := by
  induction entries with
  | nil => simp [insert]
  | cons e rest ih =>
    obtain ⟨k₀, v₀⟩ := e
    rw [insert]
    split
    · next h =>
      rw [List.any_cons, List.any_cons, hp k k₀ h]
      cases p k₀ <;> rfl
    · rw [List.any_cons, ih, List.any_cons]
      cases p k <;> cases p k₀ <;> rfl

theorem distinct_cons_iff {e : κ × α} {rest : List (κ × α)} :
    Distinct (e :: rest) ↔ rest.any (fun e' => same e.1 e'.1) = false ∧ Distinct rest := by
  rw [Distinct, List.pairwise_cons]
  simp [Distinct]

theorem Distinct.insert {entries : List (κ × α)} (h : Distinct entries) (k : κ) (v : α) :
    Distinct (insert k v entries) := by
  induction entries with
  | nil => simp [Entries.insert, Distinct]
  | cons e rest ih =>
    obtain ⟨k₀, v₀⟩ := e
    rw [distinct_cons_iff] at h
    rw [Entries.insert]
    split
    · exact distinct_cons_iff.2 h
    · next hk =>
      refine distinct_cons_iff.2 ⟨?_, ih h.2⟩
      have hcongr : ∀ a b : κ, same a b = true → same k₀ a = same k₀ b := by
        intro a b hab
        rw [same_comm k₀ a, same_comm k₀ b]
        exact same_congr_left hab k₀
      rw [any_insert (p := fun a => same k₀ a) hcongr, h.1, Bool.or_false, same_comm]
      simpa using hk

theorem Distinct.union {entries : List (κ × α)} (h : Distinct entries) (later : List (κ × α)) :
    Distinct (union entries later) := by
  induction later generalizing entries with
  | nil => exact h
  | cons e rest ih => exact ih (h.insert e.1 e.2)

theorem Distinct.filter {entries : List (κ × α)} (h : Distinct entries) (p : κ × α → Bool) :
    Distinct (entries.filter p) :=
  List.Pairwise.filter p h

end Entries

/-- A list of entries with one entry for each key. -/
structure Table (κ α : Type) [SameKey κ] where
  entries : List (κ × α)
  distinct : Entries.Distinct entries

namespace Table

variable {κ α : Type} [SameKey κ]

@[ext] theorem ext {t u : Table κ α} (h : t.entries = u.entries) : t = u := by
  cases t
  cases u
  cases h
  rfl

instance [DecidableEq κ] [DecidableEq α] : DecidableEq (Table κ α) := fun t u =>
  decidable_of_iff (t.entries = u.entries) ⟨ext, fun h => h ▸ rfl⟩

/-- The table without entries. -/
def empty : Table κ α := ⟨[], List.Pairwise.nil⟩

instance : Inhabited (Table κ α) := ⟨empty⟩

/-- Assign a value to a key. -/
def insert (t : Table κ α) (k : κ) (v : α) : Table κ α :=
  ⟨Entries.insert k v t.entries, t.distinct.insert k v⟩

/-- Make the assignments of a list, one after another. -/
def assign (t : Table κ α) (assignments : List (κ × α)) : Table κ α :=
  ⟨Entries.union t.entries assignments, t.distinct.union assignments⟩

/-- Assign every entry of a second table. -/
def union (t u : Table κ α) : Table κ α :=
  t.assign u.entries

/-- The table that a sequence of assignments makes. -/
def ofList (assignments : List (κ × α)) : Table κ α :=
  empty.assign assignments

/-- The value assigned to a key. -/
def find? (t : Table κ α) (k : κ) : Option α :=
  Entries.find? k t.entries

/-- Whether a key is assigned. -/
def contains (t : Table κ α) (k : κ) : Bool :=
  Entries.contains k t.entries

/-- The keys in order of first assignment. -/
def keys (t : Table κ α) : List κ :=
  Entries.keys t.entries

/-- The values in the order of their keys. -/
def values (t : Table κ α) : List α :=
  t.entries.map Prod.snd

/-- The number of keys. -/
def size (t : Table κ α) : Nat :=
  t.entries.length

/-- Whether a table has no entries. -/
def isEmpty (t : Table κ α) : Bool :=
  t.entries.isEmpty

/-- The entries that pass a test, in their order. -/
def filter (t : Table κ α) (p : κ → α → Bool) : Table κ α :=
  ⟨t.entries.filter fun e => p e.1 e.2, t.distinct.filter _⟩

theorem find?_insert (t : Table κ α) (k k' : κ) (v : α) :
    (t.insert k v).find? k' = if same k' k then some v else t.find? k' :=
  Entries.find?_insert k k' v t.entries

theorem keys_insert (t : Table κ α) (k : κ) (v : α) :
    (t.insert k v).keys = if t.contains k then t.keys else t.keys ++ [k] :=
  Entries.keys_insert k v t.entries

end Table

end LayeredLint
