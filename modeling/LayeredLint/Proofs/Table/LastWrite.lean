import LayeredLint.Table

/-!
# The last assignment stands

A table can be made by laying tables over one another, in order. What it holds is said here without
carrying out the assignments.

- `firstKeys`: the keys of a sequence, each at the place where it occurs first.
- `Table.keys_union`, `Table.find?_union`: a table laid over another, through keys and look-up.
- `Entries.find?_filter`, `Entries.find?_congr`: look-up among entries that pass a test, and of keys
  that name the same entry.
- `Entries.ext_find?`: entries are told by the order of their keys and by look-up.
- `Entries.find?_union_reverse`, `Entries.find?_map_eq_some_iff`: look-up after assignments that may
  repeat a key, and the place that what is found comes from; `Entries.find?_reverse`: look-up from
  the other end.
- `Table.layered`: tables laid over one another; `Table.find?_layered_append`: of two stacks the
  upper one decides.
- `LastWrite`: a table has the keys of its parts in the order of their first assignments, and each
  with the value of the last part that assigns it.
- `Table.layered_lastWrite`: **laying tables over one another makes that table**.
-/

namespace LayeredLint

variable {κ α : Type} [SameKey κ]

/-! ## Keys in order of first occurrence -/

/-- The keys of a sequence without those that name the same entry as an earlier one. -/
def firstKeys : List κ → List κ
  | [] => []
  | k :: rest => k :: (firstKeys rest).filter fun k' => !same k k'

/-- Keys that name the same entry occur together. -/
theorem any_same_congr {k k' : κ} (h : same k k' = true) (ks : List κ) :
    ks.any (same k) = ks.any (same k') :=
  congrArg ks.any (funext (Entries.same_congr_left h))

/-- No two of the first keys name the same entry. -/
theorem pairwise_firstKeys (ks : List κ) :
    (firstKeys ks).Pairwise fun a b => same a b = false := by
  induction ks with
  | nil => exact List.Pairwise.nil
  | cons k rest ih =>
    refine List.pairwise_cons.2 ⟨fun k' hk' => ?_, ih.filter _⟩
    simpa using (List.mem_filter.1 hk').2

/-- Keys that are all different are the first keys themselves. -/
theorem firstKeys_of_pairwise {ks : List κ} (h : ks.Pairwise fun a b => same a b = false) :
    firstKeys ks = ks := by
  induction ks with
  | nil => rfl
  | cons k rest ih =>
    rw [List.pairwise_cons] at h
    rw [firstKeys, ih h.2, List.filter_eq_self.2 fun k' hk' => by rw [h.1 k' hk']; rfl]

/-- The first keys are keys of the sequence, in the order they have there. -/
theorem firstKeys_sublist (ks : List κ) : (firstKeys ks).Sublist ks := by
  induction ks with
  | nil => exact List.Sublist.slnil
  | cons k rest ih => exact (List.filter_sublist.trans ih).cons_cons k

/-- A key that occurs is the same as one of the first keys. -/
theorem any_same_firstKeys (k : κ) (ks : List κ) :
    (firstKeys ks).any (same k) = ks.any (same k) := by
  induction ks with
  | nil => rfl
  | cons k₀ rest ih =>
    rw [firstKeys, List.any_cons, List.any_cons, ← ih, List.any_filter]
    cases h : same k k₀ with
    | true => rfl
    | false =>
      -- what is left out is the same as `k₀`, so it is not the same as `k`
      refine congrArg (false || ·) (congrArg (firstKeys rest).any (funext fun k' => ?_))
      cases h' : same k k' with
      | false => rw [Bool.and_false]
      | true =>
        have hk₀ : same k₀ k' = false := by
          rw [Entries.same_comm, ← Entries.same_congr_left h', h]
        rw [hk₀]
        rfl

/-- Of the keys that come later, those stand that did not occur before. -/
theorem firstKeys_append (ks later : List κ) :
    firstKeys (ks ++ later) = firstKeys ks ++ (firstKeys later).filter fun k => !ks.any (same k) := by
  induction ks with
  | nil => exact (List.filter_eq_self.2 fun _ _ => rfl).symm
  | cons k₀ ks ih =>
    rw [List.cons_append, firstKeys, firstKeys, ih, List.filter_append, List.filter_filter,
      List.cons_append]
    refine congrArg (fun tail => k₀ :: (_ ++ tail)) (List.filter_congr fun k _ => ?_)
    rw [List.any_cons, Bool.not_or, Entries.same_comm]

/-- Repeated keys may be left out before others are added. -/
theorem firstKeys_firstKeys_append (ks later : List κ) :
    firstKeys (firstKeys ks ++ later) = firstKeys (ks ++ later) := by
  rw [firstKeys_append, firstKeys_append, firstKeys_of_pairwise (pairwise_firstKeys ks)]
  exact congrArg _ (List.filter_congr fun k _ => by rw [any_same_firstKeys])

/-- A key that occurred before may be left out. -/
theorem firstKeys_append_cons {k : κ} {ks : List κ} (h : ks.any (same k) = true)
    (later : List κ) : firstKeys (ks ++ k :: later) = firstKeys (ks ++ later) := by
  have gone : (!ks.any (same k)) = false := by rw [h]; rfl
  rw [firstKeys_append, firstKeys_append, firstKeys, List.filter_cons, gone, List.filter_filter]
  refine congrArg (firstKeys ks ++ ·) (List.filter_congr fun k' _ => ?_)
  cases hk : same k k' with
  | false => rw [Bool.not_false, Bool.and_true]
  | true => rw [← any_same_congr hk, gone]; rfl

/-- Keys that all occurred before add nothing. -/
theorem firstKeys_append_of_any {ks later : List κ} (h : ∀ k ∈ later, ks.any (same k) = true) :
    firstKeys (ks ++ later) = firstKeys ks := by
  rw [firstKeys_append, List.filter_eq_nil_iff.2, List.append_nil]
  intro k hk
  rw [h k ((firstKeys_sublist later).mem hk)]
  exact Bool.false_ne_true

/-- Keys may be left out before the first ones are taken, or afterwards. -/
theorem filter_firstKeys {p : κ → Bool} (hp : ∀ {k k' : κ}, same k k' = true → p k = p k')
    (ks : List κ) : (firstKeys ks).filter p = firstKeys (ks.filter p) := by
  induction ks with
  | nil => rfl
  | cons k rest ih =>
    by_cases hk : p k = true
    · rw [List.filter_cons_of_pos hk, firstKeys, firstKeys, List.filter_cons_of_pos hk, ← ih]
      refine congrArg (k :: ·) ?_
      rw [List.filter_filter, List.filter_filter]
      exact List.filter_congr fun k' _ => Bool.and_comm _ _
    · rw [List.filter_cons_of_neg hk, firstKeys, List.filter_cons_of_neg hk, ← ih,
        List.filter_filter]
      refine List.filter_congr fun k' _ => ?_
      -- a key that names the same entry as `k` is left out together with it
      cases hsame : same k k' with
      | false => rw [Bool.not_false, Bool.and_true]
      | true =>
        have hk' : p k' = false := by rw [← hp hsame]; simpa using hk
        rw [hk', Bool.false_and]

/-- Keys may be named otherwise before the first ones are taken, or afterwards. -/
theorem firstKeys_map {κ' : Type} [SameKey κ'] {f : κ → κ'}
    (hf : ∀ k k' : κ, same (f k) (f k') = same k k') (ks : List κ) :
    firstKeys (ks.map f) = (firstKeys ks).map f := by
  induction ks with
  | nil => rfl
  | cons k rest ih =>
    rw [List.map_cons, firstKeys, firstKeys, List.map_cons, ih, List.filter_map]
    refine congrArg (f k :: List.map f ·) (List.filter_congr fun k' _ => ?_)
    exact congrArg (!·) (hf k k')

/-! ## One table over another -/

namespace Entries

theorem contains_eq_any_keys (k : κ) (entries : List (κ × α)) :
    contains k entries = (keys entries).any (same k) := by
  rw [contains_eq_any, keys, List.any_map]
  rfl

theorem insert_of_not_contains {k : κ} {v : α} {entries : List (κ × α)}
    (h : contains k entries = false) : insert k v entries = entries ++ [(k, v)] := by
  induction entries with
  | nil => rfl
  | cons e rest ih =>
    rw [contains_cons, Bool.or_eq_false_iff] at h
    rw [insert, if_neg (by rw [h.1]; exact Bool.false_ne_true), ih h.2]
    rfl

/-- A new key makes a list of entries longer, a present one does not. -/
theorem length_insert (k : κ) (v : α) (entries : List (κ × α)) :
    (insert k v entries).length =
      if contains k entries then entries.length else entries.length + 1 := by
  have hkeys := congrArg List.length (keys_insert k v entries)
  rw [keys, List.length_map] at hkeys
  rw [hkeys]
  split <;> simp [keys]

/-- Assignments put their keys behind those that are there, each at its first occurrence. -/
theorem keys_union {entries : List (κ × α)} (h : Distinct entries) (later : List (κ × α)) :
    keys (union entries later) = firstKeys (keys entries ++ keys later) := by
  induction later generalizing entries with
  | nil =>
    refine Eq.trans ?_ (congrArg firstKeys (List.append_nil _)).symm
    exact (firstKeys_of_pairwise (List.pairwise_map.2 h)).symm
  | cons e rest ih =>
    have step : keys (union entries (e :: rest)) =
        firstKeys (keys (insert e.1 e.2 entries) ++ keys rest) := ih (h.insert e.1 e.2)
    rw [step, keys_insert, contains_eq_any_keys]
    -- An old key keeps its place, a new one goes to the end.
    by_cases hc : (keys entries).any (same e.1) = true
    · rw [if_pos hc]
      exact (firstKeys_append_cons hc _).symm
    · rw [if_neg hc, List.append_assoc]
      rfl

/-- New keys go to the end, with their values. -/
theorem union_eq_append {entries later : List (κ × α)} (h : Distinct (entries ++ later)) :
    union entries later = entries ++ later := by
  induction later generalizing entries with
  | nil => exact (List.append_nil _).symm
  | cons e rest ih =>
    have absent : contains e.1 entries = false := by
      rw [contains_eq_any, List.any_eq_false]
      intro e' he'
      rw [same_comm, (List.pairwise_append.1 h).2.2 e' he' e List.mem_cons_self]
      exact Bool.false_ne_true
    have step : union entries (e :: rest) = union (insert e.1 e.2 entries) rest := rfl
    rw [List.append_cons] at h ⊢
    rw [step, insert_of_not_contains absent, ih h]

/-- A key that is not assigned names the same entry as none of those that are. -/
theorem find?_eq_none_iff {k : κ} {entries : List (κ × α)} :
    find? k entries = none ↔ ∀ e ∈ entries, same k e.1 = false := by
  rw [← Option.not_isSome_iff_eq_none, ← contains, contains_eq_any, List.any_eq_true]
  simp

/-- Where keys are not repeated, none of the others names the entry that the first one names. -/
theorem find?_eq_none_of_same {e : κ × α} {rest : List (κ × α)} (h : Distinct (e :: rest)) {k : κ}
    (hk : same k e.1 = true) : find? k rest = none := by
  refine find?_eq_none_iff.2 fun e' he' => ?_
  rw [same_congr_left hk]
  simpa using List.any_eq_false.1 (distinct_cons_iff.1 h).1 e' he'

/-- A key has the value that the later table assigns to it, else the one it had. -/
theorem find?_union (k : κ) (entries : List (κ × α)) {later : List (κ × α)}
    (h : Distinct later) :
    find? k (union entries later) = (find? k later).or (find? k entries) := by
  induction later generalizing entries with
  | nil => rfl
  | cons e rest ih =>
    have step : find? k (union entries (e :: rest)) =
        (find? k rest).or (find? k (insert e.1 e.2 entries)) := ih _ (distinct_cons_iff.1 h).2
    rw [step, find?_insert, find?]
    by_cases hk : same k e.1 = true
    · -- the key is assigned here and nowhere later
      rw [if_pos hk, if_pos hk, find?_eq_none_of_same h hk]
      rfl
    · rw [if_neg hk, if_neg hk]

theorem find?_of_mem {entries : List (κ × α)} (h : Distinct entries) {e : κ × α}
    (he : e ∈ entries) : find? e.1 entries = some e.2 := by
  induction entries with
  | nil => cases he
  | cons e₀ rest ih =>
    rw [distinct_cons_iff] at h
    rw [find?]
    rcases List.mem_cons.1 he with rfl | he
    · rw [if_pos (SameKey.refl e.1)]
    · have hne : ¬same e.1 e₀.1 = true := by
        rw [same_comm]
        exact List.any_eq_false.1 h.1 e he
      rw [if_neg hne, ih h.2 he]

theorem mem_of_find? {k : κ} {v : α} {entries : List (κ × α)} (h : find? k entries = some v) :
    ∃ e ∈ entries, same k e.1 = true ∧ e.2 = v := by
  induction entries with
  | nil => cases h
  | cons e rest ih =>
    rw [find?] at h
    split at h
    · next hs => exact ⟨e, List.mem_cons_self, hs, Option.some.inj h⟩
    · obtain ⟨e', he', hs, hv⟩ := ih h
      exact ⟨e', List.mem_cons_of_mem _ he', hs, hv⟩

/-- Keys that name the same entry have the same value. -/
theorem find?_congr {k k' : κ} (h : same k k' = true) (entries : List (κ × α)) :
    find? k entries = find? k' entries := by
  induction entries with
  | nil => rfl
  | cons e rest ih => rw [find?, find?, same_congr_left h, ih]

/-- Entries may be left out by their values before a key is looked up, or afterwards. -/
theorem find?_filter {entries : List (κ × α)} (h : Distinct entries) (p : α → Bool) (k : κ) :
    find? k (entries.filter fun e => p e.2) = (find? k entries).filter p := by
  induction entries with
  | nil => rfl
  | cons e rest ih =>
    obtain ⟨k₀, v₀⟩ := e
    have hrest : Distinct rest := (distinct_cons_iff.1 h).2
    rw [find?, List.filter_cons]
    by_cases hk : same k k₀ = true
    · rw [if_pos hk]
      by_cases hv : p v₀ = true
      · rw [if_pos hv, find?, if_pos hk, Option.filter_some, if_pos hv]
      · -- no later entry has the key, so nothing is found where this one goes
        rw [if_neg hv, ih hrest, find?_eq_none_of_same h hk, Option.filter_some, if_neg hv]
        rfl
    · rw [if_neg hk, ← ih hrest]
      split
      · rw [find?, if_neg hk]
      · rfl

/-- Entries are told by the order of their keys and by look-up. -/
theorem ext_find? {a b : List (κ × α)} (h : Distinct a) (hkeys : keys a = keys b)
    (hfind : ∀ k ∈ keys a, find? k a = find? k b) : a = b := by
  induction a generalizing b with
  | nil => exact (List.map_eq_nil_iff.1 hkeys.symm).symm
  | cons e rest ih =>
    obtain ⟨k, v⟩ := e
    obtain ⟨⟨k', w⟩, rest', rfl, hk, hrest⟩ := List.map_eq_cons_iff.1 hkeys.symm
    cases hk
    -- the first entries are found under their key, and no other entry has that key
    have hv := hfind k List.mem_cons_self
    rw [find?, find?, if_pos (SameKey.refl k), if_pos (SameKey.refl k)] at hv
    cases hv
    refine congrArg ((k, v) :: ·) (ih (distinct_cons_iff.1 h).2 hrest.symm fun k' hk' => ?_)
    obtain ⟨e, he, rfl⟩ := List.mem_map.1 hk'
    have hne : ¬same e.1 k = true := by
      rw [same_comm]
      exact List.any_eq_false.1 (distinct_cons_iff.1 h).1 e he
    have hother := hfind e.1 (List.mem_cons_of_mem _ hk')
    rwa [find?, find?, if_neg hne, if_neg hne] at hother

/-! ### Assignments that may repeat a key -/

theorem find?_append (k : κ) (entries later : List (κ × α)) :
    find? k (entries ++ later) = (find? k entries).or (find? k later) := by
  induction entries with
  | nil => rfl
  | cons e rest ih =>
    rw [List.cons_append, find?, find?, ih]
    split <;> rfl

/-- A key has the value of the last assignment to it, else the one it had. -/
theorem find?_union_reverse (k : κ) (entries later : List (κ × α)) :
    find? k (union entries later) = (find? k later.reverse).or (find? k entries) := by
  induction later generalizing entries with
  | nil => rfl
  | cons e rest ih =>
    have step : find? k (union entries (e :: rest)) =
        (find? k rest.reverse).or (find? k (insert e.1 e.2 entries)) := ih _
    rw [step, find?_insert, List.reverse_cons, find?_append, Option.or_assoc]
    refine congrArg (Option.or _) ?_
    rw [find?, find?]
    split <;> rfl

/-- Where no key is repeated, the order of the entries does not matter to look-up. -/
theorem find?_reverse {entries : List (κ × α)} (h : Distinct entries) (k : κ) :
    find? k entries.reverse = find? k entries := by
  have hlast := find?_union_reverse k [] entries
  rw [find?_union k [] h] at hlast
  simpa [find?] using hlast.symm

/-- What is found comes from the first entry that a key names. -/
theorem find?_map_eq_some_iff {β : Type} {entry : β → κ × α} {k : κ} {v : α} {items : List β} :
    find? k (items.map entry) = some v ↔
      ∃ before b after, items = before ++ b :: after ∧ same k (entry b).1 = true ∧
        (entry b).2 = v ∧ ∀ b' ∈ before, same k (entry b').1 = false := by
  induction items with
  | nil =>
    constructor
    · intro h
      cases h
    · rintro ⟨before, b, after, h, -⟩
      cases before <;> cases h
  | cons b₀ rest ih =>
    rw [List.map_cons, find?]
    by_cases hk : same k (entry b₀).1 = true
    · rw [if_pos hk]
      constructor
      · intro h
        exact ⟨[], b₀, rest, rfl, hk, Option.some.inj h, fun _ hb => (List.not_mem_nil hb).elim⟩
      · rintro ⟨before, b, after, h, -, hv, hbefore⟩
        -- the key names the very first entry, so nothing stands before the one that is found
        cases before with
        | nil => cases h; rw [hv]
        | cons b' before =>
          cases h
          rw [hbefore b₀ List.mem_cons_self] at hk
          cases hk
    · rw [if_neg hk, ih]
      constructor
      · rintro ⟨before, b, after, rfl, hb, hv, hbefore⟩
        refine ⟨b₀ :: before, b, after, rfl, hb, hv, fun b' hb' => ?_⟩
        rcases List.mem_cons.1 hb' with rfl | hb'
        · simpa using hk
        · exact hbefore b' hb'
      · rintro ⟨before, b, after, h, hb, hv, hbefore⟩
        cases before with
        | nil => cases h; exact absurd hb hk
        | cons b' before =>
          cases h
          exact ⟨before, b, after, rfl, hb, hv, fun b' hb' => hbefore b' (List.mem_cons_of_mem _ hb')⟩

end Entries

namespace Table

/-- A value of a table is assigned to some key. -/
theorem mem_values_iff (t : Table κ α) (v : α) : v ∈ t.values ↔ ∃ k, t.find? k = some v := by
  constructor
  · intro hv
    obtain ⟨e, he, rfl⟩ := List.mem_map.1 hv
    exact ⟨e.1, Entries.find?_of_mem t.distinct he⟩
  · rintro ⟨k, hk⟩
    obtain ⟨e, he, -, rfl⟩ := Entries.mem_of_find? hk
    exact List.mem_map_of_mem he

theorem find?_congr (t : Table κ α) {k k' : κ} (h : same k k' = true) : t.find? k = t.find? k' :=
  Entries.find?_congr h t.entries

/-- An entry of a table is found under its key, and under each key that names it. -/
theorem find?_of_mem (t : Table κ α) {k : κ} {e : κ × α} (he : e ∈ t.entries)
    (h : same k e.1 = true) : t.find? k = some e.2 :=
  (t.find?_congr h).trans (Entries.find?_of_mem t.distinct he)

theorem find?_filter (t : Table κ α) (p : α → Bool) (k : κ) :
    (t.filter fun _ v => p v).find? k = (t.find? k).filter p :=
  Entries.find?_filter t.distinct p k

theorem keys_pairwise (t : Table κ α) : t.keys.Pairwise fun a b => same a b = false :=
  List.pairwise_map.2 t.distinct

theorem contains_eq_any_keys (t : Table κ α) (k : κ) : t.contains k = t.keys.any (same k) :=
  Entries.contains_eq_any_keys k t.entries

theorem entries_ofList {assignments : List (κ × α)} (h : Entries.Distinct assignments) :
    (Table.ofList assignments).entries = assignments :=
  Entries.union_eq_append (show Entries.Distinct ([] ++ assignments) from h)

/-- A table is made by its own entries. -/
theorem ofList_entries (t : Table κ α) : Table.ofList t.entries = t :=
  ext (entries_ofList t.distinct)

theorem keys_ofList (assignments : List (κ × α)) :
    (Table.ofList assignments).keys = firstKeys (Entries.keys assignments) :=
  Entries.keys_union (show Entries.Distinct [] from List.Pairwise.nil) assignments

/-- No value of a table comes from outside the assignments that make it. -/
theorem exists_of_mem_values_ofList {assignments : List (κ × α)} {v : α}
    (hv : v ∈ (Table.ofList assignments).values) : ∃ a ∈ assignments, a.2 = v := by
  obtain ⟨k, hk⟩ := (mem_values_iff _ v).1 hv
  have hlast : (Table.ofList assignments).find? k = (Entries.find? k assignments.reverse).or none :=
    Entries.find?_union_reverse k [] assignments
  rw [hlast, Option.or_none] at hk
  obtain ⟨a, ha, -, rfl⟩ := Entries.mem_of_find? hk
  exact ⟨a, List.mem_reverse.1 ha, rfl⟩

theorem keys_union (t u : Table κ α) : (t.union u).keys = firstKeys (t.keys ++ u.keys) :=
  Entries.keys_union t.distinct u.entries

/-- The keys of the upper table that are new come behind those of the lower one. -/
theorem keys_union_eq_append (t u : Table κ α) :
    (t.union u).keys = t.keys ++ u.keys.filter fun k => !t.contains k := by
  rw [keys_union, firstKeys_append, firstKeys_of_pairwise t.keys_pairwise,
    firstKeys_of_pairwise u.keys_pairwise]
  exact congrArg (t.keys ++ ·) (List.filter_congr fun k _ => by rw [contains_eq_any_keys])

theorem find?_union (t u : Table κ α) (k : κ) :
    (t.union u).find? k = (u.find? k).or (t.find? k) :=
  Entries.find?_union k t.entries u.distinct

/-! ## Tables over one another -/

/-- The tables of a list laid over one another, the first one at the bottom. -/
def layered (parts : List (Table κ α)) : Table κ α :=
  parts.foldl union empty

end Table

/-- A table holds what its parts assign: the keys that some part assigns, in the order of their
first assignments, and each with the value of the last part that assigns it. -/
structure LastWrite (parts : List (Table κ α)) (t : Table κ α) : Prop where
  contains : ∀ k, t.contains k = parts.any (·.contains k)
  keys : t.keys = firstKeys (parts.flatMap Table.keys)
  find? : ∀ k v, t.find? k = some v ↔
    ∃ before part after, parts = before ++ part :: after ∧ part.find? k = some v ∧
      ∀ later ∈ after, later.find? k = none

/-- No value comes from outside the parts. -/
theorem LastWrite.mem_values {parts : List (Table κ α)} {t : Table κ α} (h : LastWrite parts t)
    {v : α} (hv : v ∈ t.values) : ∃ part ∈ parts, v ∈ part.values := by
  obtain ⟨k, hk⟩ := (t.mem_values_iff v).1 hv
  obtain ⟨before, part, after, rfl, hpart, -⟩ := (h.find? k v).1 hk
  exact ⟨part, by simp, (part.mem_values_iff v).2 ⟨k, hpart⟩⟩

namespace Table

/-- Laying tables over a table `t`, the invariant of the fold. -/
theorem keys_foldl_union (t : Table κ α) (parts : List (Table κ α)) :
    (parts.foldl union t).keys = firstKeys (t.keys ++ parts.flatMap keys) := by
  induction parts generalizing t with
  | nil =>
    rw [List.foldl_nil, List.flatMap_nil, List.append_nil, firstKeys_of_pairwise t.keys_pairwise]
  | cons u rest ih =>
    rw [List.foldl_cons, ih, keys_union, firstKeys_firstKeys_append, List.flatMap_cons,
      List.append_assoc]

theorem find?_foldl_union (t : Table κ α) (parts : List (Table κ α)) (k : κ) :
    (parts.foldl union t).find? k =
      (parts.reverse.findSome? (·.find? k)).or (t.find? k) := by
  induction parts generalizing t with
  | nil => rfl
  | cons u rest ih =>
    rw [List.foldl_cons, ih, find?_union, List.reverse_cons, List.findSome?_append,
      Option.or_assoc]
    congr 1
    cases hu : u.find? k <;> simp [hu]

theorem keys_layered (parts : List (Table κ α)) :
    (layered parts).keys = firstKeys (parts.flatMap keys) :=
  keys_foldl_union empty parts

theorem find?_layered (parts : List (Table κ α)) (k : κ) :
    (layered parts).find? k = parts.reverse.findSome? (·.find? k) := by
  rw [layered, find?_foldl_union]
  exact Option.or_none

/-- Of two stacks of tables the upper one decides, wherever it assigns the key. -/
theorem find?_layered_append (lower upper : List (Table κ α)) (k : κ) :
    (layered (lower ++ upper)).find? k =
      ((layered upper).find? k).or ((layered lower).find? k) := by
  rw [find?_layered, find?_layered, find?_layered, List.reverse_append, List.findSome?_append]

/-- **Laying tables over one another** makes the table of their last assignments. -/
theorem layered_lastWrite (parts : List (Table κ α)) : LastWrite parts (layered parts) where
  contains k := by
    rw [contains_eq_any_keys, keys_layered, any_same_firstKeys, List.any_flatMap]
    exact congrArg parts.any (funext fun t => (t.contains_eq_any_keys k).symm)
  keys := keys_layered parts
  find? k v := by
    -- The look-up goes from the last part to the first, so the split is turned around.
    rw [find?_layered, List.findSome?_eq_some_iff]
    constructor
    · rintro ⟨after, part, before, hparts, hv, hafter⟩
      refine ⟨before.reverse, part, after.reverse, ?_, hv, fun later hl => ?_⟩
      · simpa using congrArg List.reverse hparts
      · exact hafter later (List.mem_reverse.1 hl)
    · rintro ⟨before, part, after, hparts, hv, hafter⟩
      refine ⟨after.reverse, part, before.reverse, ?_, hv, fun later hl => ?_⟩
      · simp [hparts]
      · exact hafter later (List.mem_reverse.1 hl)

end Table

end LayeredLint
