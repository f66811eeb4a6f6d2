import LayeredLint.Language
import LayeredLint.Proofs.Fragment.Made

/-!
# Merged parser options

Parser options are merged key by key, and tables inside them again.

- `Entries.restrict`: the entries of some keys.
- `restrict_mergeEntries`: **leaving keys out commutes with merging**, at the top level.
- `Entries.Distinct.mergeEntries`, `mergeEntries_eq_append`: merged options have one entry for each
  key, and merging new keys appends them.
- `LanguageOptions.globals_merge` and the lemmas beside it: merged options, one by one.
- `LanguageOptions.made_merge`: options that passed the checks are merged into such options.
- `LanguageOptions.merge_merge_cons`: **merging goes on from merged options**.
-/

namespace LayeredLint

/-! ## Entries of some keys -/

namespace Entries

variable {κ α : Type} {p : κ → Bool}

/-- The entries whose keys pass a test. -/
def restrict (p : κ → Bool) (entries : List (κ × α)) : List (κ × α) :=
  entries.filter fun e => p e.1

theorem restrict_cons_of_pos {k : κ} (h : p k = true) (v : α) (rest : List (κ × α)) :
    restrict p ((k, v) :: rest) = (k, v) :: restrict p rest := by
  rw [restrict, List.filter_cons, if_pos h]
  rfl

theorem restrict_cons_of_neg {k : κ} (h : ¬p k = true) (v : α) (rest : List (κ × α)) :
    restrict p ((k, v) :: rest) = restrict p rest := by
  rw [restrict, List.filter_cons, if_neg h]
  rfl

variable [SameKey κ]

/-- A look-up sees no difference when entries of other keys are left out. -/
theorem find?_restrict (hp : ∀ a b, same a b = true → p a = p b) {k : κ} (h : p k = true)
    (entries : List (κ × α)) : find? k (restrict p entries) = find? k entries := by
  induction entries with
  | nil => rfl
  | cons e rest ih =>
    obtain ⟨k₀, v₀⟩ := e
    by_cases h₀ : p k₀ = true
    · rw [restrict_cons_of_pos h₀, find?, find?, ih]
    · have hne : ¬same k k₀ = true := fun hs => h₀ ((hp k k₀ hs).symm.trans h)
      rw [restrict_cons_of_neg h₀, find?, if_neg hne, ih]

/-- An assignment to a key that is left out leaves no trace. -/
theorem restrict_insert_of_neg (hp : ∀ a b, same a b = true → p a = p b) {k : κ}
    (h : ¬p k = true) (v : α) (entries : List (κ × α)) :
    restrict p (insert k v entries) = restrict p entries := by
  induction entries with
  | nil => exact restrict_cons_of_neg h v []
  | cons e rest ih =>
    obtain ⟨k₀, v₀⟩ := e
    rw [insert]
    split
    · next hs =>
      have h₀ : ¬p k₀ = true := fun h₀ => h ((hp k k₀ hs).trans h₀)
      rw [restrict_cons_of_neg h₀, restrict_cons_of_neg h₀]
    · by_cases h₀ : p k₀ = true
      · rw [restrict_cons_of_pos h₀, restrict_cons_of_pos h₀, ih]
      · rw [restrict_cons_of_neg h₀, restrict_cons_of_neg h₀, ih]

/-- An assignment to a key that stays can be made after others are left out. -/
theorem restrict_insert_of_pos (hp : ∀ a b, same a b = true → p a = p b) {k : κ}
    (h : p k = true) (v : α) (entries : List (κ × α)) :
    restrict p (insert k v entries) = insert k v (restrict p entries) := by
  induction entries with
  | nil => exact restrict_cons_of_pos h v []
  | cons e rest ih =>
    obtain ⟨k₀, v₀⟩ := e
    rw [insert]
    split
    · next hs =>
      have h₀ : p k₀ = true := (hp k k₀ hs).symm.trans h
      rw [restrict_cons_of_pos h₀, restrict_cons_of_pos h₀, insert, if_pos hs]
    · next hs =>
      by_cases h₀ : p k₀ = true
      · rw [restrict_cons_of_pos h₀, restrict_cons_of_pos h₀, insert, if_neg hs, ih]
      · rw [restrict_cons_of_neg h₀, restrict_cons_of_neg h₀, ih]

end Entries

/-! ## Leaving keys out -/

theorem mergeEntries_cons (target : List (Value × Value)) (k v : Value)
    (rest : List (Value × Value)) :
    mergeEntries target ((k, v) :: rest) =
      mergeEntries (Entries.insert k (mergeValue (Entries.find? k target) v) target) rest := by
  rw [mergeEntries]

open Entries in
/-- **Leaving keys out commutes with merging.** What becomes of a key depends on no other key of
the same level. -/
theorem restrict_mergeEntries {p : Value → Bool} (hp : ∀ a b, same a b = true → p a = p b)
    (target update : List (Value × Value)) :
    restrict p (mergeEntries target update) =
      mergeEntries (restrict p target) (restrict p update) := by
  induction update generalizing target with
  | nil => rfl
  | cons e rest ih =>
    obtain ⟨k, v⟩ := e
    rw [mergeEntries_cons, ih]
    -- A key that stays finds the same value to be merged with; one that goes is never looked up.
    by_cases hk : p k = true
    · rw [restrict_cons_of_pos hk, mergeEntries_cons, find?_restrict hp hk,
        restrict_insert_of_pos hp hk]
    · rw [restrict_cons_of_neg hk, restrict_insert_of_neg hp hk]

/-! ## One entry for each key -/

theorem Entries.Distinct.mergeEntries {target : List (Value × Value)} (h : Distinct target)
    (update : List (Value × Value)) : Distinct (LayeredLint.mergeEntries target update) := by
  induction update generalizing target with
  | nil => exact h
  | cons e rest ih =>
    rw [mergeEntries_cons]
    exact ih (h.insert _ _)

theorem Entries.Distinct.foldl_mergeEntries {target : List (Value × Value)} (h : Distinct target)
    (updates : List (List (Value × Value))) :
    Distinct (updates.foldl LayeredLint.mergeEntries target) := by
  induction updates generalizing target with
  | nil => exact h
  | cons u rest ih => exact ih (h.mergeEntries u)

theorem mergeValue_none (v : Value) : mergeValue none v = v := by
  cases v <;> rfl

/-- New keys go to the end, with their values. -/
theorem mergeEntries_eq_append {target update : List (Value × Value)}
    (h : Entries.Distinct (target ++ update)) : mergeEntries target update = target ++ update := by
  induction update generalizing target with
  | nil => exact (List.append_nil _).symm
  | cons e rest ih =>
    obtain ⟨k, v⟩ := e
    have absent : Entries.find? k target = none := by
      refine Entries.find?_eq_none_iff.2 fun e he => ?_
      rw [Entries.same_comm]
      exact (List.pairwise_append.1 h).2.2 e he (k, v) List.mem_cons_self
    have fresh : Entries.contains k target = false := by
      rw [Entries.contains, absent]
      rfl
    rw [List.append_cons] at h ⊢
    rw [mergeEntries_cons, absent, mergeValue_none, Entries.insert_of_not_contains fresh, ih h]

/-- What is merged into nothing stays as it is. -/
theorem mergeEntries_nil {update : List (Value × Value)} (h : Entries.Distinct update) :
    mergeEntries [] update = update :=
  mergeEntries_eq_append h

/-! ## Copies -/

namespace Value

theorem copyable_of_find? {k v : Value} {entries : List (Value × Value)}
    (h : copyableEntries entries = true) (hv : Entries.find? k entries = some v) :
    copyable v = true := by
  induction entries with
  | nil => cases hv
  | cons e rest ih =>
    obtain ⟨k₀, v₀⟩ := e
    simp only [copyableEntries, Bool.and_eq_true] at h
    rw [Entries.find?] at hv
    split at hv
    · cases hv; exact h.1.2
    · exact ih h.2 hv

theorem copyableEntries_insert {k v : Value} {entries : List (Value × Value)}
    (hk : copyable k = true) (hv : copyable v = true) (h : copyableEntries entries = true) :
    copyableEntries (Entries.insert k v entries) = true := by
  induction entries with
  | nil => simp [Entries.insert, copyableEntries, hk, hv]
  | cons e rest ih =>
    obtain ⟨k₀, v₀⟩ := e
    simp only [copyableEntries, Bool.and_eq_true] at h
    rw [Entries.insert]
    split
    · simp [copyableEntries, h, hv]
    · simp [copyableEntries, h, ih h.2]

mutual

theorem copyableEntries_mergeEntries : ∀ {target update : List (Value × Value)},
    copyableEntries target = true → copyableEntries update = true →
      copyableEntries (mergeEntries target update) = true
  | _, [], ht, _ => ht
  | target, (k, v) :: rest, ht, hu => by
    simp only [copyableEntries, Bool.and_eq_true] at hu
    rw [mergeEntries_cons]
    have hv : copyable (mergeValue (Entries.find? k target) v) = true :=
      copyable_mergeValue (fun _ hc => copyable_of_find? ht hc) hu.1.2
    exact copyableEntries_mergeEntries (copyableEntries_insert hu.1.1 hv ht) hu.2

theorem copyable_mergeValue {current : Option Value} (hc : ∀ c, current = some c →
    copyable c = true) : ∀ {v : Value}, copyable v = true → copyable (mergeValue current v) = true
  | .dict update, hv => by
    -- Only a table that meets a table is merged; everything else is replaced.
    cases current with
    | none => exact hv
    | some c =>
      cases c with
      | dict entries =>
        have hentries : copyableEntries entries = true := hc _ rfl
        show copyableEntries (mergeEntries entries update) = true
        exact copyableEntries_mergeEntries hentries hv
      | _ => exact hv
  | .null, hv | .bool _, hv | .int _, hv | .float _, hv | .str _, hv | .brokenText _, hv
  | .bytes _, hv | .list _, hv | .tuple _, hv | .severity _, hv | .setting .., hv | .module _, hv
  | .handle _, hv | .language .., hv | .moment _, hv => hv

end

end Value

/-! ## Options merged in order -/

/-- The last value of a list that is not null, or null where there is none. -/
def lastSet (values : List Value) : Value :=
  (values.filter (· ≠ .null)).getLast?.getD .null

namespace LanguageOptions

theorem foldl_orElse (v : Value) (values : List Value) :
    values.foldl orElse v = (values.filter (· ≠ .null)).getLast?.getD v := by
  induction values generalizing v with
  | nil => rfl
  | cons w rest ih =>
    rw [List.foldl_cons, ih, List.filter_cons]
    by_cases hw : w = .null
    · simp [orElse, hw]
    · simp [orElse, hw, List.getLast?_cons]

theorem foldl_or (t : Option SourceType) (types : List (Option SourceType)) :
    types.foldl (fun earlier later => later <|> earlier) t =
      (types.filterMap id).getLast?.or t := by
  induction types generalizing t with
  | nil => rfl
  | cons u rest ih =>
    rw [List.foldl_cons, ih]
    cases u with
    | none => simp
    | some u => simp [List.getLast?_cons]

theorem globals_merge (options : List LanguageOptions) :
    (merge options).globals = Table.layered (options.map globals) := by
  rw [Table.layered, List.foldl_map]
  exact (List.foldl_hom globals fun _ _ => rfl).symm

theorem ecmaVersion_merge (options : List LanguageOptions) :
    (merge options).ecmaVersion = lastSet (options.map ecmaVersion) := by
  rw [lastSet, ← foldl_orElse, List.foldl_map]
  exact (List.foldl_hom ecmaVersion fun _ _ => rfl).symm

theorem sourceType_merge (options : List LanguageOptions) :
    (merge options).sourceType = (options.filterMap sourceType).getLast? := by
  have fold : (merge options).sourceType =
      (options.map sourceType).foldl (fun earlier later => later <|> earlier) none := by
    rw [List.foldl_map]
    exact (List.foldl_hom sourceType fun _ _ => rfl).symm
  rw [fold, foldl_or, Option.or_none, List.filterMap_map]
  rfl

theorem parser_merge (options : List LanguageOptions) :
    (merge options).parser = lastSet (options.map parser) := by
  rw [lastSet, ← foldl_orElse, List.foldl_map]
  exact (List.foldl_hom parser fun _ _ => rfl).symm

theorem parserOptions_merge (options : List LanguageOptions) :
    (merge options).parserOptions = (options.map parserOptions).foldl mergeEntries [] := by
  rw [List.foldl_map]
  exact (List.foldl_hom parserOptions fun _ _ => rfl).symm

theorem copyable_foldl_mergeEntries {target : List (Value × Value)}
    (ht : Value.copyableEntries target = true) {updates : List (List (Value × Value))}
    (hu : ∀ u ∈ updates, Value.copyableEntries u = true) :
    Value.copyableEntries (updates.foldl mergeEntries target) = true := by
  induction updates generalizing target with
  | nil => exact ht
  | cons u rest ih =>
    have hu₀ := hu u List.mem_cons_self
    exact ih (Value.copyableEntries_mergeEntries ht hu₀) fun w hw => hu w (List.mem_cons_of_mem _ hw)

theorem distinct_parserOptions_merge (options : List LanguageOptions) :
    Entries.Distinct (merge options).parserOptions := by
  rw [parserOptions_merge]
  exact Entries.Distinct.foldl_mergeEntries List.Pairwise.nil _

/-- Merged options, set on top of none at all, are these options. -/
theorem mergeOne_merge (options : List LanguageOptions) :
    mergeOne {} (merge options) = merge options := by
  have hglobals : Table.empty.union (merge options).globals = (merge options).globals :=
    Table.ofList_entries _
  have hparser : mergeEntries [] (merge options).parserOptions = (merge options).parserOptions :=
    mergeEntries_nil (distinct_parserOptions_merge options)
  have hset : ∀ v : Value, orElse .null v = v := fun v => by
    by_cases hv : v = .null
    · rw [orElse, if_pos hv, hv]
    · rw [orElse, if_neg hv]
  have htype : ((merge options).sourceType <|> none) = (merge options).sourceType := by
    cases (merge options).sourceType <;> rfl
  show LanguageOptions.mk _ _ _ _ _ = _
  rw [hglobals, hparser, hset, hset, htype]

/-- **Merging goes on from merged options** as it does from the options they come from. -/
theorem merge_merge_cons (options later : List LanguageOptions) :
    merge (merge options :: later) = merge (options ++ later) := by
  show later.foldl mergeOne (mergeOne {} (merge options)) = _
  rw [mergeOne_merge, merge, merge, List.foldl_append]

/-- Options that passed the checks are merged into options that pass them. -/
theorem made_merge {options : List LanguageOptions} (h : ∀ o ∈ options, o.Made) :
    (merge options).Made := by
  rw [made_iff, parserOptions_merge]
  refine copyable_foldl_mergeEntries rfl fun u hu => ?_
  obtain ⟨o, ho, rfl⟩ := List.mem_map.1 hu
  exact made_iff.1 (h o ho)

end LanguageOptions

end LayeredLint
