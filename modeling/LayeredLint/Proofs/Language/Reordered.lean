import LayeredLint.Proofs.Json.Document
import LayeredLint.Proofs.Language.Merge

/-!
# Parser options up to the order of their keys

Where two sets of options do not contradict each other, it does not matter which of them is merged
first: only the order of keys shows it.

- `find?_mergeEntries`: merged options, key by key.
- `Value.Tidy`: tables have one entry for each key, at any depth; `tidy_mergeEntries`: merging keeps
  that.
- `Value.Alike`: values that differ in the order of keys at most.
- `Alike.mergeEntries`: **what is merged on top of them keeps options alike**.
- `Value.Agree`: values that do not contradict each other; `Agree.mergeEntries_swap`: **options that
  agree may change places**.
- `LanguageOptions.Tidy`: options whose tables have one entry for each key.
-/

namespace LayeredLint

/-! ## Key by key -/

/-- What stands for a key after options are merged: the later options decide, on top of what stood
there before. -/
theorem find?_mergeEntries (k : Value) (target : List (Value × Value))
    {update : List (Value × Value)} (h : Entries.Distinct update) :
    Entries.find? k (mergeEntries target update) =
      match Entries.find? k update with
      | none => Entries.find? k target
      | some v => some (mergeValue (Entries.find? k target) v) := by
  induction update generalizing target with
  | nil => rfl
  | cons e rest ih =>
    obtain ⟨k₀, v₀⟩ := e
    rw [mergeEntries_cons, ih _ (Entries.distinct_cons_iff.1 h).2, Entries.find?_insert, Entries.find?]
    by_cases hk : same k k₀ = true
    · rw [Entries.find?_eq_none_of_same h hk, if_pos hk, if_pos hk, Entries.find?_congr hk]
    · rw [if_neg hk, if_neg hk]

namespace Value

/-! ## One entry for each key, at any depth -/

/-- A table has one entry for each key. -/
def TidyPart : Value → Prop
  | .dict entries => Entries.Distinct entries
  | _ => True

instance : DecidablePred TidyPart := fun v =>
  match v with
  | .dict entries => inferInstanceAs (Decidable (Entries.Distinct entries))
  | .null | .bool _ | .int _ | .float _ | .str _ | .brokenText _ | .bytes _ | .list _ | .tuple _
  | .severity _ | .setting .. | .module _ | .handle _ | .language .. | .moment _ =>
    inferInstanceAs (Decidable True)

/-- Every table in a value has one entry for each key. -/
def Tidy (v : Value) : Prop :=
  v.Throughout TidyPart

instance (v : Value) : Decidable v.Tidy :=
  inferInstanceAs (Decidable (v.Throughout TidyPart))

theorem tidy_dict {entries : List (Value × Value)} :
    (Value.dict entries).Tidy ↔ Entries.Distinct entries ∧ ∀ e ∈ entries, e.2.Tidy :=
  throughout_dict

theorem Tidy.of_find? {entries : List (Value × Value)} (h : (Value.dict entries).Tidy) {k v : Value}
    (hv : Entries.find? k entries = some v) : v.Tidy := by
  obtain ⟨e, he, -, rfl⟩ := Entries.mem_of_find? hv
  exact (tidy_dict.1 h).2 e he

theorem Tidy.insert {entries : List (Value × Value)} (h : (Value.dict entries).Tidy) (k : Value)
    {v : Value} (hv : v.Tidy) : (Value.dict (Entries.insert k v entries)).Tidy := by
  refine tidy_dict.2 ⟨(tidy_dict.1 h).1.insert k v, fun e he => ?_⟩
  have hdistinct := (tidy_dict.1 h).1.insert k v
  have found := Entries.find?_of_mem hdistinct he
  rw [Entries.find?_insert] at found
  split at found
  · cases found; exact hv
  · exact h.of_find? found

mutual

theorem tidy_mergeEntries : ∀ {target update : List (Value × Value)}, (Value.dict target).Tidy →
    (Value.dict update).Tidy → (Value.dict (mergeEntries target update)).Tidy
  | _, [], ht, _ => ht
  | target, (k, v) :: rest, ht, hu => by
    have hparts := tidy_dict.1 hu
    have hv : (mergeValue (Entries.find? k target) v).Tidy :=
      tidy_mergeValue (fun _ hc => ht.of_find? hc) (hparts.2 _ List.mem_cons_self)
    have hrest : (Value.dict rest).Tidy :=
      tidy_dict.2 ⟨hparts.1.of_cons, fun e he => hparts.2 e (List.mem_cons_of_mem _ he)⟩
    rw [mergeEntries_cons]
    exact tidy_mergeEntries (ht.insert k hv) hrest

theorem tidy_mergeValue {current : Option Value} (hc : ∀ c, current = some c → c.Tidy) :
    ∀ {v : Value}, v.Tidy → (mergeValue current v).Tidy
  | .dict update, hv => by
    cases current with
    | none => exact hv
    | some c =>
      cases c with
      | dict entries =>
        show (Value.dict (mergeEntries entries update)).Tidy
        exact tidy_mergeEntries (hc _ rfl) hv
      | _ => exact hv
  | .null, hv | .bool _, hv | .int _, hv | .float _, hv | .str _, hv | .brokenText _, hv
  | .bytes _, hv | .list _, hv | .tuple _, hv | .severity _, hv | .setting .., hv | .module _, hv
  | .handle _, hv | .language .., hv | .moment _, hv => hv

end

/-! ## Values that differ in the order of keys at most -/

/-- Values are alike when they are the same, or both tables that have as many entries, for the same
keys and with values that are alike. -/
inductive Alike : Value → Value → Prop where
  | refl (v : Value) : Alike v v
  | dict {a b : List (Value × Value)} (size : a.length = b.length)
      (missing : ∀ k, Entries.find? k a = none ↔ Entries.find? k b = none)
      (shared : ∀ k v w, Entries.find? k a = some v → Entries.find? k b = some w → Alike v w) :
      Alike (.dict a) (.dict b)

variable {a b : List (Value × Value)}

theorem Alike.size (h : Alike (.dict a) (.dict b)) : a.length = b.length := by
  cases h with
  | refl => rfl
  | dict size => exact size

/-- A key is missing in both tables, or stands for values that are alike. -/
theorem Alike.find? (h : Alike (.dict a) (.dict b)) (k : Value) :
    Entries.find? k a = none ∧ Entries.find? k b = none ∨
      ∃ v w, Entries.find? k a = some v ∧ Entries.find? k b = some w ∧ Alike v w := by
  cases h with
  | refl =>
    cases hv : Entries.find? k a with
    | none => exact .inl ⟨rfl, rfl⟩
    | some v => exact .inr ⟨v, v, rfl, rfl, .refl v⟩
  | dict size missing shared =>
    cases hv : Entries.find? k a with
    | none => exact .inl ⟨rfl, (missing k).1 hv⟩
    | some v =>
      cases hw : Entries.find? k b with
      | none => rw [(missing k).2 hw] at hv; cases hv
      | some w => exact .inr ⟨v, w, rfl, rfl, shared k v w hv hw⟩

/-- Alike values may be assigned to the same key of alike tables. -/
theorem Alike.insert (h : Alike (.dict a) (.dict b)) (k : Value) {v w : Value} (hvw : Alike v w) :
    Alike (.dict (Entries.insert k v a)) (.dict (Entries.insert k w b)) := by
  refine .dict ?_ (fun k' => ?_) fun k' v' w' hv hw => ?_
  · rw [Entries.length_insert, Entries.length_insert, h.size, Entries.contains, Entries.contains]
    rcases h.find? k with ⟨ha, hb⟩ | ⟨_, _, ha, hb, -⟩ <;> rw [ha, hb]
    rfl
  · rw [Entries.find?_insert, Entries.find?_insert]
    split
    · simp
    · rcases h.find? k' with ⟨ha, hb⟩ | ⟨_, _, ha, hb, -⟩ <;> simp [ha, hb]
  · rw [Entries.find?_insert] at hv hw
    split at hv
    · next hk =>
      rw [if_pos hk] at hw
      cases hv
      cases hw
      exact hvw
    · next hk =>
      rw [if_neg hk] at hw
      rcases h.find? k' with ⟨ha, -⟩ | ⟨_, _, ha, hb, halike⟩
      · rw [ha] at hv; cases hv
      · rw [ha] at hv
        rw [hb] at hw
        cases hv
        cases hw
        exact halike

mutual

/-- **What is merged on top of them keeps options alike.** -/
theorem Alike.mergeEntries : ∀ {a b : List (Value × Value)} (update : List (Value × Value)),
    Alike (.dict a) (.dict b) →
      Alike (.dict (LayeredLint.mergeEntries a update)) (.dict (LayeredLint.mergeEntries b update))
  | _, _, [], h => h
  | a, b, (k, v) :: rest, h => by
    rw [mergeEntries_cons, mergeEntries_cons]
    refine Alike.mergeEntries rest (h.insert k ?_)
    rcases h.find? k with ⟨ha, hb⟩ | ⟨_, _, ha, hb, halike⟩
    · rw [ha, hb]
      exact .refl _
    · rw [ha, hb]
      exact Alike.mergeValue v halike

theorem Alike.mergeValue {c d : Value} : ∀ v : Value, Alike c d →
    Alike (LayeredLint.mergeValue (some c) v) (LayeredLint.mergeValue (some d) v)
  | .dict update, h => by
    -- Two tables go on as alike tables; anything else is one and the same value.
    cases h with
    | refl => exact .refl _
    | dict size missing shared =>
      show Alike (.dict (LayeredLint.mergeEntries _ update)) (.dict (LayeredLint.mergeEntries _ update))
      exact Alike.mergeEntries update (.dict size missing shared)
  | .null, _ | .bool _, _ | .int _, _ | .float _, _ | .str _, _ | .brokenText _, _ | .bytes _, _
  | .list _, _ | .tuple _, _ | .severity _, _ | .setting .., _ | .module _, _ | .handle _, _
  | .language .., _ | .moment _, _ => .refl _

end

/-! ## Options that may change places -/

/-- Values agree when they are the same and no tables, or tables that agree on the keys they
share. -/
inductive Agree : Value → Value → Prop where
  | same {v : Value} (plain : ∀ entries, v ≠ .dict entries) : Agree v v
  | dict {a b : List (Value × Value)} (shared : ∀ k v w, Entries.find? k a = some v →
      Entries.find? k b = some w → Agree v w) : Agree (.dict a) (.dict b)

/-- Tables agree when each entry of the first agrees with what stands for its key in the second. -/
theorem Agree.of_entries (h : ∀ e ∈ a, ∀ w, Entries.find? e.1 b = some w → Agree e.2 w) :
    Agree (.dict a) (.dict b) := by
  refine .dict fun k v w hv hw => ?_
  obtain ⟨e, he, hk, rfl⟩ := Entries.mem_of_find? hv
  rw [Entries.find?_congr hk] at hw
  exact h e he w hw

/-- Tables with one entry for each key and the same keys are equally long. -/
theorem length_eq_of_missing (ha : Entries.Distinct a) (hb : Entries.Distinct b)
    (missing : ∀ k, Entries.find? k a = none ↔ Entries.find? k b = none) : a.length = b.length := by
  -- The representatives of the keys are the same on both sides, and none is repeated.
  have forms : ∀ {entries : List (Value × Value)}, Entries.Distinct entries →
      (entries.map fun e => keyForm e.1).Nodup := fun h =>
    List.pairwise_map.2 (h.imp fun hne heq => by simp [LayeredLint.same, heq] at hne)
  have named : ∀ (entries : List (Value × Value)) (k : Value),
      keyForm k ∈ entries.map (fun e => keyForm e.1) ↔ Entries.find? k entries ≠ none := by
    intro entries k
    rw [Ne, Entries.find?_eq_none_iff, List.mem_map]
    simp [LayeredLint.same, eq_comm]
  have perm : (a.map fun e => keyForm e.1).Perm (b.map fun e => keyForm e.1) := by
    refine (List.perm_ext_iff_of_nodup (forms ha) (forms hb)).2 fun form => ?_
    constructor
    · intro h
      obtain ⟨e, -, rfl⟩ := List.mem_map.1 h
      exact (named b e.1).2 fun hnone => (named a e.1).1 h ((missing e.1).2 hnone)
    · intro h
      obtain ⟨e, -, rfl⟩ := List.mem_map.1 h
      exact (named a e.1).2 fun hnone => (named b e.1).1 h ((missing e.1).1 hnone)
  simpa using perm.length_eq

/-- The table that another one is merged into, empty where none stands. -/
def tableIn : Option Value → List (Value × Value)
  | some (.dict entries) => entries
  | _ => []

theorem mergeValue_dict {update : List (Value × Value)} (h : Entries.Distinct update)
    (current : Option Value) :
    mergeValue current (.dict update) = .dict (mergeEntries (tableIn current) update) := by
  have fresh : Value.dict update = .dict (mergeEntries [] update) := by rw [mergeEntries_nil h]
  cases current with
  | none => exact fresh
  | some c => cases c <;> first | rfl | exact fresh

theorem tidy_tableIn {current : Option Value} (h : ∀ c, current = some c → c.Tidy) :
    (Value.dict (tableIn current)).Tidy := by
  have empty : (Value.dict []).Tidy := by decide
  cases current with
  | none => exact empty
  | some c => cases c <;> first | exact h _ rfl | exact empty

/-- Updates may change places where they may for each key they share. -/
theorem alike_mergeEntries_swap {target : List (Value × Value)} (ht : Entries.Distinct target)
    (ha : Entries.Distinct a) (hb : Entries.Distinct b)
    (shared : ∀ k v w, Entries.find? k a = some v → Entries.find? k b = some w →
      Alike (mergeValue (some (mergeValue (Entries.find? k target) v)) w)
        (mergeValue (some (mergeValue (Entries.find? k target) w)) v)) :
    Alike (.dict (mergeEntries (mergeEntries target a) b))
      (.dict (mergeEntries (mergeEntries target b) a)) := by
  have missing : ∀ k, Entries.find? k (mergeEntries (mergeEntries target a) b) = none ↔
      Entries.find? k (mergeEntries (mergeEntries target b) a) = none := by
    intro k
    rw [find?_mergeEntries k _ hb, find?_mergeEntries k _ ha, find?_mergeEntries k _ ha,
      find?_mergeEntries k _ hb]
    cases Entries.find? k a <;> cases Entries.find? k b <;> simp
  refine .dict ?_ missing fun k v w hv hw => ?_
  · exact length_eq_of_missing ((ht.mergeEntries a).mergeEntries b)
      ((ht.mergeEntries b).mergeEntries a) missing
  · rw [find?_mergeEntries k _ hb, find?_mergeEntries k _ ha] at hv
    rw [find?_mergeEntries k _ ha, find?_mergeEntries k _ hb] at hw
    cases hka : Entries.find? k a with
    | none =>
      cases hkb : Entries.find? k b with
      | none => simp only [hka, hkb] at hv hw; rw [hv] at hw; cases hw; exact .refl _
      | some w₀ => simp only [hka, hkb] at hv hw; cases hv; cases hw; exact .refl _
    | some v₀ =>
      cases hkb : Entries.find? k b with
      | none => simp only [hka, hkb] at hv hw; cases hv; cases hw; exact .refl _
      | some w₀ =>
        simp only [hka, hkb] at hv hw
        cases hv
        cases hw
        exact shared k v₀ w₀ hka hkb

/-- Values that agree may change places, whatever stood there before. -/
theorem Agree.mergeValue_swap {v w : Value} (h : Agree v w) (hv : v.Tidy) (hw : w.Tidy) :
    ∀ current : Option Value, (∀ c, current = some c → c.Tidy) →
      Alike (mergeValue (some (mergeValue current v)) w)
        (mergeValue (some (mergeValue current w)) v) := by
  induction h with
  | same => exact fun _ _ => .refl _
  | @dict a b shared ih =>
    intro current hcurrent
    have ha := (tidy_dict.1 hv).1
    have hb := (tidy_dict.1 hw).1
    have ht := tidy_tableIn hcurrent
    rw [mergeValue_dict ha, mergeValue_dict hb, mergeValue_dict hb, mergeValue_dict ha]
    refine alike_mergeEntries_swap (tidy_dict.1 ht).1 ha hb fun k v w hkv hkw => ?_
    exact ih k v w hkv hkw (hv.of_find? hkv) (hw.of_find? hkw) _ fun _ hc => ht.of_find? hc

/-- **Options that agree may change places.** -/
theorem Agree.mergeEntries_swap {target : List (Value × Value)} (h : Agree (.dict a) (.dict b))
    (ht : (Value.dict target).Tidy) (ha : (Value.dict a).Tidy) (hb : (Value.dict b).Tidy) :
    Alike (.dict (mergeEntries (mergeEntries target a) b))
      (.dict (mergeEntries (mergeEntries target b) a)) := by
  have hswap := h.mergeValue_swap ha hb (some (.dict target)) fun _ hc => by cases hc; exact ht
  rw [mergeValue_dict (tidy_dict.1 ha).1, mergeValue_dict (tidy_dict.1 hb).1,
    mergeValue_dict (tidy_dict.1 hb).1, mergeValue_dict (tidy_dict.1 ha).1] at hswap
  exact hswap

end Value

/-! ## Language options -/

namespace LanguageOptions

/-- Tables in the parser options have one entry for each key. -/
def Tidy (o : LanguageOptions) : Prop :=
  (Value.dict o.parserOptions).Tidy

instance (o : LanguageOptions) : Decidable o.Tidy :=
  inferInstanceAs (Decidable (Value.Tidy _))

theorem tidy_merge {options : List LanguageOptions} (h : ∀ o ∈ options, o.Tidy) :
    (merge options).Tidy := by
  have keeps : ∀ m : LanguageOptions, m.Tidy → (options.foldl mergeOne m).Tidy := by
    induction options with
    | nil => exact fun _ hm => hm
    | cons o rest ih =>
      rw [List.forall_mem_cons] at h
      exact fun m hm => ih h.2 _ (Value.tidy_mergeEntries hm h.1)
  exact keeps {} (by decide)

end LanguageOptions

end LayeredLint
