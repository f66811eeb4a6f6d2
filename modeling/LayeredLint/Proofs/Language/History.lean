import LayeredLint.Proofs.Language.Reordered
import Mathlib.Data.List.DropRight

/-!
# Parser options, key by key

Merging goes through the options one after another. What it comes to is said here key by key, by the
values that stood for the key, and nothing is said of the tables on the way.

- `history`: the values that stood for a key, in order.
- `trailingTables`: the tables that a list of values ends with.
- `keyByKey`: the definition by keys: each key has its last value, and where that is a table, the
  tables that its history ends with are merged again.
- `find?_foldl_mergeEntries`: look-up after a merge is a fold over the history of the key.
- `foldl_mergeEntries_eq_keyByKey`: **tables merged one after another are those merged key by key**.
- `LanguageOptions.parserOptions_merge_keyByKey`: the same for language options.
-/

namespace LayeredLint

open Entries

/-! ## Histories -/

/-- The entries of a value that is a table. -/
def Value.entries? : Value → Option (List (Value × Value))
  | .dict entries => some entries
  | _ => none

/-- The values that stood for a key, in the order of the tables. -/
def history (k : Value) (tables : List (List (Value × Value))) : List Value :=
  tables.filterMap (find? k)

/-- The tables that a list of values ends with: all behind the last value that is none. -/
def trailingTables (values : List Value) : List (List (Value × Value)) :=
  (values.rtakeWhile fun v => v.entries?.isSome).filterMap Value.entries?

theorem Value.entries?_eq_some {v : Value} {entries : List (Value × Value)}
    (h : v.entries? = some entries) : v = .dict entries := by
  cases v <;> cases h
  rfl

theorem history_concat (k : Value) (tables : List (List (Value × Value)))
    (t : List (Value × Value)) :
    history k (tables ++ [t]) = history k tables ++ (find? k t).toList := by
  rw [history, List.filterMap_append]
  cases h : find? k t <;> simp [history, h]

theorem trailingTables_concat_dict (values : List Value) (entries : List (Value × Value)) :
    trailingTables (values ++ [.dict entries]) = trailingTables values ++ [entries] := by
  rw [trailingTables, List.rtakeWhile_concat_pos _ _ _ rfl, List.filterMap_append]
  rfl

theorem trailingTables_concat_of_none {v : Value} (h : v.entries? = none) (values : List Value) :
    trailingTables (values ++ [v]) = [] := by
  rw [trailingTables, List.rtakeWhile_concat_neg _ _ _ (by simp [h])]
  rfl

/-- A table at the end of a list of values is one of the values. -/
theorem dict_mem_of_mem_trailingTables {values : List Value} {entries : List (Value × Value)}
    (h : entries ∈ trailingTables values) : Value.dict entries ∈ values := by
  obtain ⟨v, hv, hentries⟩ := List.mem_filterMap.1 h
  rw [← Value.entries?_eq_some hentries]
  exact (List.rtakeWhile_suffix _ _).mem hv

/-- The tables in the history of a key are nested less deeply than those that the key is in. -/
theorem nesting_trailingTables_lt {k : Value} {tables : List (List (Value × Value))}
    {entries : List (Value × Value)} (h : (history k tables).getLast? = some (.dict entries)) :
    Value.nestingItems ((trailingTables (history k tables)).map .dict) <
      Value.nestingItems (tables.map .dict) := by
  have below : ∀ v ∈ history k tables, v.nesting + 1 ≤ Value.nestingItems (tables.map .dict) := by
    intro v hv
    obtain ⟨t, ht, hfound⟩ := List.mem_filterMap.1 hv
    obtain ⟨e, he, -, rfl⟩ := mem_of_find? hfound
    have htable : (Value.dict t).nesting ≤ Value.nestingItems (tables.map .dict) :=
      Value.nestingItems_le_iff.1 (Nat.le_refl _) _ (List.mem_map_of_mem ht)
    have hvalue : e.2.nesting ≤ Value.nestingMembers t :=
      Value.nestingMembers_le_iff.1 (Nat.le_refl _) e he
    rw [Value.nesting] at htable
    omega
  have positive := below _ (List.mem_of_getLast? h)
  have inside : Value.nestingItems ((trailingTables (history k tables)).map .dict) ≤
      Value.nestingItems (tables.map .dict) - 1 := by
    refine Value.nestingItems_le_iff.2 fun v hv => ?_
    obtain ⟨t, ht, rfl⟩ := List.mem_map.1 hv
    exact Nat.le_sub_one_of_lt (below _ (dict_mem_of_mem_trailingTables ht))
  omega

/-! ## The definition by keys -/

/-- Tables merged key by key: the keys of all of them in order of first occurrence, each with the
last of its values, unless that is a table: then with the tables that its values end with, merged in
the same way. -/
def keyByKey (tables : List (List (Value × Value))) : List (Value × Value) :=
  (firstKeys (tables.flatMap keys)).map fun k =>
    (k, match _last : (history k tables).getLast? with
      | some (.dict _) => .dict (keyByKey (trailingTables (history k tables)))
      | some v => v
      | none => .null)
termination_by Value.nestingItems (tables.map .dict)
decreasing_by exact nesting_trailingTables_lt _last

/-- What stands for a key with a history. -/
def standing (values : List Value) : Value :=
  match values.getLast? with
  | some (.dict _) => .dict (keyByKey (trailingTables values))
  | some v => v
  | none => .null

theorem keyByKey_eq (tables : List (List (Value × Value))) :
    keyByKey tables =
      (firstKeys (tables.flatMap keys)).map fun k => (k, standing (history k tables)) := by
  rw [keyByKey]
  refine List.map_congr_left fun k _ => congrArg (Prod.mk k) ?_
  unfold standing
  split
  · next h => rw [h]
  · next v hv h =>
    rw [h]
    cases v <;> first | rfl | exact absurd rfl (hv _)
  · next h => rw [h]

theorem keys_keyByKey (tables : List (List (Value × Value))) :
    keys (keyByKey tables) = firstKeys (tables.flatMap keys) := by
  rw [keyByKey_eq, keys, List.map_map]
  exact List.map_id _

theorem distinct_keyByKey (tables : List (List (Value × Value))) :
    Distinct (keyByKey tables) := by
  have h := pairwise_firstKeys (tables.flatMap keys)
  rw [← keys_keyByKey] at h
  have hentries := List.pairwise_map.1 h
  exact hentries

theorem find?_keyByKey {k : Value} {tables : List (List (Value × Value))}
    (h : k ∈ firstKeys (tables.flatMap keys)) :
    find? k (keyByKey tables) = some (standing (history k tables)) := by
  have entry : (k, standing (history k tables)) ∈ keyByKey tables := by
    rw [keyByKey_eq]
    exact List.mem_map_of_mem h
  exact find?_of_mem (distinct_keyByKey tables) entry

/-! ## Merging, seen through keys and look-up -/

/-- The keys after an assignment hang on the keys before it only. -/
theorem Entries.keys_insert_congr {a b : List (Value × Value)} (h : keys a = keys b)
    (k v w : Value) : keys (insert k v a) = keys (insert k w b) := by
  rw [keys_insert, keys_insert, contains_eq_any_keys, contains_eq_any_keys, h]

theorem keys_mergeEntries {target : List (Value × Value)} (h : Distinct target)
    (update : List (Value × Value)) :
    keys (mergeEntries target update) = firstKeys (keys target ++ keys update) := by
  -- what is assigned makes no difference to the keys, so merging has those of a plain assignment
  have plain : ∀ {a b : List (Value × Value)}, keys a = keys b →
      keys (mergeEntries a update) = keys (union b update) := by
    induction update with
    | nil => exact fun h => h
    | cons e rest ih =>
      intro a b hab
      rw [mergeEntries_cons]
      exact ih (keys_insert_congr hab _ _ _)
  rw [plain rfl, keys_union h]

theorem keys_foldl_mergeEntries {target : List (Value × Value)} (h : Distinct target)
    (tables : List (List (Value × Value))) :
    keys (tables.foldl mergeEntries target) =
      firstKeys (keys target ++ tables.flatMap keys) := by
  induction tables generalizing target with
  | nil =>
    rw [List.foldl_nil, List.flatMap_nil, List.append_nil]
    exact (firstKeys_of_pairwise (List.pairwise_map.2 h)).symm
  | cons t rest ih =>
    rw [List.foldl_cons, ih (h.mergeEntries t), keys_mergeEntries h, firstKeys_firstKeys_append,
      List.flatMap_cons, List.append_assoc]

/-- What becomes of a key when one more value is merged. -/
def mergeNext (current : Option Value) (v : Value) : Option Value :=
  some (mergeValue current v)

/-- Look-up after a merge is a fold over the history of the key. -/
theorem find?_foldl_mergeEntries (k : Value) {tables : List (List (Value × Value))}
    (h : ∀ t ∈ tables, Distinct t) :
    find? k (tables.foldl mergeEntries []) = (history k tables).foldl mergeNext none := by
  -- from the last table back, since that is the one that is merged last
  induction tables using List.reverseRecOn with
  | nil => rfl
  | append_singleton tables t ih =>
    have hbefore : ∀ t ∈ tables, Distinct t := fun u hu => h u (List.mem_append_left _ hu)
    have ht : Distinct t := h t (List.mem_append_right _ List.mem_cons_self)
    rw [List.foldl_append, List.foldl_cons, List.foldl_nil, find?_mergeEntries k _ ht, ih hbefore,
      history_concat, List.foldl_append]
    cases find? k t <;> rfl

theorem mergeNext_of_none {v : Value} (h : v.entries? = none) (current : Option Value) :
    mergeNext current v = some v := by
  cases v <;> first | rfl | cases h

theorem mergeNext_dict {entries : List (Value × Value)} (h : Distinct entries)
    (current : Option Value) :
    mergeNext current (.dict entries) =
      some (.dict (mergeEntries (Value.tableIn current) entries)) :=
  congrArg some (Value.mergeValue_dict h current)

section Fold

variable {values : List Value}

/-- The table that the next one would be merged into holds those that the history ends with. -/
theorem tableIn_foldl_mergeNext (h : ∀ v ∈ values, v.TidyPart) :
    Value.tableIn (values.foldl mergeNext none) =
      (trailingTables values).foldl mergeEntries [] := by
  induction values using List.reverseRecOn with
  | nil => rfl
  | append_singleton values v ih =>
    have hbefore := ih fun w hw => h w (List.mem_append_left _ hw)
    have hv : v.TidyPart := h v (List.mem_append_right _ List.mem_cons_self)
    rw [List.foldl_append, List.foldl_cons, List.foldl_nil]
    cases hentries : v.entries? with
    | none =>
      rw [mergeNext_of_none hentries, trailingTables_concat_of_none hentries]
      cases v <;> first | rfl | cases hentries
    | some entries =>
      cases Value.entries?_eq_some hentries
      rw [mergeNext_dict hv, trailingTables_concat_dict, List.foldl_append, ← hbefore]
      rfl

/-- What a history comes to: its last value, unless that is a table; then the tables that it ends
with, merged. -/
theorem foldl_mergeNext (h : ∀ v ∈ values, v.TidyPart) :
    values.foldl mergeNext none =
      match values.getLast? with
      | some (.dict _) => some (.dict ((trailingTables values).foldl mergeEntries []))
      | last => last := by
  induction values using List.reverseRecOn with
  | nil => rfl
  | append_singleton values v =>
    have hbefore := tableIn_foldl_mergeNext fun w hw => h w (List.mem_append_left _ hw)
    have hv : v.TidyPart := h v (List.mem_append_right _ List.mem_cons_self)
    rw [List.foldl_append, List.foldl_cons, List.foldl_nil, List.getLast?_concat]
    cases hentries : v.entries? with
    | none =>
      rw [mergeNext_of_none hentries]
      cases v <;> first | rfl | cases hentries
    | some entries =>
      cases Value.entries?_eq_some hentries
      rw [mergeNext_dict hv, hbefore, trailingTables_concat_dict, List.foldl_append]
      rfl

end Fold

/-! ## Merging one after another is merging key by key -/

/-- A history is empty only for a key that no table has. -/
theorem history_ne_nil {k : Value} {tables : List (List (Value × Value))}
    (h : k ∈ tables.flatMap keys) : history k tables ≠ [] := by
  obtain ⟨t, ht, hk⟩ := List.mem_flatMap.1 h
  rw [Ne, history, List.filterMap_eq_nil_iff]
  intro hnone
  obtain ⟨e, he, rfl⟩ := List.mem_map.1 hk
  have := find?_eq_none_iff.1 (hnone t ht) e he
  rw [SameKey.refl] at this
  cases this

theorem tidy_of_mem_history {k v : Value} {tables : List (List (Value × Value))}
    (h : ∀ t ∈ tables, (Value.dict t).Tidy) (hv : v ∈ history k tables) : v.Tidy := by
  obtain ⟨t, ht, hfound⟩ := List.mem_filterMap.1 hv
  exact (h t ht).of_find? hfound

/-- **Tables merged one after another** are those merged key by key, with their order of keys at every
depth. -/
theorem foldl_mergeEntries_eq_keyByKey {tables : List (List (Value × Value))}
    (tidy : ∀ t ∈ tables, (Value.dict t).Tidy) : tables.foldl mergeEntries [] = keyByKey tables := by
  induction tables using keyByKey.induct with
  | case1 tables ih =>
    have distinct : ∀ t ∈ tables, Distinct t := fun t ht => (Value.tidy_dict.1 (tidy t ht)).1
    have hkeys : keys (tables.foldl mergeEntries []) = firstKeys (tables.flatMap keys) :=
      keys_foldl_mergeEntries List.Pairwise.nil tables
    have hdistinct : Distinct (tables.foldl mergeEntries []) :=
      Distinct.foldl_mergeEntries List.Pairwise.nil tables
    refine ext_find? hdistinct (hkeys.trans (keys_keyByKey tables).symm) fun k hk => ?_
    rw [hkeys] at hk
    have tidyHistory : ∀ v ∈ history k tables, v.Tidy := fun v => tidy_of_mem_history tidy
    have nonempty := history_ne_nil ((firstKeys_sublist _).mem hk)
    obtain ⟨v, hv⟩ : ∃ v, (history k tables).getLast? = some v :=
      ⟨_, List.getLast?_eq_some_getLast nonempty⟩
    rw [find?_foldl_mergeEntries k distinct, foldl_mergeNext fun v hv => (tidyHistory v hv).self,
      find?_keyByKey hk, standing, hv]
    cases hentries : v.entries? with
    | none => cases v <;> first | rfl | cases hentries
    | some entries =>
      cases Value.entries?_eq_some hentries
      -- the tables that the history ends with are nested less deeply
      have hmerged := ih k entries hv fun t ht => tidyHistory _ (dict_mem_of_mem_trailingTables ht)
      show some (Value.dict _) = some (Value.dict _)
      rw [hmerged]

/-! ## Language options -/

namespace LanguageOptions

theorem parserOptions_merge_eq {options : List LanguageOptions} (tidy : ∀ o ∈ options, o.Tidy) :
    (merge options).parserOptions = keyByKey (options.map parserOptions) := by
  rw [parserOptions_merge]
  refine foldl_mergeEntries_eq_keyByKey fun t ht => ?_
  obtain ⟨o, ho, rfl⟩ := List.mem_map.1 ht
  exact tidy o ho

/-- **Parser options are merged key by key.** In the merged options, the keys stand in the order of
their first occurrence; each has the last value that was given to it, and where that is a table, the
trailing run of tables in its history, merged by the same rule. The merged options pass their checks
where the options did. -/
theorem parserOptions_merge_keyByKey {options : List LanguageOptions}
    (tidy : ∀ o ∈ options, o.Tidy) :
    (merge options).parserOptions = keyByKey (options.map parserOptions) ∧
      ((∀ o ∈ options, o.Made) → make (merge options).parts = .ok (merge options)) := by
  refine ⟨parserOptions_merge_eq tidy, fun made => ?_⟩
  exact make_parts_with _ (made_iff.1 (made_merge made))

/-- A table that becomes a number, then a table again, and a null; an array that becomes a table; a
table that stays one, with an empty one in between. -/
def alternatingSample : List LanguageOptions :=
  [{ parserOptions :=
      [(.str "features", .dict [(.str "jsx", .bool true)]), (.str "libs", .list [.str "dom"]),
        (.str "paths", .dict [(.str "src", .int 1), (.str "out", .dict [(.str "dir", .null)])])] },
   { parserOptions := [(.str "range", .bool true), (.str "features", .int 1)] },
   { parserOptions :=
      [(.str "paths", .dict []), (.str "features", .dict [(.str "strict", .bool true)]),
        (.str "libs", .dict [(.str "dom", .bool false)])] },
   { parserOptions :=
      [(.str "features", .dict [(.str "return", .bool true), (.str "strict", .null)]),
        (.str "range", .null),
        (.str "paths", .dict [(.str "out", .dict [(.str "map", .int 2)]), (.str "src", .list [])])] }]

/-- What stood in the first table is forgotten, what stands in a trailing run of them is joined. -/
theorem parserOptions_merge_keyByKey_alternating :
    (∀ o ∈ alternatingSample, o.Tidy) ∧ (∀ o ∈ alternatingSample, o.Made) ∧
      make (merge alternatingSample).parts = .ok (merge alternatingSample) ∧
      keyByKey (alternatingSample.map parserOptions) =
        [(.str "features", .dict [(.str "strict", .null), (.str "return", .bool true)]),
          (.str "libs", .dict [(.str "dom", .bool false)]),
          (.str "paths", .dict [(.str "src", .list []),
            (.str "out", .dict [(.str "dir", .null), (.str "map", .int 2)])]),
          (.str "range", .null)] := by
  have tidy : ∀ o ∈ alternatingSample, o.Tidy := by decide
  have made : ∀ o ∈ alternatingSample, o.Made := by decide
  obtain ⟨hmerged, hmakes⟩ := parserOptions_merge_keyByKey tidy
  refine ⟨tidy, made, hmakes made, ?_⟩
  rw [← hmerged]
  decide

end LanguageOptions

end LayeredLint
