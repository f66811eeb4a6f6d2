import LayeredLint.Proofs.Composition.Commute
import LayeredLint.Proofs.Language.History

/-!
# A block of fragments twice in a row

When a block of fragments is included a second time, right after the first, it goes through its own
intermediate values again, on top of what it had come to. It comes to the same.

- `Table.layered_append_self`: tables laid over one another.
- `keyByKey_append_self`: **parser options merged key by key**, at any depth.
- `LanguageOptions.merge_append_self`: language options.
- `compose_repeated_block`: **a block of fragments twice in a row is the block once**.
-/

namespace LayeredLint

/-- The end of a list is the end of its last block, however often that comes. -/
theorem getLast?_append_self {α : Type} (before block : List α) :
    (before ++ block ++ block).getLast? = (before ++ block).getLast? := by
  rw [List.getLast?_append, List.getLast?_append]
  cases block.getLast? <;> rfl

/-! ## Tables -/

section Tables

variable {κ α : Type} [SameKey κ]

theorem firstKeys_append_self (before block : List κ) :
    firstKeys (before ++ block ++ block) = firstKeys (before ++ block) := by
  refine firstKeys_append_of_any fun k hk => ?_
  exact List.any_eq_true.2 ⟨k, List.mem_append_right before hk, SameKey.refl k⟩

/-- Tables are told by the order of their keys and by look-up. -/
theorem Table.ext_find? {t u : Table κ α} (hkeys : t.keys = u.keys)
    (hfind : ∀ k, t.find? k = u.find? k) : t = u :=
  Table.ext (Entries.ext_find? t.distinct hkeys fun k _ => hfind k)

theorem Table.layered_append_self (before block : List (Table κ α)) :
    layered (before ++ block ++ block) = layered (before ++ block) := by
  refine ext_find? ?_ fun k => ?_
  · rw [keys_layered, keys_layered, List.flatMap_append, List.flatMap_append,
      firstKeys_append_self]
  · rw [find?_layered_append, find?_layered_append]
    cases (layered block).find? k <;> rfl

end Tables

/-! ## Parser options -/

section ParserOptions

open Entries

variable {values later : List Value}

/-- Where all later values are tables, the run at the end goes on before them. -/
theorem trailingTables_append_of_tables (h : ∀ v ∈ later, v.entries?.isSome = true) :
    trailingTables (values ++ later) = trailingTables values ++ trailingTables later := by
  induction later using List.reverseRecOn with
  | nil => rw [List.append_nil]; exact (List.append_nil _).symm
  | append_singleton later v ih =>
    have hlater := ih fun w hw => h w (List.mem_append_left _ hw)
    obtain ⟨entries, hentries⟩ :=
      Option.isSome_iff_exists.1 (h v (List.mem_append_right _ List.mem_cons_self))
    cases Value.entries?_eq_some hentries
    rw [← List.append_assoc, trailingTables_concat_dict, trailingTables_concat_dict, hlater,
      List.append_assoc]

/-- A later value that is no table cuts the run off. -/
theorem trailingTables_append_of_cut (h : ∃ v ∈ later, v.entries? = none) :
    trailingTables (values ++ later) = trailingTables later := by
  induction later using List.reverseRecOn with
  | nil =>
    obtain ⟨v, hv, -⟩ := h
    cases hv
  | append_singleton later v ih =>
    rw [← List.append_assoc]
    cases hentries : v.entries? with
    | none =>
      rw [trailingTables_concat_of_none hentries, trailingTables_concat_of_none hentries]
    | some entries =>
      cases Value.entries?_eq_some hentries
      have hlater : ∃ v ∈ later, v.entries? = none := by
        obtain ⟨w, hw, hnone⟩ := h
        rcases List.mem_append.1 hw with hw | hw
        · exact ⟨w, hw, hnone⟩
        · cases List.mem_singleton.1 hw
          cases hnone
      rw [trailingTables_concat_dict, trailingTables_concat_dict, ih hlater]

theorem history_append (k : Value) (before block : List (List (Value × Value))) :
    history k (before ++ block) = history k before ++ history k block :=
  List.filterMap_append

/-- **Merging a block a second time** changes nothing, with the order of keys at every depth. -/
theorem keyByKey_append_self (before block : List (List (Value × Value))) :
    keyByKey (before ++ block ++ block) = keyByKey (before ++ block) := by
  -- induction on the depth: for a key whose last value is a table, the tables that its history ends
  -- with are again a block twice in a row, unless the block itself has cut the run off
  induction hdepth : Value.nestingItems ((before ++ block).map .dict) using Nat.strong_induction_on
    generalizing before block with
  | _ depth ih =>
    have hkeys : firstKeys ((before ++ block ++ block).flatMap keys) =
        firstKeys ((before ++ block).flatMap keys) := by
      rw [List.flatMap_append, List.flatMap_append, firstKeys_append_self]
    rw [keyByKey_eq, keyByKey_eq, hkeys]
    refine List.map_congr_left fun k _ => congrArg (Prod.mk k) ?_
    have hlast := getLast?_append_self (history k before) (history k block)
    rw [history_append, history_append, standing, standing, hlast]
    cases hv : (history k before ++ history k block).getLast? with
    | none => rfl
    | some v =>
      cases hentries : v.entries? with
      | none => cases v <;> first | rfl | cases hentries
      | some entries =>
        cases Value.entries?_eq_some hentries
        show Value.dict _ = Value.dict _
        refine congrArg Value.dict ?_
        by_cases htables : ∀ v ∈ history k block, v.entries?.isSome = true
        · have hless := nesting_trailingTables_lt (history_append k before block ▸ hv)
          rw [history_append, trailingTables_append_of_tables htables, hdepth] at hless
          rw [trailingTables_append_of_tables htables, trailingTables_append_of_tables htables]
          exact ih _ hless _ _ rfl
        · have hcut : ∃ v ∈ history k block, v.entries? = none := by
            simpa using htables
          rw [trailingTables_append_of_cut hcut, trailingTables_append_of_cut hcut]

end ParserOptions

/-! ## Language options -/

attribute [ext] LanguageOptions

namespace LanguageOptions

theorem lastSet_append_self (before block : List Value) :
    lastSet (before ++ block ++ block) = lastSet (before ++ block) := by
  rw [lastSet, lastSet, List.filter_append, List.filter_append, getLast?_append_self]

/-- **Options merged a second time**, right after the first, change nothing. -/
theorem merge_append_self {before block : List LanguageOptions}
    (tidy : ∀ o ∈ before ++ block, o.Tidy) :
    merge (before ++ block ++ block) = merge (before ++ block) := by
  have tidyTwice : ∀ o ∈ before ++ block ++ block, o.Tidy := by
    intro o ho
    rcases List.mem_append.1 ho with ho | ho
    · exact tidy o ho
    · exact tidy o (List.mem_append_right _ ho)
  refine LanguageOptions.ext ?globals ?ecmaVersion ?sourceType ?parser ?parserOptions
  case globals =>
    rw [globals_merge, globals_merge, List.map_append, List.map_append, Table.layered_append_self]
  case ecmaVersion =>
    rw [ecmaVersion_merge, ecmaVersion_merge, List.map_append, List.map_append,
      lastSet_append_self]
  case sourceType =>
    rw [sourceType_merge, sourceType_merge, List.filterMap_append, List.filterMap_append,
      getLast?_append_self]
  case parser =>
    rw [parser_merge, parser_merge, List.map_append, List.map_append, lastSet_append_self]
  case parserOptions =>
    rw [parserOptions_merge_eq tidyTwice, parserOptions_merge_eq tidy, List.map_append,
      List.map_append, keyByKey_append_self]

end LanguageOptions

/-! ## Fragments -/

theorem rules_flatten_append_self (before block : List Fragment) :
    (flatten (before ++ block ++ block)).rules = (flatten (before ++ block)).rules := by
  rw [rules_flatten, rules_flatten, List.map_append, List.map_append, Table.layered_append_self]

theorem plugins_flatten_append_self (before block : List Fragment) :
    (flatten (before ++ block ++ block)).plugins = (flatten (before ++ block)).plugins := by
  rw [plugins_flatten, plugins_flatten, List.map_append, List.map_append,
    Table.layered_append_self]

theorem languageOptions_flatten_append_self {before block : List Fragment}
    (tidy : ∀ f ∈ before ++ block, f.Tidy) :
    (flatten (before ++ block ++ block)).languageOptions =
      (flatten (before ++ block)).languageOptions := by
  show LanguageOptions.merge _ = LanguageOptions.merge _
  rw [List.filterMap_append, List.filterMap_append]
  refine LanguageOptions.merge_append_self fun o ho => ?_
  rw [← List.filterMap_append] at ho
  obtain ⟨f, hf, hfo⟩ := List.mem_filterMap.1 ho
  exact tidy f hf o hfo

/-- **A block of fragments twice in a row is the block once**: plugins, rules and language options
come out equal, with the order of their keys at every depth, and the language options pass their
checks where those of the fragments did. -/
theorem compose_repeated_block {before block : List Fragment} (nonempty : block ≠ [])
    (tidy : ∀ f ∈ before ++ block, f.Tidy) :
    ∃ c d, compose ((before ++ block ++ block).map .fragment) = .ok c ∧
      compose ((before ++ block).map .fragment) = .ok d ∧
      c.plugins = d.plugins ∧ c.rules = d.rules ∧ c.languageOptions = d.languageOptions ∧
      ((∀ f ∈ before ++ block, f.Made) →
        LanguageOptions.make c.languageOptions.parts = .ok c.languageOptions) := by
  have once : before ++ block ≠ [] := List.append_ne_nil_of_right_ne_nil before nonempty
  have twice : before ++ block ++ block ≠ [] := List.append_ne_nil_of_right_ne_nil _ nonempty
  have hlanguage := languageOptions_flatten_append_self tidy
  refine ⟨_, _, compose_map twice, compose_map once, plugins_flatten_append_self before block,
    rules_flatten_append_self before block, hlanguage, fun made => ?_⟩
  rw [hlanguage]
  exact make_parts_flatten made

/-- A fragment with a table of ranges, and a block that makes a number of it in two steps. -/
def rangesFragment : Fragment where
  name := .str "ranges"
  rules := .ofList [("a/z", .off), ("a/x", .off)]
  languageOptions := some
    { parserOptions := [(.str "range", .dict [(.str "to", .int 9)]), (.str "features", .null)] }

def replacingBlock : List Fragment :=
  [{ name := .str "tables"
     rules := .ofList [("a/x", .error), ("a/y", ⟨.warn, [.int 1]⟩)]
     languageOptions := some
      { sourceType := some .module
        parserOptions :=
          [(.str "features", .dict [(.str "jsx", .bool true), (.str "deep", .dict [])]),
            (.str "range", .dict [(.str "from", .int 0)])] } },
   { name := .str "numbers"
     rules := .ofList [("a/y", .off), ("a/z", .error)]
     languageOptions := some
      { parserOptions :=
          [(.str "range", .int 1),
            (.str "features", .dict [(.str "deep", .dict [(.str "on", .null)])])] } }]

/-- The second time, the table of the block meets the number in place of the table before it. -/
theorem compose_repeated_block_replacing :
    replacingBlock ≠ [] ∧ (∀ f ∈ [rangesFragment] ++ replacingBlock, f.Tidy) ∧
      (∀ f ∈ [rangesFragment] ++ replacingBlock, f.Made) ∧
      ∃ c d,
        compose (([rangesFragment] ++ replacingBlock ++ replacingBlock).map .fragment) = .ok c ∧
        compose (([rangesFragment] ++ replacingBlock).map .fragment) = .ok d ∧
        c.plugins = d.plugins ∧ c.rules = d.rules ∧ c.languageOptions = d.languageOptions ∧
        LanguageOptions.make c.languageOptions.parts = .ok c.languageOptions ∧
        d.rules.entries = [(.text "a/z", RuleSetting.error), (.text "a/x", RuleSetting.error),
          (.text "a/y", RuleSetting.off)] ∧
        d.languageOptions.parserOptions =
          [(.str "range", .int 1),
            (.str "features",
              .dict [(.str "jsx", .bool true), (.str "deep", .dict [(.str "on", .null)])])] := by
  have tidy : ∀ f ∈ [rangesFragment] ++ replacingBlock, f.Tidy := by decide
  have made : ∀ f ∈ [rangesFragment] ++ replacingBlock, f.Made := by decide
  obtain ⟨c, d, hc, hd, hplugins, hrules, hlanguage, hmakes⟩ :=
    compose_repeated_block (show replacingBlock ≠ [] by decide) tidy
  refine ⟨by decide, tidy, made, c, d, hc, hd, hplugins, hrules, hlanguage, hmakes made, ?_⟩
  rw [compose_map (by decide)] at hd
  cases hd
  decide

end LayeredLint
