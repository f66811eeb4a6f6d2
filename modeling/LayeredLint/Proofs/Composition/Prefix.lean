import LayeredLint.Proofs.Composition.Flatten

/-!
# Composed prefixes

Who extends a composed configuration goes on from one fragment that holds what it amounts to.

- `EffectiveConfiguration.single`: the parts of that fragment.
- `make_single`: it passes the checks, and it holds the configuration unchanged.
- `rules_flatten_fragment_cons` and the two lemmas after it: composition goes on from it, table by
  table.
- `compose_from_prefix`: **a composed prefix stands for the fragments it came from**.
-/

namespace LayeredLint

/-- The parts of one fragment with the plugins, rules and language options of a configuration. -/
def EffectiveConfiguration.single (c : EffectiveConfiguration) (name : Value) : RawFragment where
  name := name
  plugins := .dict (c.plugins.entries.map fun e => (e.1.toValue, .handle e.2))
  rules := .dict (c.rules.entries.map fun e => (e.1.toValue, e.2.toValue))
  languageOptions := c.languageOptions.toValue

/-- The fragment that holds a configuration. -/
def EffectiveConfiguration.fragment (c : EffectiveConfiguration) (name : Value) : Fragment where
  name := name
  plugins := c.plugins
  rules := c.rules
  languageOptions := some c.languageOptions

/-! ## The fragment is accepted -/

/-- Names that the checks accept in each table are accepted where the tables lie over one another. -/
theorem goodNames_layered {α : Type} {parts : List (Table Name α)}
    (h : ∀ t ∈ parts, Fragment.GoodNames t) : Fragment.GoodNames (Table.layered parts) := by
  intro n hn
  rw [Table.keys_layered] at hn
  obtain ⟨t, ht, hnt⟩ := List.mem_flatMap.1 ((firstKeys_sublist _).mem hn)
  exact h t ht n hnt

theorem good_fragment_flatten {fragments : List Fragment} (made : ∀ f ∈ fragments, f.Made)
    {name : Value} (named : name.truthy = true) : ((flatten fragments).fragment name).Good where
  name := named
  ignores := fun _ h => nomatch h
  files := fun _ h => nomatch h
  plugins := by
    show Fragment.GoodNames (flatten fragments).plugins
    rw [plugins_flatten]
    refine goodNames_layered fun t ht => ?_
    obtain ⟨f, hf, rfl⟩ := List.mem_map.1 ht
    exact (Fragment.made_iff.1 (made f hf)).1.plugins
  rules := by
    show Fragment.GoodNames (flatten fragments).rules
    rw [rules_flatten]
    refine goodNames_layered fun t ht => ?_
    obtain ⟨f, hf, rfl⟩ := List.mem_map.1 ht
    exact (Fragment.made_iff.1 (made f hf)).1.rules

/-- The checks accept the fragment and leave the configuration as it is. -/
theorem make_single {fragments : List Fragment} (made : ∀ f ∈ fragments, f.Made) {name : Value}
    (named : name.truthy = true) :
    Fragment.make ((flatten fragments).single name) = .ok ((flatten fragments).fragment name) :=
  Fragment.make_parts (good_fragment_flatten made named)

theorem made_fragment_flatten {fragments : List Fragment} (made : ∀ f ∈ fragments, f.Made)
    {name : Value} (named : name.truthy = true) : ((flatten fragments).fragment name).Made := by
  refine ⟨⟨_, make_single made named⟩, fun o ho => ?_⟩
  cases ho
  exact ⟨_, make_parts_flatten made⟩

/-! ## Going on from it -/

/-- A table of the first parts stands for them at the bottom of the others. -/
theorem Table.layered_layered_cons {κ α : Type} [SameKey κ] (parts later : List (Table κ α)) :
    layered (layered parts :: later) = layered (parts ++ later) := by
  show later.foldl union (empty.union (layered parts)) = _
  have hbottom : empty.union (layered parts) = layered parts := ofList_entries _
  rw [hbottom, layered, layered, List.foldl_append]

theorem rules_flatten_fragment_cons (fragments later : List Fragment) (name : Value) :
    (flatten ((flatten fragments).fragment name :: later)).rules =
      (flatten (fragments ++ later)).rules := by
  rw [rules_flatten, rules_flatten, List.map_cons, List.map_append]
  show Table.layered ((flatten fragments).rules :: _) = _
  rw [rules_flatten, Table.layered_layered_cons]

theorem plugins_flatten_fragment_cons (fragments later : List Fragment) (name : Value) :
    (flatten ((flatten fragments).fragment name :: later)).plugins =
      (flatten (fragments ++ later)).plugins := by
  rw [plugins_flatten, plugins_flatten, List.map_cons, List.map_append]
  show Table.layered ((flatten fragments).plugins :: _) = _
  rw [plugins_flatten, Table.layered_layered_cons]

theorem languageOptions_flatten_fragment_cons (fragments later : List Fragment) (name : Value) :
    (flatten ((flatten fragments).fragment name :: later)).languageOptions =
      (flatten (fragments ++ later)).languageOptions := by
  show LanguageOptions.merge ((flatten fragments).languageOptions ::
    later.filterMap Fragment.languageOptions) = LanguageOptions.merge _
  rw [List.filterMap_append]
  exact LanguageOptions.merge_merge_cons _ _

/-- **A composed prefix stands for the fragments it came from.** What fragments amount to is accepted
as one fragment, and composition goes on from it as from the fragments themselves: plugins, rules
and language options come out equal, with their order at every level, and the merged language
options pass their checks. -/
theorem compose_from_prefix {fragments later : List Fragment} (nonempty : fragments ≠ [])
    (made : ∀ f ∈ fragments ++ later, f.Made) {name : Value} (named : name.truthy = true) :
    ∃ c f, compose (fragments.map .fragment) = .ok c ∧ Fragment.make (c.single name) = .ok f ∧
      f.Made ∧
      ∃ d e, compose ((f :: later).map .fragment) = .ok d ∧
        compose ((fragments ++ later).map .fragment) = .ok e ∧
        d.plugins = e.plugins ∧ d.rules = e.rules ∧ d.languageOptions = e.languageOptions ∧
        LanguageOptions.make d.languageOptions.parts = .ok d.languageOptions := by
  have madeFirst : ∀ f ∈ fragments, f.Made := fun f hf => made f (List.mem_append_left _ hf)
  have madeSingle : ((flatten fragments).fragment name).Made := made_fragment_flatten madeFirst named
  have madeAll : ∀ f ∈ (flatten fragments).fragment name :: later, f.Made :=
    List.forall_mem_cons.2 ⟨madeSingle, fun f hf => made f (List.mem_append_right _ hf)⟩
  have nonempty' : fragments ++ later ≠ [] := List.append_ne_nil_of_left_ne_nil nonempty later
  exact ⟨_, _, compose_map nonempty, make_single madeFirst named, madeSingle, _, _,
    compose_map (List.cons_ne_nil _ _), compose_map nonempty',
    plugins_flatten_fragment_cons fragments later name,
    rules_flatten_fragment_cons fragments later name,
    languageOptions_flatten_fragment_cons fragments later name, make_parts_flatten madeAll⟩

/-- Two fragments and one more: parser options inside a table, a number in place of that table, and
a table in place of the number; the rules change places with their settings. -/
def resettingSample : List Fragment :=
  [{ name := .str "first"
     rules := .ofList [("a/x", .error), ("a/y", ⟨.warn, [.int 1]⟩)]
     languageOptions := some
      { parserOptions := [(.str "features", .dict [(.str "jsx", .bool true)]), (.str "range", .null)] } },
   { name := .str "second"
     plugins := .ofList [("a", .of { module := "eslint-plugin-a" })]
     languageOptions := some { parserOptions := [(.str "features", .int 1)] } }]

def extendingSample : List Fragment :=
  [{ name := .str "third"
     rules := .ofList [("a/y", .off), ("a/z", .error), ("a/x", .off)]
     languageOptions := some
      { sourceType := some .module
        parserOptions := [(.str "features", .dict [(.str "globalReturn", .bool true)])] } }]

/-- What stood in the first table does not come back, from the fragments or from their prefix. -/
theorem compose_from_prefix_resetting :
    resettingSample ≠ [] ∧ (∀ f ∈ resettingSample ++ extendingSample, f.Made) ∧
      (Value.str "flat").truthy = true ∧
      ∃ c f d e, compose (resettingSample.map .fragment) = .ok c ∧
        Fragment.make (c.single (.str "flat")) = .ok f ∧
        compose ((f :: extendingSample).map .fragment) = .ok d ∧
        compose ((resettingSample ++ extendingSample).map .fragment) = .ok e ∧
        d.rules = e.rules ∧ d.languageOptions = e.languageOptions ∧
        e.languageOptions.parserOptions =
          [(.str "features", .dict [(.str "globalReturn", .bool true)]), (.str "range", .null)] ∧
        d.rules.keys = ["a/x", "a/y", "a/z"] := by
  have made : ∀ f ∈ resettingSample ++ extendingSample, f.Made := by decide
  obtain ⟨c, f, hc, hf, -, d, e, hd, he, -, hrules, hlanguage, -⟩ :=
    compose_from_prefix (show resettingSample ≠ [] by decide) made
      (show (Value.str "flat").truthy = true by decide)
  refine ⟨by decide, made, by decide, c, f, d, e, hc, hf, hd, he, hrules, hlanguage, ?_, ?_⟩
  · rw [compose_map (by decide)] at he
    cases he
    decide
  · rw [hrules]
    rw [compose_map (by decide)] at he
    cases he
    decide

end LayeredLint
