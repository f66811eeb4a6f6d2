import LayeredLint.Composition
import LayeredLint.Proofs.Language.Merge

/-!
# What a list of fragments amounts to

Composing folds over the fragments. Its result is said here key by key and option by option, by the
last fragment that has a word in it.

- `rules_flatten`, `plugins_flatten`: rules and plugins are tables laid over one another.
- `LastGives`: what the last fragment that assigns a name gives it; `find?_rules_flatten_iff` and
  `find?_plugins_flatten_iff` say that this is what is found.
- `Composes`: a configuration is what a list of fragments amounts to.
- `compose_last_write_wins`: **composing fails for no fragments and for items that are none, and
  else gives the configuration that the fragments amount to**.
-/

namespace LayeredLint

/-! ## Rules and plugins -/

theorem rules_flatten (fragments : List Fragment) :
    (flatten fragments).rules = Table.layered (fragments.map Fragment.rules) := by
  rw [Table.layered, List.foldl_map]
  rfl

theorem plugins_flatten (fragments : List Fragment) :
    (flatten fragments).plugins = Table.layered (fragments.map Fragment.plugins) := by
  rw [Table.layered, List.foldl_map]
  rfl

/-! ### The last fragment that assigns a name -/

/-- Of the fragments that assign a name in their tables of one kind, the last one gives it the
value. -/
def LastGives {α : Type} (table : Fragment → Table Name α) (fragments : List Fragment) (n : Name)
    (v : α) : Prop :=
  ∃ before f after, fragments = before ++ f :: after ∧ (table f).find? n = some v ∧
    ∀ later ∈ after, (table later).find? n = none

theorem find?_layered_map_iff {α : Type} (table : Fragment → Table Name α)
    (fragments : List Fragment) (n : Name) (v : α) :
    (Table.layered (fragments.map table)).find? n = some v ↔ LastGives table fragments n v := by
  rw [(Table.layered_lastWrite (fragments.map table)).find? n v]
  constructor
  · rintro ⟨before, part, after, hsplit, hpart, hafter⟩
    obtain ⟨fs, rest, rfl, rfl, hrest⟩ := List.map_eq_append_iff.1 hsplit
    obtain ⟨f, gs, rfl, rfl, rfl⟩ := List.map_eq_cons_iff.1 hrest
    exact ⟨fs, f, gs, rfl, hpart, fun g hg => hafter _ (List.mem_map_of_mem hg)⟩
  · rintro ⟨before, f, after, rfl, hf, hafter⟩
    refine ⟨before.map table, table f, after.map table, ?_, hf, fun part hpart => ?_⟩
    · rw [List.map_append, List.map_cons]
    · obtain ⟨g, hg, rfl⟩ := List.mem_map.1 hpart
      exact hafter g hg

/-- Of the fragments that assign a name there is a last one. -/
theorem exists_lastGives {α : Type} (table : Fragment → Table Name α) {fragments : List Fragment}
    {f : Fragment} (hf : f ∈ fragments) {n : Name} {v : α} (hv : (table f).find? n = some v) :
    ∃ standing, LastGives table fragments n standing := by
  have hassigns : (table f).contains n = true := Option.isSome_iff_exists.2 ⟨v, hv⟩
  have hlayered : (Table.layered (fragments.map table)).contains n = true := by
    rw [(Table.layered_lastWrite (fragments.map table)).contains, List.any_map, List.any_eq_true]
    exact ⟨f, hf, hassigns⟩
  obtain ⟨standing, hstanding⟩ := Option.isSome_iff_exists.1 hlayered
  exact ⟨standing, (find?_layered_map_iff table fragments n standing).1 hstanding⟩

/-- What the last fragment gives, a fragment gives. -/
theorem LastGives.exists_mem {α : Type} {table : Fragment → Table Name α}
    {fragments : List Fragment} {n : Name} {v : α} (h : LastGives table fragments n v) :
    ∃ f ∈ fragments, (table f).find? n = some v := by
  obtain ⟨before, f, after, rfl, hf, -⟩ := h
  exact ⟨f, by simp, hf⟩

theorem find?_rules_flatten_iff {fragments : List Fragment} {rule : Name} {setting : RuleSetting} :
    (flatten fragments).rules.find? rule = some setting ↔
      LastGives Fragment.rules fragments rule setting := by
  rw [rules_flatten, find?_layered_map_iff]

theorem find?_plugins_flatten_iff {fragments : List Fragment} {plugin : Name}
    {handle : PluginHandle} :
    (flatten fragments).plugins.find? plugin = some handle ↔
      LastGives Fragment.plugins fragments plugin handle := by
  rw [plugins_flatten, find?_layered_map_iff]

/-! ## Items -/

theorem fragmentsOf_map (fragments : List Fragment) :
    fragmentsOf (fragments.map .fragment) = .ok fragments := by
  induction fragments with
  | nil => rfl
  | cons f rest ih =>
    rw [List.map_cons, fragmentsOf, ih]
    rfl

theorem uncheckedFragments_map (fragments : List Fragment) :
    uncheckedFragments (fragments.map .fragment) = .ok fragments := by
  induction fragments with
  | nil => rfl
  | cons f rest ih =>
    rw [List.map_cons, uncheckedFragments, ih]
    rfl

/-- Items are fragments throughout, or the first that is none is refused. -/
theorem fragmentsOf_cases (items : List Item) :
    (∃ fragments : List Fragment, items = fragments.map .fragment) ∨
      ∃ v, .other v ∈ items ∧ fragmentsOf items = invalid (.notFragment v) := by
  induction items with
  | nil => exact .inl ⟨[], rfl⟩
  | cons item rest ih =>
    cases item with
    | other v => exact .inr ⟨v, List.mem_cons_self, rfl⟩
    | fragment f =>
      rcases ih with ⟨fragments, rfl⟩ | ⟨v, hv, hrest⟩
      · exact .inl ⟨f :: fragments, rfl⟩
      · refine .inr ⟨v, List.mem_cons_of_mem _ hv, ?_⟩
        rw [fragmentsOf, hrest]
        rfl

theorem composeLogged_map {fragments : List Fragment} (h : fragments ≠ []) :
    composeLogged (fragments.map .fragment) =
      .ok (flatten fragments, compositionLog fragments) := by
  have hitems : (fragments.map Item.fragment).isEmpty = false := by simpa using h
  rw [composeLogged, validated, hitems, if_neg (by simp), fragmentsOf_map]
  rfl

theorem compose_map {fragments : List Fragment} (h : fragments ≠ []) :
    compose (fragments.map .fragment) = .ok (flatten fragments) := by
  rw [compose, composeLogged_map h]
  rfl

/-- A sequence that cannot be composed is refused as a configuration. -/
theorem compose_eq_error_iff (items : List Item) :
    (∃ cause, compose items = .error (.configuration cause)) ↔
      items = [] ∨ ∃ v, .other v ∈ items := by
  constructor
  · rintro ⟨cause, hcause⟩
    by_cases hnil : items = []
    · exact .inl hnil
    · rcases fragmentsOf_cases items with ⟨fragments, rfl⟩ | ⟨v, hv, -⟩
      · rw [compose_map (by simpa using hnil)] at hcause
        cases hcause
      · exact .inr ⟨v, hv⟩
  · rintro (rfl | ⟨v, hv⟩)
    · exact ⟨.noFragments, rfl⟩
    · rcases fragmentsOf_cases items with ⟨fragments, rfl⟩ | ⟨w, -, hw⟩
      · simp at hv
      · have hitems : items.isEmpty = false := by
          cases items with
          | nil => cases hv
          | cons => rfl
        refine ⟨.notFragment w, ?_⟩
        rw [compose, composeLogged, validated, hitems, if_neg (by simp), hw]
        rfl

/-! ## The configuration of a list of fragments -/

/-- A configuration is what a list of fragments amounts to. Of rules, plugins and globals, the last
fragment that assigns a key decides; of the other options the last one set stands; the fragments
stay as they are, with their ignores. -/
structure Composes (fs : List Fragment) (c : EffectiveConfiguration) : Prop where
  rules : LastWrite (fs.map Fragment.rules) c.rules
  plugins : LastWrite (fs.map Fragment.plugins) c.plugins
  globals : LastWrite ((fs.filterMap Fragment.languageOptions).map LanguageOptions.globals)
    c.languageOptions.globals
  ecmaVersion : c.languageOptions.ecmaVersion =
    lastSet ((fs.filterMap Fragment.languageOptions).map LanguageOptions.ecmaVersion)
  sourceType : c.languageOptions.sourceType =
    ((fs.filterMap Fragment.languageOptions).filterMap LanguageOptions.sourceType).getLast?
  parser : c.languageOptions.parser =
    lastSet ((fs.filterMap Fragment.languageOptions).map LanguageOptions.parser)
  fragments : c.fragments = fs
  ignores : List.Forall₂ (fun (f : Fragment) e => e.1 = f.name ∧ f.ignores = some e.2)
    (fs.filter fun f => f.ignores.isSome) c.ignores

theorem ignores_forall₂ (fragments : List Fragment) :
    List.Forall₂ (fun (f : Fragment) e => e.1 = f.name ∧ f.ignores = some e.2)
      (fragments.filter fun f => f.ignores.isSome)
      (fragments.filterMap fun f => f.ignores.map (f.name, ·)) := by
  induction fragments with
  | nil => exact .nil
  | cons f rest ih =>
    cases hf : f.ignores with
    | none => simpa [hf] using ih
    | some patterns => simpa [hf] using ih

theorem flatten_composes (fragments : List Fragment) :
    Composes fragments (flatten fragments) where
  rules := rules_flatten fragments ▸ Table.layered_lastWrite _
  plugins := plugins_flatten fragments ▸ Table.layered_lastWrite _
  globals := LanguageOptions.globals_merge _ ▸ Table.layered_lastWrite _
  ecmaVersion := LanguageOptions.ecmaVersion_merge _
  sourceType := LanguageOptions.sourceType_merge _
  parser := LanguageOptions.parser_merge _
  fragments := rfl
  ignores := ignores_forall₂ fragments

/-- The language options of composed fragments pass the checks of language options, unchanged. -/
theorem make_parts_flatten {fragments : List Fragment} (made : ∀ f ∈ fragments, f.Made) :
    LanguageOptions.make (flatten fragments).languageOptions.parts =
      .ok (flatten fragments).languageOptions := by
  refine LanguageOptions.make_parts_with _ (LanguageOptions.made_iff.1 ?_)
  refine LanguageOptions.made_merge fun o ho => ?_
  obtain ⟨f, hf, hfo⟩ := List.mem_filterMap.1 ho
  exact (made f hf).2 o hfo

/-- **The last write wins and nothing is lost.** A sequence is refused exactly when it is empty or
holds an item that is no fragment; every other one is composed, into what its fragments amount to.
No check of the merged language options stands in the way. -/
theorem compose_last_write_wins :
    (∀ items : List Item, (∃ cause, compose items = .error (.configuration cause)) ↔
      items = [] ∨ ∃ v, .other v ∈ items) ∧
    ∀ fragments : List Fragment, fragments ≠ [] →
      ∃ c, compose (fragments.map .fragment) = .ok c ∧ Composes fragments c ∧
        ((∀ f ∈ fragments, f.Made) →
          LanguageOptions.make c.languageOptions.parts = .ok c.languageOptions) :=
  ⟨compose_eq_error_iff, fun fragments h =>
    ⟨_, compose_map h, flatten_composes fragments, make_parts_flatten⟩⟩

/-- The second fragment assigns rules of the first one again, in another order, and a new one. -/
def overwritingSample : List Fragment :=
  [{ name := .str "first", rules := .ofList [("a/x", .error), ("a/y", ⟨.warn, [.int 1]⟩)] },
   { name := .str "second", rules := .ofList [("a/y", .error), ("a/z", .off), ("a/x", .off)] }]

theorem compose_last_write_wins_overwriting :
    overwritingSample ≠ [] ∧ (∀ f ∈ overwritingSample, f.Made) ∧
      ∃ c, compose (overwritingSample.map .fragment) = .ok c ∧ Composes overwritingSample c ∧
        LanguageOptions.make c.languageOptions.parts = .ok c.languageOptions ∧
        c.rules.entries = [(.text "a/x", RuleSetting.off), (.text "a/y", RuleSetting.error),
          (.text "a/z", RuleSetting.off)] := by
  have made : ∀ f ∈ overwritingSample, f.Made := by decide
  obtain ⟨c, hc, composes, makes⟩ := compose_last_write_wins.2 overwritingSample (by decide)
  refine ⟨by decide, made, c, hc, composes, makes made, ?_⟩
  rw [compose_map (by decide)] at hc
  cases hc
  decide

end LayeredLint
