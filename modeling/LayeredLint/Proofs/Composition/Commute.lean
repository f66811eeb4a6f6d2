import LayeredLint.Proofs.Composition.Flatten
import LayeredLint.Proofs.Language.Reordered

/-!
# Fragments that may change places

Two neighbours in a list of fragments may change places when they do not contradict each other, in
whatever context: what they amount to then differs in the order of keys at most.

- `Fragment.Compatible`: fragments that do not contradict each other.
- `SameMappings`: configurations that hold the same, the order of keys aside.
- `LanguageOptions.SameMappings.mergeOne`, `mergeOne_swap`: what options merged later make of such
  differences, and the exchange itself.
- `compose_swap_compatible`: **compatible neighbours may change places**.
-/

namespace LayeredLint

/-! ## Tables -/

namespace Table

variable {κ α : Type} [SameKey κ]

/-- Two tables have the same value for every key that both assign. -/
def Agrees (t u : Table κ α) : Prop :=
  ∀ k v w, t.find? k = some v → u.find? k = some w → v = w

/-- Two tables assign the same keys, with the same values. -/
def SameMapping (t u : Table κ α) : Prop :=
  ∀ k, t.find? k = u.find? k

theorem agrees_iff {t u : Table κ α} :
    t.Agrees u ↔ ∀ e ∈ t.entries, ∀ w ∈ u.find? e.1, e.2 = w := by
  constructor
  · exact fun h e he w hw => h e.1 e.2 w (t.find?_of_mem he (SameKey.refl e.1)) hw
  · intro h k v w hv hw
    obtain ⟨e, he, hk, rfl⟩ := Entries.mem_of_find? hv
    exact h e he w ((u.find?_congr hk).symm.trans hw)

instance [DecidableEq α] (t u : Table κ α) : Decidable (t.Agrees u) :=
  decidable_of_iff _ agrees_iff.symm

theorem Agrees.or_comm {t u : Table κ α} (h : t.Agrees u) (k : κ) :
    (u.find? k).or (t.find? k) = (t.find? k).or (u.find? k) := by
  cases ht : t.find? k with
  | none => simp
  | some v =>
    cases hu : u.find? k with
    | none => rfl
    | some w => rw [h k v w ht hu]

/-- Tables that agree may be laid over one another in either order. -/
theorem Agrees.union_swap {t u : Table κ α} (h : t.Agrees u) (bottom : Table κ α) :
    ((bottom.union t).union u).SameMapping ((bottom.union u).union t) := by
  intro k
  rw [find?_union, find?_union, find?_union, find?_union, ← Option.or_assoc, h.or_comm,
    Option.or_assoc]

theorem SameMapping.union {t u : Table κ α} (h : t.SameMapping u) (upper : Table κ α) :
    (t.union upper).SameMapping (u.union upper) := by
  intro k
  rw [find?_union, find?_union, h k]

/-- What is laid over both of them does not tell two tables apart that hold the same. -/
theorem SameMapping.foldl_union {t u : Table κ α} (h : t.SameMapping u)
    (parts : List (Table κ α)) :
    (parts.foldl Table.union t).SameMapping (parts.foldl Table.union u) := by
  induction parts generalizing t u with
  | nil => exact h
  | cons upper rest ih => exact ih (h.union upper)

theorem Agrees.layered_swap {t u : Table κ α} (h : t.Agrees u) (lower upper : List (Table κ α)) :
    (layered (lower ++ [t, u] ++ upper)).SameMapping (layered (lower ++ [u, t] ++ upper)) := by
  rw [layered, layered, List.foldl_append, List.foldl_append, List.foldl_append, List.foldl_append]
  exact (h.union_swap _).foldl_union upper

end Table

/-! ## Language options -/

namespace LanguageOptions

/-- Options do not contradict each other: what both of them set is the same. -/
structure Compatible (o p : LanguageOptions) : Prop where
  globals : o.globals.Agrees p.globals
  ecmaVersion : o.ecmaVersion ≠ .null → p.ecmaVersion ≠ .null → o.ecmaVersion = p.ecmaVersion
  sourceType : ∀ t u, o.sourceType = some t → p.sourceType = some u → t = u
  parser : o.parser ≠ .null → p.parser ≠ .null → o.parser = p.parser
  parserOptions : Value.Agree (.dict o.parserOptions) (.dict p.parserOptions)

/-- Options hold the same, the order of keys aside. -/
structure SameMappings (o p : LanguageOptions) : Prop where
  globals : o.globals.SameMapping p.globals
  ecmaVersion : o.ecmaVersion = p.ecmaVersion
  sourceType : o.sourceType = p.sourceType
  parser : o.parser = p.parser
  parserOptions : Value.Alike (.dict o.parserOptions) (.dict p.parserOptions)

theorem SameMappings.refl (o : LanguageOptions) : o.SameMappings o where
  globals _ := rfl
  ecmaVersion := rfl
  sourceType := rfl
  parser := rfl
  parserOptions := .refl _

/-- **What is merged later** does not tell options apart that hold the same. -/
theorem SameMappings.mergeOne {o p : LanguageOptions} (h : o.SameMappings p)
    (later : LanguageOptions) : (o.mergeOne later).SameMappings (p.mergeOne later) where
  globals := h.globals.union later.globals
  ecmaVersion := congrArg (orElse · later.ecmaVersion) h.ecmaVersion
  sourceType := congrArg (later.sourceType <|> ·) h.sourceType
  parser := congrArg (orElse · later.parser) h.parser
  parserOptions := Value.Alike.mergeEntries later.parserOptions h.parserOptions

theorem SameMappings.foldl_mergeOne {o p : LanguageOptions} (h : o.SameMappings p)
    (later : List LanguageOptions) :
    (later.foldl LanguageOptions.mergeOne o).SameMappings
      (later.foldl LanguageOptions.mergeOne p) := by
  induction later generalizing o p with
  | nil => exact h
  | cons next rest ih => exact ih (h.mergeOne next)

theorem orElse_swap {a b : Value} (h : a ≠ .null → b ≠ .null → a = b) (earlier : Value) :
    orElse (orElse earlier a) b = orElse (orElse earlier b) a := by
  by_cases ha : a = .null
  · simp [orElse, ha]
  · by_cases hb : b = .null
    · simp [orElse, hb]
    · rw [h ha hb]

/-- **Compatible options** may be set in either order. -/
theorem Compatible.mergeOne_swap {o p : LanguageOptions} (h : o.Compatible p) (ho : o.Tidy)
    (hp : p.Tidy) {m : LanguageOptions} (hm : m.Tidy) :
    ((m.mergeOne o).mergeOne p).SameMappings ((m.mergeOne p).mergeOne o) where
  globals := h.globals.union_swap m.globals
  ecmaVersion := orElse_swap h.ecmaVersion m.ecmaVersion
  sourceType := by
    show (p.sourceType <|> (o.sourceType <|> m.sourceType)) =
      (o.sourceType <|> (p.sourceType <|> m.sourceType))
    cases ht : o.sourceType with
    | none => cases p.sourceType <;> rfl
    | some t =>
      cases hu : p.sourceType with
      | none => rfl
      | some u => rw [h.sourceType t u ht hu]
  parser := orElse_swap h.parser m.parser
  parserOptions := h.parserOptions.mergeEntries_swap hm ho hp

theorem Compatible.merge_swap {o p : LanguageOptions} (h : o.Compatible p) (ho : o.Tidy)
    (hp : p.Tidy) {before : List LanguageOptions} (hbefore : ∀ m ∈ before, m.Tidy)
    (after : List LanguageOptions) :
    (merge (before ++ [o, p] ++ after)).SameMappings (merge (before ++ [p, o] ++ after)) := by
  rw [merge, merge, List.foldl_append, List.foldl_append, List.foldl_append, List.foldl_append]
  exact (h.mergeOne_swap ho hp (tidy_merge hbefore)).foldl_mergeOne after

end LanguageOptions

/-! ## Fragments -/

namespace Fragment

/-- Fragments do not contradict each other: what both of them set is the same. -/
structure Compatible (f g : Fragment) : Prop where
  plugins : f.plugins.Agrees g.plugins
  rules : f.rules.Agrees g.rules
  language : ∀ o p, f.languageOptions = some o → g.languageOptions = some p → o.Compatible p

/-- Tables in the parser options of a fragment have one entry for each key. -/
def Tidy (f : Fragment) : Prop :=
  ∀ o ∈ f.languageOptions, o.Tidy

instance (f : Fragment) : Decidable f.Tidy :=
  inferInstanceAs (Decidable (∀ o ∈ f.languageOptions, _))

end Fragment

/-- Configurations hold the same plugins, rules and language options, the order of keys aside. -/
structure EffectiveConfiguration.SameMappings (c d : EffectiveConfiguration) : Prop where
  plugins : c.plugins.SameMapping d.plugins
  rules : c.rules.SameMapping d.rules
  language : c.languageOptions.SameMappings d.languageOptions

theorem rules_flatten_swap {f g : Fragment} (h : f.rules.Agrees g.rules)
    (before after : List Fragment) :
    (flatten (before ++ [f, g] ++ after)).rules.SameMapping
      (flatten (before ++ [g, f] ++ after)).rules := by
  rw [rules_flatten, rules_flatten, List.map_append, List.map_append, List.map_append,
    List.map_append]
  exact h.layered_swap _ _

theorem plugins_flatten_swap {f g : Fragment} (h : f.plugins.Agrees g.plugins)
    (before after : List Fragment) :
    (flatten (before ++ [f, g] ++ after)).plugins.SameMapping
      (flatten (before ++ [g, f] ++ after)).plugins := by
  rw [plugins_flatten, plugins_flatten, List.map_append, List.map_append, List.map_append,
    List.map_append]
  exact h.layered_swap _ _

theorem filterMap_pair (f g : Fragment) : [f, g].filterMap Fragment.languageOptions =
    f.languageOptions.toList ++ g.languageOptions.toList := by
  cases hf : f.languageOptions <;> cases hg : g.languageOptions <;> simp [hf, hg]

theorem languageOptions_flatten_swap {f g : Fragment} (h : f.Compatible g) (hf : f.Tidy)
    (hg : g.Tidy) {before : List Fragment} (hbefore : ∀ x ∈ before, x.Tidy)
    (after : List Fragment) :
    (flatten (before ++ [f, g] ++ after)).languageOptions.SameMappings
      (flatten (before ++ [g, f] ++ after)).languageOptions := by
  show (LanguageOptions.merge (List.filterMap _ _)).SameMappings
    (LanguageOptions.merge (List.filterMap _ _))
  rw [List.filterMap_append, List.filterMap_append, List.filterMap_append, List.filterMap_append]
  have tidy : ∀ m ∈ before.filterMap Fragment.languageOptions, m.Tidy := by
    intro m hm
    obtain ⟨x, hx, hxm⟩ := List.mem_filterMap.1 hm
    exact hbefore x hx m hxm
  rw [filterMap_pair, filterMap_pair]
  -- Where one of the fragments has no language options, both lists of options are the same.
  cases hof : f.languageOptions with
  | none =>
    rw [Option.toList_none, List.nil_append, List.append_nil]
    exact .refl _
  | some o =>
    cases hog : g.languageOptions with
    | none =>
      rw [Option.toList_none, List.nil_append, List.append_nil]
      exact .refl _
    | some p => exact (h.language o p hof hog).merge_swap (hf o hof) (hg p hog) tidy _

/-- **Compatible neighbours may change places**, whatever stands before and after them: what the
fragments amount to then differs in the order of keys at most, at any depth. -/
theorem compose_swap_compatible {before after : List Fragment} {f g : Fragment}
    (tidy : ∀ x ∈ before ++ [f, g] ++ after, x.Tidy) (compatible : f.Compatible g) :
    ∃ c d, compose ((before ++ [f, g] ++ after).map .fragment) = .ok c ∧
      compose ((before ++ [g, f] ++ after).map .fragment) = .ok d ∧ c.SameMappings d := by
  have hbefore : ∀ x ∈ before, x.Tidy := fun x hx => tidy x (by simp [hx])
  have hf : f.Tidy := tidy f (by simp)
  have hg : g.Tidy := tidy g (by simp)
  refine ⟨_, _, compose_map (by simp), compose_map (by simp), ?_⟩
  exact
    { plugins := plugins_flatten_swap compatible.plugins before after
      rules := rules_flatten_swap compatible.rules before after
      language := languageOptions_flatten_swap compatible hf hg hbefore after }

/-! ### Two fragments with a table of parser options in common -/

/-- A number stands where both fragments want a table. -/
def numberSample : Fragment where
  name := .str "number"
  languageOptions := some { parserOptions := [(.str "features", .int 1)] }

def jsxSample : Fragment where
  name := .str "jsx"
  rules := .ofList [("a/x", .error), ("a/y", .off)]
  languageOptions := some
    { sourceType := some .module
      parserOptions := [(.str "features", .dict [(.str "jsx", .bool true)]), (.str "range", .int 1)] }

def returnSample : Fragment where
  name := .str "return"
  rules := .ofList [("a/z", .error), ("a/y", .off)]
  languageOptions := some
    { parserOptions :=
        [(.str "range", .int 1), (.str "features", .dict [(.str "globalReturn", .bool true)])] }

/-- A later fragment goes on with the table. -/
def strictSample : Fragment where
  name := .str "strict"
  languageOptions := some
    { parserOptions := [(.str "features", .dict [(.str "impliedStrict", .bool true)])] }

/-- Both tables are there, and no key of one is in the other. -/
theorem agree_samples :
    Value.Agree (.dict [(.str "features", .dict [(.str "jsx", .bool true)]), (.str "range", .int 1)])
      (.dict [(.str "range", .int 1), (.str "features", .dict [(.str "globalReturn", .bool true)])]) := by
  refine .of_entries fun e he w hw => ?_
  rcases List.mem_cons.1 he with rfl | he
  · cases hw
    refine .of_entries fun e he w hw => ?_
    cases List.mem_singleton.1 he
    cases hw
  · cases List.mem_singleton.1 he
    cases hw
    exact .same fun _ h => by cases h

theorem compatible_samples : jsxSample.Compatible returnSample where
  plugins := by decide
  rules := by decide
  language o p ho hp := by
    cases ho
    cases hp
    exact
      { globals := by decide
        ecmaVersion := by decide
        sourceType := fun _ _ _ h => by cases h
        parser := by decide
        parserOptions := agree_samples }

/-- The order of the two shows in the order of keys, also inside the table, and in nothing else. -/
theorem compose_swap_compatible_samples :
    (∀ x ∈ [numberSample] ++ [jsxSample, returnSample] ++ [strictSample], x.Tidy) ∧
      jsxSample.Compatible returnSample ∧
      ∃ c d,
        compose (([numberSample] ++ [jsxSample, returnSample] ++ [strictSample]).map .fragment) =
          .ok c ∧
        compose (([numberSample] ++ [returnSample, jsxSample] ++ [strictSample]).map .fragment) =
          .ok d ∧
        c.SameMappings d ∧
        c.rules.keys = ["a/x", "a/y", "a/z"] ∧ d.rules.keys = ["a/z", "a/y", "a/x"] ∧
        c.languageOptions.parserOptions =
          [(.str "features", .dict [(.str "jsx", .bool true), (.str "globalReturn", .bool true),
            (.str "impliedStrict", .bool true)]), (.str "range", .int 1)] ∧
        d.languageOptions.parserOptions =
          [(.str "features", .dict [(.str "globalReturn", .bool true), (.str "jsx", .bool true),
            (.str "impliedStrict", .bool true)]), (.str "range", .int 1)] := by
  have tidy : ∀ x ∈ [numberSample] ++ [jsxSample, returnSample] ++ [strictSample], x.Tidy := by
    decide
  obtain ⟨c, d, hc, hd, same⟩ := compose_swap_compatible tidy compatible_samples
  refine ⟨tidy, compatible_samples, c, d, hc, hd, same, ?_⟩
  rw [compose_map (by decide)] at hc hd
  cases hc
  cases hd
  decide

end LayeredLint
