import LayeredLint.Proofs.Sanitizer.Effect

/-!
# Ignores of a sanitized fragment

The ignores of a fragment count for that fragment alone, unless the fragment declares nothing else:
then they are global. Stripping takes parser options away, so it can leave a fragment with its
ignores only.

- `LanguageOptions.onlyTypes`: nothing is set but parser options that ask for type information.
- `Fragment.scopedByTypes`: such options are all that keeps the ignores of a fragment to itself.
- `ignoresOnly_withoutTypes`: **the ignores of a stripped fragment are global if they were global
  before, or if such options are stripped**.
- `sanitize_keeps_scope_iff`: **the same for the fragments of a sanitized configuration**.
- `sanitize_widens_scope`: one whose ignores become global.
-/

namespace LayeredLint

/-! ## Stripped language options -/

namespace LanguageOptions

/-- No option is set, the parser options left aside. -/
def bare (o : LanguageOptions) : Bool :=
  o.globals.isEmpty && o.ecmaVersion = .null && o.sourceType.isNone && o.parser = .null

/-- Nothing is set but parser options, at least one, and each of them asks for type information. -/
def onlyTypes (o : LanguageOptions) : Bool :=
  o.bare && !o.parserOptions.isEmpty && o.parserOptions.all fun e => e.1 ∈ typeKeys

theorem isEmpty_eq_bare (o : LanguageOptions) :
    o.isEmpty = (o.bare && o.parserOptions.isEmpty) :=
  rfl

/-- Nothing is left of entries that all ask for type information. -/
theorem isEmpty_filter_typeKeys (entries : List (Value × Value)) :
    (entries.filter fun e => e.1 ∉ typeKeys).isEmpty = entries.all fun e => e.1 ∈ typeKeys := by
  induction entries with
  | nil => rfl
  | cons e rest ih =>
    rw [List.filter_cons, List.all_cons, ← ih]
    by_cases h : e.1 ∈ typeKeys <;> simp [h]

/-- Stripped options are empty if they were empty, or if all that was set is stripped. -/
theorem isEmpty_withoutTypes (o : LanguageOptions) :
    o.withoutTypes.isEmpty = (o.isEmpty || o.onlyTypes) := by
  have hbare : o.withoutTypes.bare = o.bare := rfl
  have hentries : o.withoutTypes.parserOptions.isEmpty =
      o.parserOptions.all fun e => e.1 ∈ typeKeys := isEmpty_filter_typeKeys o.parserOptions
  rw [isEmpty_eq_bare, isEmpty_eq_bare, onlyTypes, hbare, hentries]
  cases o.bare with
  | false => rfl
  | true => cases o.parserOptions <;> simp

theorem not_isEmpty_of_onlyTypes {o : LanguageOptions} (h : o.onlyTypes = true) :
    o.isEmpty = false := by
  rw [onlyTypes, Bool.and_eq_true, Bool.and_eq_true, Bool.not_eq_true'] at h
  rw [isEmpty_eq_bare, h.1.2, Bool.and_false]

end LanguageOptions

/-! ## Stripped fragments -/

namespace Fragment

/-- Nothing is declared but ignores, the language options left aside. -/
def bareIgnores (f : Fragment) : Bool :=
  f.ignores.isSome && f.files.isNone && f.plugins.isEmpty && f.rules.isEmpty

/-- All that keeps the ignores of a fragment to itself are parser options that ask for type
information. -/
def scopedByTypes (f : Fragment) : Bool :=
  f.bareIgnores && f.languageOptions.any LanguageOptions.onlyTypes

theorem ignoresOnly_eq_bareIgnores (f : Fragment) :
    f.ignoresOnly = (f.bareIgnores && f.languageOptions.all LanguageOptions.isEmpty) :=
  rfl

/-- The ignores of such a fragment are not global. -/
theorem not_ignoresOnly_of_scopedByTypes {f : Fragment} (h : f.scopedByTypes = true) :
    f.ignoresOnly = false := by
  rw [scopedByTypes, Bool.and_eq_true] at h
  obtain ⟨o, ho, honly⟩ := (Option.any_eq_true _ _).1 h.2
  rw [ignoresOnly_eq_bareIgnores, ho, Option.all_some,
    LanguageOptions.not_isEmpty_of_onlyTypes honly, Bool.and_false]

/-- **The ignores of a stripped fragment** are global if they were global before, or if all that kept
them to the fragment is stripped. -/
theorem ignoresOnly_withoutTypes (f : Fragment) :
    f.withoutTypes.ignoresOnly = (f.ignoresOnly || f.scopedByTypes) := by
  have hbare : f.withoutTypes.bareIgnores = f.bareIgnores := rfl
  have hlanguage : f.withoutTypes.languageOptions =
      f.languageOptions.map LanguageOptions.withoutTypes := rfl
  rw [ignoresOnly_eq_bareIgnores, ignoresOnly_eq_bareIgnores, scopedByTypes, hbare, hlanguage,
    ← Bool.and_or_distrib_left]
  refine congrArg (f.bareIgnores && ·) ?_
  cases f.languageOptions with
  | none => rfl
  | some o =>
    rw [Option.map_some, Option.all_some, Option.all_some, Option.any_some,
      LanguageOptions.isEmpty_withoutTypes]

/-- Stripping leaves the scope of ignores as it is, but for those fragments. -/
theorem ignoresOnly_withoutTypes_eq_iff (f : Fragment) :
    f.withoutTypes.ignoresOnly = f.ignoresOnly ↔ f.scopedByTypes = false := by
  rw [ignoresOnly_withoutTypes]
  cases h : f.scopedByTypes with
  | false => simp
  | true => simp [not_ignoresOnly_of_scopedByTypes h]

end Fragment

/-! ## Sanitized configurations -/

/-- **Where sanitizing keeps the scope of ignores.** Each fragment of the sanitized configuration
has the ignores it had. They are global exactly if they were global before, unless all that kept
them to their fragment were parser options that ask for type information: then they were not global
and have become so. -/
theorem sanitize_keeps_scope_iff {fs : List Fragment} (nonempty : fs ≠ [])
    (made : ∀ f ∈ fs, f.Made)
    (named : ∀ f ∈ fs, ∀ handle ∈ f.plugins.values, "" ∉ handle.typeAwareRules) :
    ∃ c s, compose (fs.map .fragment) = .ok c ∧ sanitize c = .ok s ∧
      s.fragments.length = fs.length + 1 ∧
      ∀ (i : Nat) (f : Fragment), fs[i]? = some f → ∃ f' : Fragment,
        s.fragments[i]? = some f' ∧ f'.ignores = f.ignores ∧
        (f'.ignoresOnly = f.ignoresOnly ↔ f.scopedByTypes = false) ∧
        (f.scopedByTypes = true → f.ignoresOnly = false ∧ f'.ignoresOnly = true) := by
  refine ⟨flatten fs, _, compose_map nonempty, sanitize_eq made (namesTypeAware_flatten named),
    ?_, fun i f hf => ?_⟩
  · show (fs.map Fragment.withoutTypes ++ [_]).length = _
    rw [List.length_append, List.length_map, List.length_singleton]
  · have hstripped : (fs.map Fragment.withoutTypes)[i]? = some f.withoutTypes := by
      rw [List.getElem?_map, hf, Option.map_some]
    refine ⟨f.withoutTypes, ?_, rfl, f.ignoresOnly_withoutTypes_eq_iff, fun hscoped => ?_⟩
    · show (fs.map Fragment.withoutTypes ++ [_])[i]? = _
      rw [List.getElem?_append_left (List.getElem?_eq_some_iff.1 hstripped).1, hstripped]
    · rw [f.ignoresOnly_withoutTypes, hscoped, Bool.or_true]
      exact ⟨Fragment.not_ignoresOnly_of_scopedByTypes hscoped, rfl⟩

/-- Ignores with language options that ask for types and set nothing else. -/
def typedIgnores : Fragment where
  name := .str "typed"
  ignores := some ["**/legacy"]
  languageOptions := some { parserOptions := [(.str "project", .bool true)] }

/-- Ignores of a fragment that sets another parser option too, global ones, and `typedIgnores`. -/
def scopedSample : List Fragment :=
  [{ name := .str "kept"
     ignores := some ["**/old"]
     languageOptions := some
       { parserOptions := [(.str "project", .bool true), (.str "ecmaFeatures", .dict [])] } },
   { name := .str "global", ignores := some ["**/dist"], languageOptions := some {} },
   typedIgnores]

theorem made_scopedSample : ∀ f ∈ scopedSample, f.Made := by decide

theorem named_scopedSample :
    ∀ f ∈ scopedSample, ∀ handle ∈ f.plugins.values, "" ∉ handle.typeAwareRules := by decide

theorem sanitize_keeps_scope_iff_sample :
    scopedSample ≠ [] ∧ (∀ f ∈ scopedSample, f.Made) ∧
      (∀ f ∈ scopedSample, ∀ handle ∈ f.plugins.values, "" ∉ handle.typeAwareRules) ∧
      ∃ c s, compose (scopedSample.map .fragment) = .ok c ∧ sanitize c = .ok s ∧
        (∃ kept, s.fragments[0]? = some kept ∧ kept.ignoresOnly = false) ∧
        (∃ always, s.fragments[1]? = some always ∧ always.ignoresOnly = true) ∧
        ∃ widened, s.fragments[2]? = some widened ∧ widened.ignoresOnly = true := by
  obtain ⟨c, s, hc, hs, -, scope⟩ := sanitize_keeps_scope_iff
    (show scopedSample ≠ [] by decide) made_scopedSample named_scopedSample
  obtain ⟨kept, hkept, -, hsame, -⟩ := scope 0 _ rfl
  obtain ⟨always, halways, -, hglobal, -⟩ := scope 1 _ rfl
  obtain ⟨widened, hwidened, -, -, hbecomes⟩ := scope 2 _ rfl
  exact ⟨by decide, made_scopedSample, named_scopedSample, c, s, hc, hs,
    ⟨kept, hkept, hsame.2 (by decide)⟩, ⟨always, halways, hglobal.2 (by decide)⟩,
    widened, hwidened, (hbecomes (by decide)).2⟩

/-- Sanitizing makes the ignores of one fragment global. -/
theorem sanitize_widens_scope :
    (∀ f ∈ [typedIgnores], f.Made) ∧ typedIgnores.ignoresOnly = false ∧
      ∃ c s f', compose [.fragment typedIgnores] = .ok c ∧ sanitize c = .ok s ∧
        s.fragments[0]? = some f' ∧ f'.ignoresOnly = true := by
  have made : ∀ f ∈ [typedIgnores], f.Made := by decide
  have named : ∀ f ∈ [typedIgnores], ∀ handle ∈ f.plugins.values, "" ∉ handle.typeAwareRules := by
    decide
  exact ⟨made, by decide, flatten [typedIgnores], _, typedIgnores.withoutTypes,
    compose_map (List.cons_ne_nil typedIgnores []),
    sanitize_eq made (namesTypeAware_flatten named), rfl, by decide⟩

end LayeredLint
