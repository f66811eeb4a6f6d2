import LayeredLint.Proofs.Language.Merge
import LayeredLint.Sanitizer

/-!
# Stripping type information

A fragment that asks for type information is made again without the parser options that ask for it,
and passes the checks a second time.

- `LanguageOptions.withoutTypes`, `Fragment.withoutTypes`: the options and the fragment that should
  be left.
- `Sanitizer.stripped_eq`: **stripping a fragment leaves that fragment**.
- `LanguageOptions.merge_map_withoutTypes`: **options may be stripped before they are merged, or
  afterwards**.
-/

namespace LayeredLint

/-- The keys at the top of parser options that ask for type information. -/
def typeKeys : List Value :=
  Sanitizer.typeInformationOptions.map .str

/-- Language options without the keys that ask for type information. -/
def LanguageOptions.withoutTypes (o : LanguageOptions) : LanguageOptions :=
  { o with parserOptions := o.parserOptions.filter fun e => e.1 ∉ typeKeys }

/-- A fragment without the keys that ask for type information. -/
def Fragment.withoutTypes (f : Fragment) : Fragment :=
  { f with languageOptions := f.languageOptions.map LanguageOptions.withoutTypes }

/-! ## Keys that ask for type information -/

namespace Sanitizer

/-- No other value is the same key as the text of a type information option. -/
theorem same_str_iff {option : String} (h : option ∈ typeInformationOptions) (key : Value) :
    same (Value.str option) key = true ↔ key = .str option := by
  rw [Value.same_iff]
  constructor
  · intro hkey
    cases key with
    | str s => exact hkey.symm
    | severity s =>
      have hword : s.word ∈ typeInformationOptions := Value.str.inj hkey ▸ h
      cases s <;> exact absurd hword (by decide)
    | float x =>
      cases hx : x.integer? with
      | none => simp [Value.keyForm, hx] at hkey
      | some n => simp [Value.keyForm, hx] at hkey
    | _ => cases hkey
  · rintro rfl
    rfl

/-- The keys that ask for type information are the three texts and no other values. -/
theorem asksForTypes_iff (key : Value) : asksForTypes key = true ↔ key ∈ typeKeys := by
  rw [asksForTypes, List.any_eq_true, typeKeys, List.mem_map]
  constructor
  · rintro ⟨option, h, hsame⟩
    exact ⟨option, h, ((same_str_iff h key).1 hsame).symm⟩
  · rintro ⟨option, h, rfl⟩
    exact ⟨option, h, (same_str_iff h _).2 rfl⟩

theorem asksForTypes_congr {a b : Value} (h : same a b = true) :
    asksForTypes a = asksForTypes b := by
  refine congrArg typeInformationOptions.any (funext fun option => ?_)
  rw [Entries.same_comm, Entries.same_comm _ b]
  exact Entries.same_congr_left h _

theorem keptEntries_eq_filter (entries : List (Value × Value)) :
    keptEntries entries = entries.filter fun e => e.1 ∉ typeKeys := by
  refine List.filter_congr fun e _ => ?_
  rw [Bool.eq_iff_iff, Bool.not_eq_true', decide_eq_true_iff, ← asksForTypes_iff,
    Bool.not_eq_true]

/-- Entries of which none asks for type information are all kept. -/
theorem keptEntries_eq_self {entries : List (Value × Value)}
    (h : (entries.any fun e => asksForTypes e.1) = false) : keptEntries entries = entries := by
  refine List.filter_eq_self.2 fun e he => ?_
  rw [Bool.not_eq_true', ← Bool.not_eq_true]
  exact List.any_eq_false.1 h e he

theorem copyableEntries_keptEntries {entries : List (Value × Value)}
    (h : Value.copyableEntries entries = true) :
    Value.copyableEntries (keptEntries entries) = true := by
  induction entries with
  | nil => rfl
  | cons e rest ih =>
    obtain ⟨k, v⟩ := e
    simp only [Value.copyableEntries, Bool.and_eq_true] at h
    rw [keptEntries, List.filter_cons]
    split
    · show (Value.copyable k && Value.copyable v && Value.copyableEntries (keptEntries rest)) = true
      rw [h.1.1, h.1.2, ih h.2]
      rfl
    · exact ih h.2

end Sanitizer

/-! ## Language options -/

namespace LanguageOptions

theorem withoutTypes_eq (o : LanguageOptions) :
    o.withoutTypes = { o with parserOptions := Sanitizer.keptEntries o.parserOptions } := by
  rw [withoutTypes, Sanitizer.keptEntries_eq_filter]

theorem mergeOne_withoutTypes (o later : LanguageOptions) :
    mergeOne o.withoutTypes later.withoutTypes = (mergeOne o later).withoutTypes := by
  have hcongr : ∀ a b : Value, same a b = true →
      (!Sanitizer.asksForTypes a) = !Sanitizer.asksForTypes b := fun a b h => by
    rw [Sanitizer.asksForTypes_congr h]
  -- The kept entries are those restricted to keys that do not ask for types.
  have hmerge := restrict_mergeEntries hcongr o.parserOptions later.parserOptions
  rw [withoutTypes_eq, withoutTypes_eq, withoutTypes_eq]
  exact congrArg (fun entries => { mergeOne o later with parserOptions := entries }) hmerge.symm

theorem foldl_mergeOne_withoutTypes (o : LanguageOptions) (options : List LanguageOptions) :
    (options.map withoutTypes).foldl mergeOne o.withoutTypes =
      (options.foldl mergeOne o).withoutTypes := by
  induction options generalizing o with
  | nil => rfl
  | cons later rest ih =>
    rw [List.map_cons, List.foldl_cons, mergeOne_withoutTypes, ih, List.foldl_cons]

/-- **Options may be stripped before they are merged**, or afterwards. -/
theorem merge_map_withoutTypes (options : List LanguageOptions) :
    merge (options.map withoutTypes) = (merge options).withoutTypes :=
  foldl_mergeOne_withoutTypes {} options

theorem strippedOptions_eq {o : LanguageOptions} (h : o.Made) :
    Sanitizer.strippedOptions o = .ok o.withoutTypes := by
  rw [withoutTypes_eq]
  exact make_parts_with o (Sanitizer.copyableEntries_keptEntries (made_iff.1 h))

end LanguageOptions

/-! ## Fragments -/

/-- **Stripping a fragment** leaves the fragment without the keys that ask for type information.
The checks that are run again change nothing. -/
theorem Sanitizer.stripped_eq {f : Fragment} (h : f.Made) :
    stripped f = .ok f.withoutTypes := by
  obtain ⟨good, made⟩ := Fragment.made_iff.1 h
  unfold stripped
  cases hf : f.languageOptions with
  | none =>
    refine congrArg Except.ok ?_
    rw [Fragment.withoutTypes, hf, Option.map_none, ← hf]
  | some o =>
    by_cases hneeds : needsStripping f = true
    · -- the fragment is made again from its parts, with other language options
      have hgood : Fragment.Good { f with languageOptions := some o.withoutTypes } :=
        { good with }
      have hremade : Fragment.make { f.parts with languageOptions := o.withoutTypes.toValue } =
          .ok { f with languageOptions := some o.withoutTypes } := Fragment.make_parts hgood
      simp only [hneeds, if_true, LanguageOptions.strippedOptions_eq (made o hf)]
      rw [Fragment.withoutTypes, hf]
      exact hremade
    · have hkept : o.withoutTypes = o := by
        have hnone : (o.parserOptions.any fun e => asksForTypes e.1) = false := by
          simpa [needsStripping, hf] using hneeds
        rw [LanguageOptions.withoutTypes_eq, keptEntries_eq_self hnone]
      simp only [hneeds]
      refine congrArg Except.ok ?_
      rw [Fragment.withoutTypes, hf, Option.map_some, hkept, ← hf]

end LayeredLint
