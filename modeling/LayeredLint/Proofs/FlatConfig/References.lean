import LayeredLint.Proofs.FlatConfig.Entries
import LayeredLint.Proofs.Table.LastWrite

/-!
# Modules and the references to them

A configuration module is made in two passes over the fragments. The first one collects the modules
that are referred to, the second one looks each reference up among them. Both go over the references
of a fragment here, so that the second pass meets no module that the first one has not.

- `Fragment.references`: what a fragment refers to, plugins before the parser.
- `Fragment.Importable`: its parser is unset, or a module.
- `moduleNames_eq_ok_iff`: **the imports are the modules that are referred to, each where it is
  referred to first**.
- `exists_reference_iff`: **a reference is rendered exactly if its module is among the imports**.
- `aliasAt_injective`: no two imports have one alias.
-/

namespace LayeredLint

/-! ## What fragments refer to -/

/-- The module that a parser refers to, where it is one. -/
def parserRef? : Value → Option ModuleRef
  | .module ref => some ref
  | _ => none

namespace Fragment

/-- The module that the parser of a fragment refers to. -/
def parserRef? (f : Fragment) : Option ModuleRef :=
  f.languageOptions.bind fun o => LayeredLint.parserRef? o.parser

/-- What a fragment refers to: the sources of its plugins in order, then its parser. -/
def references (f : Fragment) : List ModuleRef :=
  f.plugins.values.map PluginHandle.source ++ f.parserRef?.toList

/-- The modules of its references, in order and with repetitions. -/
def modules (f : Fragment) : List String :=
  f.references.map ModuleRef.module

/-- No language options have no parser, as empty ones have none. -/
theorem parserRef?_eq (f : Fragment) :
    f.parserRef? = LayeredLint.parserRef? (f.languageOptions.getD {}).parser := by
  rw [parserRef?]
  cases f.languageOptions <;> rfl

/-- The parser of a fragment is unset, or a module. -/
def Importable (f : Fragment) : Prop :=
  ∀ o ∈ f.languageOptions, o.parser = .null ∨ ∃ ref, o.parser = .module ref

end Fragment

theorem parserModules_eq_ok_iff {parser : Value} {modules : List String} :
    parserModules parser = .ok modules ↔ (parser = .null ∨ ∃ ref, parser = .module ref) ∧
      modules = (parserRef? parser).toList.map ModuleRef.module := by
  cases parser with
  | null => exact ⟨fun h => ⟨.inl rfl, (Except.ok.inj h).symm⟩, fun h => congrArg Except.ok h.2.symm⟩
  | module ref =>
    exact ⟨fun h => ⟨.inr ⟨ref, rfl⟩, (Except.ok.inj h).symm⟩, fun h => congrArg Except.ok h.2.symm⟩
  | _ =>
    refine iff_of_false (fun h => nomatch h) ?_
    rintro ⟨hnull | ⟨ref, hmodule⟩, -⟩
    · cases hnull
    · cases hmodule

/-- The first pass goes over the references of a fragment. -/
theorem referencedModules_eq_ok_iff {f : Fragment} {modules : List String} :
    referencedModules f = .ok modules ↔ f.Importable ∧ f.modules = modules := by
  unfold referencedModules Fragment.Importable Fragment.modules Fragment.references
    Fragment.parserRef?
  rw [List.map_append, List.map_map]
  cases f.languageOptions with
  | none =>
    show Except.ok (_ ++ []) = Except.ok modules ↔ _ ∧ _ ++ [] = modules
    rw [Except.ok.injEq]
    exact (and_iff_right fun _ ho => nomatch ho).symm
  | some o =>
    show (parserModules o.parser >>= fun parser => Except.ok (_ ++ parser)) = _ ↔ _
    rw [bind_eq_ok]
    constructor
    · rintro ⟨parser, hparser, h⟩
      obtain ⟨himportable, rfl⟩ := parserModules_eq_ok_iff.1 hparser
      refine ⟨fun o' ho' => ?_, Except.ok.inj h⟩
      cases ho'
      exact himportable
    · rintro ⟨himportable, rfl⟩
      exact ⟨_, parserModules_eq_ok_iff.2 ⟨himportable o rfl, rfl⟩, rfl⟩

/-! ## The imports -/

/-- Adding names to different ones keeps the first occurrence of each. -/
theorem addNames_eq_firstKeys {names : List String} (h : names.Pairwise fun a b => same a b = false)
    (more : List String) : addNames names more = firstKeys (names ++ more) := by
  -- The names that were added before stay different with each one that is added.
  induction more generalizing names with
  | nil => rw [addNames, List.append_nil, firstKeys_of_pairwise h]
  | cons name rest ih =>
    have hany : names.any (same name) = names.contains name := List.any_beq
    rw [addNames]
    by_cases hold : names.contains name = true
    · rw [if_pos hold, ih h, firstKeys_append_cons (hany.trans hold)]
    · rw [if_neg hold]
      have hnew : (names ++ [name]).Pairwise fun a b => same a b = false := by
        refine List.pairwise_append.2 ⟨h, List.pairwise_singleton _ _, fun a ha b hb => ?_⟩
        rw [List.mem_singleton.1 hb, Entries.same_comm]
        exact Bool.eq_false_iff.2 fun hs => hold (hany ▸ List.any_eq_true.2 ⟨a, ha, hs⟩)
      rw [ih hnew, List.append_assoc]
      rfl

/-- **The imports**: the modules that fragments refer to, each where it is referred to first. -/
theorem moduleNames_eq_ok_iff {fs : List Fragment} {modules : List String} :
    moduleNames fs = .ok modules ↔
      (∀ f ∈ fs, f.Importable) ∧ modules = firstKeys (fs.flatMap Fragment.modules) := by
  have hall : ∀ referenced, fs.mapM referencedModules = .ok referenced ↔
      (∀ f ∈ fs, f.Importable) ∧ fs.map Fragment.modules = referenced := by
    intro referenced
    simp only [mapM_eq_ok_iff, referencedModules_eq_ok_iff, List.forall₂_and_left]
    rw [← List.forall₂_map_left_iff, List.forall₂_eq_eq_eq]
  rw [moduleNames, bind_eq_ok]
  constructor
  · rintro ⟨referenced, hreferenced, h⟩
    obtain ⟨himportable, rfl⟩ := (hall referenced).1 hreferenced
    cases h
    exact ⟨himportable, addNames_eq_firstKeys .nil _⟩
  · rintro ⟨himportable, rfl⟩
    refine ⟨_, (hall _).2 ⟨himportable, rfl⟩, ?_⟩
    exact congrArg Except.ok (addNames_eq_firstKeys .nil _)

theorem mem_firstKeys {names : List String} {name : String} :
    name ∈ firstKeys names ↔ name ∈ names := by
  have hany := any_same_firstKeys name names
  rw [show (same name : String → Bool) = (name == ·) from rfl, List.any_beq, List.any_beq] at hany
  rw [← List.contains_iff_mem, hany, List.contains_iff_mem]

theorem nodup_firstKeys (names : List String) : (firstKeys names).Nodup :=
  (pairwise_firstKeys names).imp fun h heq => by
    rw [heq, SameKey.refl] at h
    cases h

/-- No two places have one alias. -/
theorem aliasAt_injective : Function.Injective aliasAt := by
  intro n n' h
  have htext := congrArg String.toList h
  rw [toList_aliasAt, toList_aliasAt] at htext
  injection htext with _ hdigits
  rw [← Json.digitsValue_toDigits n, hdigits, Json.digitsValue_toDigits]

/-! ## References -/

/-- **A reference** is rendered exactly if its module is among the imports. -/
theorem exists_reference_iff {modules : List String} {ref : ModuleRef} :
    (∃ text, reference modules ref = .ok text) ↔ ref.module ∈ modules := by
  constructor
  · rintro ⟨text, h⟩
    obtain ⟨n, hn, -⟩ := reference_eq_ok h
    exact List.mem_of_getElem? hn
  · intro h
    have hsome : (modules.findIdx? (· = ref.module)).isSome = true := by
      rw [List.findIdx?_isSome, List.any_eq_true]
      exact ⟨ref.module, h, decide_eq_true rfl⟩
    obtain ⟨n, hn⟩ := Option.isSome_iff_exists.1 hsome
    unfold reference aliasOf?
    rw [hn]
    exact ⟨_, rfl⟩

/-- What a plugin or the parser of a fragment refers to is among its references. -/
theorem Fragment.mem_modules_of_plugin {f : Fragment} {e : Name × PluginHandle}
    (he : e ∈ f.plugins.entries) : e.2.source.module ∈ f.modules := by
  have hvalue : e.2 ∈ f.plugins.values := List.mem_map_of_mem he
  exact List.mem_map_of_mem (List.mem_append_left _ (List.mem_map_of_mem hvalue))

theorem Fragment.mem_modules_of_parser {f : Fragment} {o : LanguageOptions} {ref : ModuleRef}
    (ho : o ∈ f.languageOptions) (hparser : o.parser = .module ref) : ref.module ∈ f.modules := by
  have href : f.parserRef? = some ref := by
    rw [f.parserRef?_eq, show f.languageOptions = some o from ho, Option.getD_some, hparser]
    rfl
  refine List.mem_map_of_mem (List.mem_append_right _ ?_)
  rw [href]
  exact List.mem_singleton_self ref

end LayeredLint
