import LayeredLint.Proofs.FlatConfig.Entries

/-!
# Members of an entry

Rendering makes a member in four ways: it prints a value, it refers to a module from a plugin or
from a parser, and it puts members in braces. So what is said of every member of an entry needs to be
said of these four.

- `Inherited`: what holds of members, whichever way they are made.
- `Fragment.Fits`: conditions on the values and references of a fragment.
- `Inherited.entryMembers`: **what is inherited holds of every member of an entry**, and by
  `Inherited.pluginMembers` and `Inherited.languageMembers` of those inside.
-/

namespace LayeredLint

open Json (stringText)

variable {modules : List String} {Doc : Value → Prop} {Ref : ModuleRef → Prop} {p : Member → Prop}

/-- What holds of members, whichever way they are made: the values that are printed, and what is
referred to, are such as is said. -/
structure Inherited (modules : List String) (Doc : Value → Prop) (Ref : ModuleRef → Prop)
    (p : Member → Prop) : Prop where
  document : ∀ {name v text}, name ∈ entryNames ++ languageNames → Doc v → dump v = .ok text →
    p (name, text)
  plugin : ∀ {name ref text}, Ref ref → RefersTo modules ref text →
    p (String.ofList (stringText name), text)
  parser : ∀ {ref text}, Ref ref → RefersTo modules ref text → p ("parser", text)
  braces : ∀ {name inner}, name ∈ entryNames → (∀ m ∈ inner, p m) → p (name, braced inner)

/-- Language options whose values, and whose parser, are such as is said. -/
structure LanguageOptions.Fits (Doc : Value → Prop) (Ref : ModuleRef → Prop)
    (o : LanguageOptions) : Prop where
  globals : ∀ v ∈ o.globalsPart?, Doc v
  ecmaVersion : ∀ v ∈ present? o.ecmaVersion, Doc v
  sourceType : ∀ v ∈ o.sourceTypePart?, Doc v
  parserOptions : ∀ v ∈ o.parserOptionsPart?, Doc v
  parser : ∀ ref, o.parser = .module ref → Ref ref

/-- A fragment whose values and references are such as is said. -/
structure Fragment.Fits (Doc : Value → Prop) (Ref : ModuleRef → Prop) (f : Fragment) : Prop where
  name : Doc f.name
  files : ∀ v ∈ f.files.map textList, Doc v
  ignores : ∀ v ∈ f.ignores.map textList, Doc v
  plugins : ∀ handle ∈ f.plugins.values, Ref handle.source
  languageOptions : (f.languageOptions.getD {}).Fits Doc Ref
  rules : ∀ v ∈ rulesPart? f.rules, Doc v

namespace Inherited

theorem memberFor (hp : Inherited modules Doc Ref p) {name : String} {v? : Option Value}
    {members : List Member} (hname : name ∈ entryNames ++ languageNames) (hv : ∀ v ∈ v?, Doc v)
    (h : LayeredLint.memberFor name v? = .ok members) : ∀ m ∈ members, p m :=
  forall_mem_memberFor h fun v hsome _ htext => hp.document hname (hv v hsome) htext

theorem pluginMembers (hp : Inherited modules Doc Ref p) {plugins : Table Name PluginHandle}
    {members : List Member} (hplugins : ∀ handle ∈ plugins.values, Ref handle.source)
    (h : LayeredLint.pluginMembers modules plugins = .ok members) : ∀ m ∈ members, p m :=
  forall_mem_pluginMembers h fun e he _ htext =>
    hp.plugin (hplugins e.2 (List.mem_map_of_mem he)) (reference_eq_ok htext)

theorem languageMembers (hp : Inherited modules Doc Ref p) {o : LanguageOptions}
    {members : List Member} (ho : o.Fits Doc Ref)
    (h : LayeredLint.languageMembers modules o = .ok members) : ∀ m ∈ members, p m := by
  have hparts := languageMembers_parts h
  refine forall_mem_of_partOf hparts.known ?_
  simp only [languageNames, List.forall_mem_cons]
  exact ⟨hp.memberFor (by decide) ho.globals hparts.globals,
    hp.memberFor (by decide) ho.ecmaVersion hparts.ecmaVersion,
    hp.memberFor (by decide) ho.sourceType hparts.sourceType,
    hp.memberFor (by decide) ho.parserOptions hparts.parserOptions,
    forall_mem_parserMember hparts.parser fun ref _ href htext =>
      hp.parser (ho.parser ref href) (reference_eq_ok htext),
    List.forall_mem_nil _⟩

/-- **What is inherited holds of every member of an entry.** -/
theorem entryMembers (hp : Inherited modules Doc Ref p) {f : Fragment} {members : List Member}
    (hf : f.Fits Doc Ref) (h : LayeredLint.entryMembers modules f = .ok members) :
    ∀ m ∈ members, p m := by
  have hparts := entryMembers_parts h
  have hname : ∀ v ∈ some f.name, Doc v := by
    rintro v ⟨⟩
    exact hf.name
  refine forall_mem_of_partOf hparts.known ?_
  simp only [entryNames, List.forall_mem_cons]
  exact ⟨hp.memberFor (by decide) hname hparts.name, hp.memberFor (by decide) hf.files hparts.files,
    hp.memberFor (by decide) hf.ignores hparts.ignores,
    hparts.plugins.forall_mem fun _ hinner =>
      hp.braces (by decide) (hp.pluginMembers hf.plugins hinner),
    hparts.languageOptions.forall_mem fun _ hinner =>
      hp.braces (by decide) (hp.languageMembers hf.languageOptions hinner),
    hp.memberFor (by decide) hf.rules hparts.rules, List.forall_mem_nil _⟩

end Inherited

end LayeredLint
