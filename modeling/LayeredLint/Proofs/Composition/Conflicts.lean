import Mathlib.Data.List.Pairwise
import LayeredLint.Proofs.Composition.Flatten

/-!
# Plugins in conflict

A plugin name is in conflict where a registration takes it over from another source. Conflicts of
one name come about whatever is registered for the others, and a name without conflicts is bound to
one source, whatever its handles declare.

- `conflictsFrom_of_keeps`, `conflictsFrom_of_takes`: what one more registration adds.
- `conflictsFrom_eq_nil_iff`: when a list of registrations makes no conflicts.
- `filter_conflictsFrom`: the conflicts of one name are those of its own registrations.
- `OneSource`, `BoundApart`: every plugin name is bound to one source, or one name to two;
  `BoundApart.mono`: more fragments do not change the latter.
- `exists_conflict_iff`, `pluginConflicts_eq_nil_iff`: **a name is in conflict exactly if it is
  bound to two sources, and there are no conflicts exactly if each name has one**.
-/

namespace LayeredLint

/-! ## One more registration -/

/-- The conflict of two registrations of a plugin name, of which the later takes it over. -/
def Registration.conflict (earlier later : Registration) : Conflict :=
  ⟨later.plugin, earlier.fragment, later.fragment, earlier.handle.describe, later.handle.describe⟩

@[simp] theorem Registration.conflict_plugin (earlier later : Registration) :
    (earlier.conflict later).plugin = later.plugin :=
  rfl

section step

variable {seen : Table Name Registration} {r : Registration}

/-- A name that was not bound yet, or to the same source, is not taken over. -/
theorem conflictsFrom_of_keeps
    (h : ∀ earlier, seen.find? r.plugin = some earlier → earlier.handle.source = r.handle.source)
    (rest : List Registration) :
    conflictsFrom seen (r :: rest) = conflictsFrom (seen.insert r.plugin r) rest := by
  rw [conflictsFrom]
  cases hseen : seen.find? r.plugin with
  | none => rfl
  | some earlier =>
    have hsame : earlier.handle.sameCapability r.handle = true :=
      PluginHandle.sameCapability_iff.2 (h earlier hseen)
    simp only [hsame, if_true]

/-- A name that was bound to another source is taken over. -/
theorem conflictsFrom_of_takes {earlier : Registration}
    (hseen : seen.find? r.plugin = some earlier)
    (h : earlier.handle.source ≠ r.handle.source) (rest : List Registration) :
    conflictsFrom seen (r :: rest) =
      earlier.conflict r :: conflictsFrom (seen.insert r.plugin r) rest := by
  have hother : ¬earlier.handle.sameCapability r.handle = true :=
    mt PluginHandle.sameCapability_iff.1 h
  rw [conflictsFrom, hseen]
  simp only [hother]
  rfl

/-- One more registration keeps the source of its name, or takes the name over. -/
theorem keeps_or_takes (seen : Table Name Registration) (r : Registration) :
    (∀ earlier, seen.find? r.plugin = some earlier → earlier.handle.source = r.handle.source) ∨
      ∃ earlier, seen.find? r.plugin = some earlier ∧ earlier.handle.source ≠ r.handle.source := by
  by_cases h : ∃ earlier, seen.find? r.plugin = some earlier ∧
      earlier.handle.source ≠ r.handle.source
  · exact .inr h
  · refine .inl fun earlier hseen => ?_
    by_contra hother
    exact h ⟨earlier, hseen, hother⟩

/-- One registration makes no conflict if its name was not bound yet, or to the same source. -/
theorem conflictsFrom_cons_eq_nil_iff {rest : List Registration} :
    conflictsFrom seen (r :: rest) = [] ↔
      (∀ earlier, seen.find? r.plugin = some earlier → earlier.handle.source = r.handle.source) ∧
        conflictsFrom (seen.insert r.plugin r) rest = [] := by
  rcases keeps_or_takes seen r with keeps | ⟨earlier, hseen, hother⟩
  · rw [conflictsFrom_of_keeps keeps, and_iff_right keeps]
  · rw [conflictsFrom_of_takes hseen hother]
    exact ⟨fun h => (nomatch h), fun h => absurd (h.1 earlier hseen) hother⟩

end step

/-! ## Registrations without conflicts -/

/-- Two registrations of one plugin name load the same code. -/
def Registration.Agree (a b : Registration) : Prop :=
  same a.plugin b.plugin = true → a.handle.source = b.handle.source

theorem Registration.agree_self (a : Registration) : a.Agree a :=
  fun _ => rfl

instance : Std.Symm Registration.Agree where
  symm _ _ h hs := (h (SameKey.symm hs)).symm

/-- Registrations make no conflicts if they agree with those before and with one another. -/
theorem conflictsFrom_eq_nil_iff {seen : Table Name Registration} {rs : List Registration} :
    conflictsFrom seen rs = [] ↔
      (∀ r ∈ rs, ∀ earlier, seen.find? r.plugin = some earlier →
        earlier.handle.source = r.handle.source) ∧ rs.Pairwise Registration.Agree := by
  -- What was seen grows with each registration, so the induction is for all of it.
  induction rs generalizing seen with
  | nil => simp [conflictsFrom]
  | cons r rest ih =>
    rw [conflictsFrom_cons_eq_nil_iff, ih, List.pairwise_cons, List.forall_mem_cons]
    constructor
    · rintro ⟨hr, hrest, agree⟩
      have hagree : ∀ later ∈ rest, r.Agree later := by
        intro later hl hs
        refine hrest later hl r ?_
        rw [Table.find?_insert, if_pos (SameKey.symm hs)]
      refine ⟨⟨hr, fun later hl earlier he => ?_⟩, hagree, agree⟩
      by_cases hs : same r.plugin later.plugin = true
      · -- what was seen under this name has the source of `r`, and so has `later`
        have hseen : seen.find? r.plugin = some earlier := (seen.find?_congr hs).trans he
        exact (hr earlier hseen).trans (hagree later hl hs)
      · refine hrest later hl earlier ?_
        rw [Table.find?_insert, if_neg (fun h => hs (SameKey.symm h)), he]
    · rintro ⟨⟨hr, hrest⟩, hagree, agree⟩
      refine ⟨hr, fun later hl earlier he => ?_, agree⟩
      rw [Table.find?_insert] at he
      split at he
      · next hs => exact Option.some.inj he ▸ hagree later hl (SameKey.symm hs)
      · exact hrest later hl earlier he

/-! ## One name at a time -/

/-- Of what was seen, only the names that are registered matter. -/
theorem conflictsFrom_congr {seen seen' : Table Name Registration} {rs : List Registration}
    (h : ∀ r ∈ rs, seen.find? r.plugin = seen'.find? r.plugin) :
    conflictsFrom seen rs = conflictsFrom seen' rs := by
  induction rs generalizing seen seen' with
  | nil => rfl
  | cons r rest ih =>
    have hrest : conflictsFrom (seen.insert r.plugin r) rest =
        conflictsFrom (seen'.insert r.plugin r) rest := by
      refine ih fun later hl => ?_
      rw [Table.find?_insert, Table.find?_insert, h later (List.mem_cons_of_mem r hl)]
    rw [conflictsFrom, conflictsFrom, h r List.mem_cons_self, hrest]

/-- The conflicts of one name are those of its own registrations, however others stand between. -/
theorem filter_conflictsFrom (plugin : Name) (seen : Table Name Registration)
    (rs : List Registration) :
    (conflictsFrom seen rs).filter (fun c => same plugin c.plugin) =
      conflictsFrom seen (rs.filter fun r => same plugin r.plugin) := by
  induction rs generalizing seen with
  | nil => rfl
  | cons r rest ih =>
    by_cases hs : same plugin r.plugin = true
    · rw [List.filter_cons, if_pos hs]
      rcases keeps_or_takes seen r with keeps | ⟨earlier, hseen, hother⟩
      · rw [conflictsFrom_of_keeps keeps, conflictsFrom_of_keeps keeps, ih]
      · rw [conflictsFrom_of_takes hseen hother, conflictsFrom_of_takes hseen hother,
          List.filter_cons, Registration.conflict_plugin, if_pos hs, ih]
    · rw [List.filter_cons, if_neg hs]
      -- a registration of another name is not seen by those of this one
      have hrest : conflictsFrom (seen.insert r.plugin r)
            (rest.filter fun r => same plugin r.plugin) =
          conflictsFrom seen (rest.filter fun r => same plugin r.plugin) := by
        refine conflictsFrom_congr fun later hl => ?_
        have hlater : same plugin later.plugin = true := (List.mem_filter.1 hl).2
        rw [Table.find?_insert, if_neg fun h => hs (SameKey.trans hlater h)]
      rw [← hrest, ← ih]
      rcases keeps_or_takes seen r with keeps | ⟨earlier, hseen, hother⟩
      · rw [conflictsFrom_of_keeps keeps]
      · rw [conflictsFrom_of_takes hseen hother, List.filter_cons, Registration.conflict_plugin,
          if_neg hs]

/-! ## Fragments -/

/-- Every plugin name is bound to one source throughout. -/
def OneSource (fs : List Fragment) : Prop :=
  ∀ f ∈ fs, ∀ g ∈ fs, ∀ (plugin : Name) (a b : PluginHandle), f.plugins.find? plugin = some a →
    g.plugins.find? plugin = some b → a.source = b.source

/-- Two fragments bind a plugin name to different sources. -/
def BoundApart (fs : List Fragment) (plugin : Name) : Prop :=
  ∃ f ∈ fs, ∃ g ∈ fs, ∃ a b, f.plugins.find? plugin = some a ∧ g.plugins.find? plugin = some b ∧
    a.source ≠ b.source

theorem oneSource_iff {fs : List Fragment} : OneSource fs ↔ ∀ plugin, ¬BoundApart fs plugin := by
  constructor
  · rintro source plugin ⟨f, hf, g, hg, a, b, ha, hb, hother⟩
    exact hother (source f hf g hg plugin a b ha hb)
  · intro h f hf g hg plugin a b ha hb
    by_contra hother
    exact h plugin ⟨f, hf, g, hg, a, b, ha, hb, hother⟩

/-- What is bound apart stays so, whatever fragments come to it. -/
theorem BoundApart.mono {fs gs : List Fragment} {plugin : Name} (h : fs ⊆ gs)
    (apart : BoundApart fs plugin) : BoundApart gs plugin := by
  obtain ⟨f, hf, g, hg, bound⟩ := apart
  exact ⟨f, h hf, g, h hg, bound⟩

theorem mem_registrations {fs : List Fragment} {r : Registration} :
    r ∈ registrations fs ↔
      ∃ f ∈ fs, r.fragment = f.name ∧ (r.plugin, r.handle) ∈ f.plugins.entries := by
  rw [registrations, List.mem_flatMap]
  refine exists_congr fun f => and_congr_right fun _ => ?_
  rw [List.mem_map]
  constructor
  · rintro ⟨e, he, rfl⟩
    exact ⟨rfl, he⟩
  · rintro ⟨hname, he⟩
    exact ⟨(r.plugin, r.handle), he, by rw [← hname]⟩

/-- A handle that is found comes from a registration. -/
theorem exists_registration {fs : List Fragment} {f : Fragment} (hf : f ∈ fs) {plugin : Name}
    {handle : PluginHandle} (h : f.plugins.find? plugin = some handle) :
    ∃ r ∈ registrations fs, same plugin r.plugin = true ∧ r.handle = handle := by
  obtain ⟨e, he, hs, rfl⟩ := Entries.mem_of_find? h
  exact ⟨⟨e.1, f.name, e.2⟩, mem_registrations.2 ⟨f, hf, rfl, he⟩, hs, rfl⟩

/-- The registrations of one name agree exactly if no two fragments bind it apart. -/
theorem pairwise_agree_iff {fs : List Fragment} {plugin : Name} :
    ((registrations fs).filter fun r => same plugin r.plugin).Pairwise Registration.Agree ↔
      ¬BoundApart fs plugin := by
  constructor
  · rintro agree ⟨f, hf, g, hg, a, b, ha, hb, hother⟩
    obtain ⟨r, hr, hrs, rfl⟩ := exists_registration hf ha
    obtain ⟨r', hr', hrs', rfl⟩ := exists_registration hg hb
    have hall := agree.forall_of_forall fun r _ => r.agree_self
    exact hother (hall (List.mem_filter.2 ⟨hr, hrs⟩) (List.mem_filter.2 ⟨hr', hrs'⟩)
      (SameKey.trans (SameKey.symm hrs) hrs'))
  · intro h
    refine List.pairwise_of_forall_mem_list fun r hr r' hr' hs => ?_
    rw [List.mem_filter] at hr hr'
    obtain ⟨f, hf, -, he⟩ := mem_registrations.1 hr.1
    obtain ⟨g, hg, -, he'⟩ := mem_registrations.1 hr'.1
    by_contra hother
    exact h ⟨f, hf, g, hg, r.handle, r'.handle, f.plugins.find?_of_mem he hr.2,
      g.plugins.find?_of_mem he' hr'.2, hother⟩

/-- **Conflicts of a name**: it is reported exactly if two fragments bind it to different
sources. -/
theorem exists_conflict_iff {fs : List Fragment} {plugin : Name} :
    (∃ c ∈ pluginConflicts fs, same plugin c.plugin = true) ↔ BoundApart fs plugin := by
  have hnone : ∀ r ∈ (registrations fs).filter fun r => same plugin r.plugin,
      ∀ earlier : Registration,
        (Table.empty : Table Name Registration).find? r.plugin = some earlier →
          earlier.handle.source = r.handle.source := fun _ _ _ h => nomatch h
  have hname : (pluginConflicts fs).filter (fun c => same plugin c.plugin) = [] ↔
      ¬BoundApart fs plugin := by
    rw [pluginConflicts, filter_conflictsFrom, conflictsFrom_eq_nil_iff, and_iff_right hnone,
      pairwise_agree_iff]
  rw [← not_iff_not, ← hname, List.filter_eq_nil_iff]
  exact ⟨fun h c hc hs => h ⟨c, hc, hs⟩, fun h ⟨c, hc, hs⟩ => h c hc hs⟩

/-- **No conflicts**: each plugin name is bound to one source throughout. -/
theorem pluginConflicts_eq_nil_iff {fs : List Fragment} :
    pluginConflicts fs = [] ↔ OneSource fs := by
  rw [oneSource_iff, List.eq_nil_iff_forall_not_mem]
  constructor
  · intro none plugin apart
    obtain ⟨c, hc, -⟩ := exists_conflict_iff.2 apart
    exact none c hc
  · intro none c hc
    exact none c.plugin (exists_conflict_iff.1 ⟨c, hc, SameKey.refl c.plugin⟩)

/-- The handle that stands for a name has the source of each one that was registered for it. -/
theorem OneSource.standing {fs : List Fragment} (h : OneSource fs) {f : Fragment} (hf : f ∈ fs)
    {plugin : Name} {handle : PluginHandle} (hh : f.plugins.find? plugin = some handle) :
    ∃ standing, LastGives Fragment.plugins fs plugin standing ∧
      standing.source = handle.source := by
  obtain ⟨standing, last⟩ := exists_lastGives Fragment.plugins hf hh
  obtain ⟨g, hg, hs⟩ := last.exists_mem
  exact ⟨standing, last, h g hg f hf plugin standing handle hs hh⟩

end LayeredLint
