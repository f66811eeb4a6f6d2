import LayeredLint.Proofs.Composition.Conflicts

/-!
# Plugin names that are taken over

Only neighbouring registrations of a name are compared: each one with the latest before it. Here
the conflicts of a list of fragments are matched with these pairs and their places, and what follows
for the names and for the composition is drawn from it.

- `LatestOf`: the latest registration of a name among some.
- `Tracks`: a table holds the latest registration of each name; `Tracks.insert` is the step.
- `TakeOver`: a registration that takes its name over, and the one that it takes it from.
- `conflictsFrom_reports`: the conflicts are the take-overs, in order.
- `pluginConflicts_exact`: **conflicts are reported exactly, and cost nothing but a warning each**.
-/

namespace LayeredLint

/-! ## The latest registration of a name -/

/-- The latest of some registrations that is one of a plugin name. -/
def LatestOf (plugin : Name) (rs : List Registration) (r : Registration) : Prop :=
  ∃ before between, rs = before ++ r :: between ∧ same plugin r.plugin = true ∧
    ∀ b ∈ between, same plugin b.plugin = false

theorem not_latestOf_nil (plugin : Name) (r : Registration) : ¬LatestOf plugin [] r := by
  rintro ⟨before, between, hsplit, -, -⟩
  simp at hsplit

/-- One more registration is the latest of its own name, and changes nothing for the others. -/
theorem latestOf_concat {plugin : Name} {rs : List Registration} {last r : Registration} :
    LatestOf plugin (rs ++ [last]) r ↔
      if same plugin last.plugin then last = r else LatestOf plugin rs r := by
  constructor
  · rintro ⟨before, between, hsplit, hr, hbetween⟩
    rcases List.eq_nil_or_concat between with rfl | ⟨init, b, rfl⟩
    · obtain ⟨rfl, hlast⟩ := List.append_inj' hsplit rfl
      cases hlast
      rw [if_pos hr]
    · rw [List.concat_eq_append] at hsplit hbetween
      rw [← List.cons_append, ← List.append_assoc] at hsplit
      obtain ⟨rfl, hlast⟩ := List.append_inj' hsplit rfl
      cases hlast
      have hother : same plugin last.plugin = false := hbetween last (by simp)
      rw [hother, if_neg Bool.false_ne_true]
      exact ⟨before, init, rfl, hr, fun b hb => hbetween b (List.mem_append_left _ hb)⟩
  · by_cases hs : same plugin last.plugin = true
    · rw [if_pos hs]
      rintro rfl
      exact ⟨rs, [], rfl, hs, by simp⟩
    · rw [if_neg hs]
      rintro ⟨before, between, rfl, hr, hbetween⟩
      refine ⟨before, between ++ [last], by simp, hr, fun b hb => ?_⟩
      rcases List.mem_append.1 hb with hb | hb
      · exact hbetween b hb
      · rw [List.mem_singleton.1 hb]
        simpa using hs

/-- A table holds the latest registration of each name. -/
def Tracks (seen : Table Name Registration) (done : List Registration) : Prop :=
  ∀ plugin r, seen.find? plugin = some r ↔ LatestOf plugin done r

theorem tracks_empty : Tracks .empty [] :=
  fun plugin r => ⟨fun h => (nomatch h), fun h => absurd h (not_latestOf_nil plugin r)⟩

/-- A table goes on holding the latest registrations when one more is assigned to its name. -/
theorem Tracks.insert {seen : Table Name Registration} {done : List Registration}
    (h : Tracks seen done) (r : Registration) : Tracks (seen.insert r.plugin r) (done ++ [r]) := by
  intro plugin r'
  rw [Table.find?_insert, latestOf_concat]
  split
  · rw [Option.some.injEq]
  · exact h plugin r'

/-! ## Take-overs -/

/-- A registration that takes its plugin name over: where it stands among the registrations, and
the one that it takes the name from. -/
structure TakeOver where
  place : Nat
  earlier : Registration
  later : Registration

namespace TakeOver

/-- A take-over among registrations: the later one stands at the place, and the latest one of its
name before it has another source. -/
structure Within (t : TakeOver) (rs : List Registration) : Prop where
  here : rs[t.place]? = some t.later
  latest : LatestOf t.later.plugin (rs.take t.place) t.earlier
  changes : t.earlier.handle.source ≠ t.later.handle.source

/-- What is reported of a take-over: the name, and the fragments and sources of both. -/
def conflict (t : TakeOver) : Conflict :=
  t.earlier.conflict t.later

/-- At the place after some registrations, the next one takes its name over from the latest one
that a table holds. -/
theorem within_iff_of_place {seen : Table Name Registration} {done rest : List Registration}
    {r : Registration} (h : Tracks seen done) {t : TakeOver} (place : t.place = done.length) :
    t.Within (done ++ r :: rest) ↔ t.later = r ∧ seen.find? r.plugin = some t.earlier ∧
      t.earlier.handle.source ≠ r.handle.source := by
  have hnext : (done ++ r :: rest)[t.place]? = some r := by
    rw [place, List.getElem?_append_right (Nat.le_refl _), Nat.sub_self]
    rfl
  have hdone : (done ++ r :: rest).take t.place = done := by
    rw [place, List.take_left]
  constructor
  · rintro ⟨here, latest, changes⟩
    have hlater : t.later = r := Option.some.inj (here.symm.trans hnext)
    rw [hdone, hlater] at latest
    exact ⟨hlater, (h r.plugin t.earlier).2 latest, hlater ▸ changes⟩
  · rintro ⟨hlater, hseen, changes⟩
    refine ⟨hlater ▸ hnext, ?_, hlater ▸ changes⟩
    rw [hdone, hlater]
    exact (h r.plugin t.earlier).1 hseen

end TakeOver

/-- Conflicts report the take-overs among registrations from a place on: one for each, in order, and
nothing else. -/
def ReportsTakeOvers (rs : List Registration) (start : Nat) (conflicts : List Conflict) : Prop :=
  ∃ takeOvers : List TakeOver, conflicts = takeOvers.map TakeOver.conflict ∧
    takeOvers.Pairwise (fun s t => s.place < t.place) ∧
      ∀ t : TakeOver, t ∈ takeOvers ↔ t.Within rs ∧ start ≤ t.place

/-- A report from the next place on is one from this place if nothing is taken over here. -/
theorem ReportsTakeOvers.of_none {rs : List Registration} {start : Nat} {conflicts : List Conflict}
    (h : ReportsTakeOvers rs (start + 1) conflicts)
    (none : ∀ t : TakeOver, t.place = start → ¬t.Within rs) :
    ReportsTakeOvers rs start conflicts := by
  obtain ⟨takeOvers, hmap, hsorted, hmem⟩ := h
  refine ⟨takeOvers, hmap, hsorted, fun t => ?_⟩
  rw [hmem]
  refine and_congr_right fun within => ?_
  have hplace : t.place ≠ start := fun hplace => none t hplace within
  omega

/-- If there is one take-over here, then it comes before those from the next place on. -/
theorem ReportsTakeOvers.of_one {rs : List Registration} {start : Nat} {conflicts : List Conflict}
    (h : ReportsTakeOvers rs (start + 1) conflicts) {t : TakeOver} (place : t.place = start)
    (one : ∀ s : TakeOver, s.place = start → (s.Within rs ↔ s = t)) :
    ReportsTakeOvers rs start (t.conflict :: conflicts) := by
  obtain ⟨takeOvers, rfl, hsorted, hmem⟩ := h
  refine ⟨t :: takeOvers, rfl, List.pairwise_cons.2 ⟨fun s hs => ?_, hsorted⟩, fun s => ?_⟩
  · have hlater : start + 1 ≤ s.place := ((hmem s).1 hs).2
    omega
  · rw [List.mem_cons, hmem]
    by_cases hplace : s.place = start
    · rw [one s hplace]
      constructor
      · rintro (rfl | ⟨rfl, -⟩)
        · exact ⟨rfl, by omega⟩
        · exact ⟨rfl, by omega⟩
      · exact fun hs => .inl hs.1
    · have hne : s ≠ t := fun hs => hplace (hs ▸ place)
      rw [or_iff_right hne]
      refine and_congr_right fun _ => ?_
      omega

/-- The conflicts of registrations report the take-overs among them, where those before them are in
the table. -/
theorem conflictsFrom_reports {seen : Table Name Registration} {done rest : List Registration}
    (h : Tracks seen done) :
    ReportsTakeOvers (done ++ rest) done.length (conflictsFrom seen rest) := by
  -- Each registration moves from what is to come to what was done, and into the table.
  induction rest generalizing seen done with
  | nil =>
    refine ⟨[], rfl, List.Pairwise.nil, fun t => ⟨fun ht => (nomatch ht), ?_⟩⟩
    rintro ⟨⟨here, -, -⟩, hplace⟩
    rw [List.append_nil, List.getElem?_eq_none hplace] at here
    cases here
  | cons r rest ih =>
    have hrest : ReportsTakeOvers (done ++ r :: rest) (done.length + 1)
        (conflictsFrom (seen.insert r.plugin r) rest) := by
      have hreports := ih (h.insert r)
      rw [List.append_assoc, List.length_append] at hreports
      exact hreports
    rcases keeps_or_takes seen r with keeps | ⟨earlier, hseen, hother⟩
    · rw [conflictsFrom_of_keeps keeps]
      refine hrest.of_none fun t place within => ?_
      obtain ⟨-, hearlier, changes⟩ := (TakeOver.within_iff_of_place h place).1 within
      exact changes (keeps t.earlier hearlier)
    · rw [conflictsFrom_of_takes hseen hother]
      refine hrest.of_one (t := ⟨done.length, earlier, r⟩) rfl fun s place => ?_
      rw [TakeOver.within_iff_of_place h place, hseen]
      constructor
      · rintro ⟨hlater, hearlier, -⟩
        cases s
        cases hlater
        cases hearlier
        cases place
        rfl
      · rintro rfl
        exact ⟨rfl, rfl, hother⟩

/-! ## What follows -/

/-- The source that a configuration has for a plugin name. -/
def EffectiveConfiguration.sourceOf? (c : EffectiveConfiguration) (plugin : Name) :
    Option ModuleRef :=
  (c.plugins.find? plugin).map PluginHandle.source

theorem OneSource.perm {fs gs : List Fragment} (source : OneSource fs) (perm : fs.Perm gs) :
    OneSource gs :=
  fun f hf g hg => source f (perm.mem_iff.2 hf) g (perm.mem_iff.2 hg)

/-- If each name has one source, then what a permutation composes for a name has it as well. -/
theorem sourceOf?_flatten_of_perm {fs gs : List Fragment} (source : OneSource fs)
    (perm : fs.Perm gs) {plugin : Name} {ref : ModuleRef}
    (h : (flatten fs).sourceOf? plugin = some ref) :
    (flatten gs).sourceOf? plugin = some ref := by
  obtain ⟨handle, hhandle, rfl⟩ := Option.map_eq_some_iff.1 h
  obtain ⟨f, hf, hfind⟩ := (find?_plugins_flatten_iff.1 hhandle).exists_mem
  obtain ⟨standing, last, heq⟩ := (source.perm perm).standing (perm.mem_iff.1 hf) hfind
  exact Option.map_eq_some_iff.2 ⟨standing, find?_plugins_flatten_iff.2 last, heq⟩

theorem OneSource.sourceOf?_perm {fs gs : List Fragment} (source : OneSource fs)
    (perm : fs.Perm gs) (plugin : Name) :
    (flatten fs).sourceOf? plugin = (flatten gs).sourceOf? plugin := by
  refine Option.ext fun ref => ⟨fun h => ?_, fun h => ?_⟩
  · exact sourceOf?_flatten_of_perm source perm h
  · exact sourceOf?_flatten_of_perm (source.perm perm) perm.symm h

/-- The warning that is logged for a conflict. -/
def Conflict.warning (c : Conflict) : LogEntry :=
  ⟨.warning, "plugin conflict resolved by last fragment: " ++ c.describe⟩

/-- Of what is logged, the warnings are those of the conflicts. -/
theorem warnings_compositionLog (fs : List Fragment) :
    (compositionLog fs).filter (fun entry => entry.level = .warning) =
      (pluginConflicts fs).map Conflict.warning := by
  have hwarnings : ((pluginConflicts fs).map Conflict.warning).filter
      (fun entry => entry.level = .warning) = (pluginConflicts fs).map Conflict.warning := by
    rw [List.filter_eq_self]
    intro entry hentry
    obtain ⟨c, -, rfl⟩ := List.mem_map.1 hentry
    rfl
  show List.filter _ ((pluginConflicts fs).map Conflict.warning ++ [_]) = _
  rw [List.filter_append, hwarnings]
  exact List.append_nil _

/-- **Conflicts are reported exactly.** The conflicts of a list of fragments are the registrations
that take their name over from another source, one for each and in order. So a name is in conflict
exactly if two fragments bind it apart, and without conflicts every permutation of the fragments
composes each name to the same source. Composing goes through in any case and logs one warning for
each conflict, in the same order. -/
theorem pluginConflicts_exact (fs : List Fragment) :
    ReportsTakeOvers (registrations fs) 0 (pluginConflicts fs) ∧
      (∀ plugin, (∃ c ∈ pluginConflicts fs, same plugin c.plugin = true) ↔
        BoundApart fs plugin) ∧
      (fs ≠ [] → pluginConflicts fs = [] → ∀ gs, fs.Perm gs →
        ∃ c d, compose (fs.map .fragment) = .ok c ∧ compose (gs.map .fragment) = .ok d ∧
          ∀ plugin, c.sourceOf? plugin = d.sourceOf? plugin) ∧
      (fs ≠ [] → ∃ c log, composeLogged (fs.map .fragment) = .ok (c, log) ∧
        log.filter (fun entry => entry.level = .warning) =
          (pluginConflicts fs).map Conflict.warning) := by
  refine ⟨?_, fun plugin => exists_conflict_iff, fun hne hnone gs perm => ?_, fun hne => ?_⟩
  · show ReportsTakeOvers ([] ++ registrations fs) 0 (pluginConflicts fs)
    exact conflictsFrom_reports tracks_empty
  · have hgs : gs ≠ [] := fun h => hne (h ▸ perm).eq_nil
    exact ⟨flatten fs, flatten gs, compose_map hne, compose_map hgs,
      (pluginConflicts_eq_nil_iff.1 hnone).sourceOf?_perm perm⟩
  · exact ⟨flatten fs, compositionLog fs, composeLogged_map hne, warnings_compositionLog fs⟩

/-! ### Names taken back and forth -/

/-- The first fragment binds two names, the second one takes one of them over, and the third one
takes it back and takes over the other; in between the other one is declared anew. -/
def contestedSample : List Fragment :=
  [{ name := .str "base"
     plugins := .ofList [("demo", .of ⟨"demo-plugin", none, by decide⟩),
       ("other", .of ⟨"other-plugin", none, by decide⟩)] },
   { name := .str "fork"
     plugins := .ofList [("other", .of ⟨"other-plugin", none, by decide⟩ ["other/typed"]),
       ("demo", .of ⟨"demo-fork", none, by decide⟩)] },
   { name := .str "back"
     plugins := .ofList [("demo", .of ⟨"demo-plugin", none, by decide⟩),
       ("other", .of ⟨"other-plugin", some "flat", by decide⟩)] }]

/-- Two fragments declare different things about one plugin. -/
def redeclaredSample : List Fragment :=
  [{ name := .str "plain", plugins := .ofList [("demo", .of ⟨"demo-plugin", none, by decide⟩)] },
   { name := .str "typed"
     plugins := .ofList [("demo", .of ⟨"demo-plugin", none, by decide⟩ ["demo/typed"])] }]

theorem pluginConflicts_exact_samples :
    contestedSample ≠ [] ∧
      ReportsTakeOvers (registrations contestedSample) 0
        [⟨"demo", .str "base", .str "fork", "demo-plugin", "demo-fork"⟩,
          ⟨"demo", .str "fork", .str "back", "demo-fork", "demo-plugin"⟩,
          ⟨"other", .str "fork", .str "back", "other-plugin", "other-plugin#flat"⟩] ∧
      BoundApart contestedSample "demo" ∧
      (∃ c log, composeLogged (contestedSample.map .fragment) = .ok (c, log) ∧
        (log.filter fun entry => entry.level = .warning).length = 3) ∧
      redeclaredSample ≠ [] ∧ pluginConflicts redeclaredSample = [] ∧
      ∃ c d, compose (redeclaredSample.map .fragment) = .ok c ∧
        compose (redeclaredSample.reverse.map .fragment) = .ok d ∧
        ∀ plugin, c.sourceOf? plugin = d.sourceOf? plugin := by
  have hconflicts : pluginConflicts contestedSample =
      [⟨"demo", .str "base", .str "fork", "demo-plugin", "demo-fork"⟩,
        ⟨"demo", .str "fork", .str "back", "demo-fork", "demo-plugin"⟩,
        ⟨"other", .str "fork", .str "back", "other-plugin", "other-plugin#flat"⟩] := by decide
  have hnone : pluginConflicts redeclaredSample = [] := by decide
  obtain ⟨reported, named, -, logged⟩ := pluginConflicts_exact contestedSample
  obtain ⟨-, -, composed, -⟩ := pluginConflicts_exact redeclaredSample
  rw [hconflicts] at reported named logged
  obtain ⟨c, log, hlog, hwarnings⟩ := logged (by decide)
  refine ⟨by decide, reported, (named "demo").1 ⟨_, List.mem_cons_self, rfl⟩,
    ⟨c, log, hlog, by rw [hwarnings]; rfl⟩, by decide, hnone, ?_⟩
  exact composed (by decide) hnone _ (List.reverse_perm redeclaredSample).symm

end LayeredLint
