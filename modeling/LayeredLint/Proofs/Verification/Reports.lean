import LayeredLint.CommentEngine
import LayeredLint.Proofs.Sanitizer.Effect

/-!
# What verification reports

Verification hands its sources to an engine under the sanitized configuration and passes on what the
engine says.

- `Engine.ReportsEnabled`: the engine reports a rule only where the configuration it is given has
  the rule enabled.
- `Engine.Emits`: what an engine says about sources, one after another.
- `analyzeAll_eq_ok_iff`, `analyzeAll_eq_error_iff`: a batch is analyzed into what the engine says,
  and fails only where the engine does.
- `commentEngine_reportsEnabled`: the comment engine keeps to the configuration.
- `PassesOn`: verification adds nothing to what the engine says and holds nothing back.
- `verify_reports_no_disabled`: **no rule is reported that needs type information, and nothing else
  is held back**.
-/

namespace LayeredLint

variable {σ : Type}

/-! ## Engines that keep to the configuration -/

/-- The engine reports a rule only where the configuration it is given has the rule enabled. -/
def Engine.ReportsEnabled (engine : Engine σ) : Prop :=
  ∀ call s diagnostics s', engine.analyze call s = (.ok diagnostics, s') →
    ∀ d ∈ diagnostics, ∀ rule, d.ruleId = some rule →
      ∃ setting, call.configuration.rules.find? (.text rule) = some setting ∧
        setting.enabled = true

/-- What an engine says about sources under a configuration, one after another, while its state goes
from one to the next. -/
inductive Engine.Emits (engine : Engine σ) (c : EffectiveConfiguration) :
    List (String × String) → σ → List (List Diagnostic) → σ → Prop where
  | nil (s : σ) : Emits engine c [] s [] s
  | cons {source filename : String} {rest : List (String × String)} {s s₁ s₂ : σ}
      {diagnostics : List Diagnostic} {others : List (List Diagnostic)}
      (here : engine.analyze ⟨source, c, filename⟩ s = (.ok diagnostics, s₁))
      (after : Emits engine c rest s₁ others s₂) :
      Emits engine c ((source, filename) :: rest) s (diagnostics :: others) s₂

/-- None of the rules is reported. -/
def Unreported (rules : List String) (diagnostics : List Diagnostic) : Prop :=
  ∀ d ∈ diagnostics, ∀ rule ∈ rules, d.ruleId ≠ some rule

/-- A rule that is off in the configuration is not reported by one call. -/
theorem Engine.ReportsEnabled.unreported {engine : Engine σ} (h : engine.ReportsEnabled)
    {rules : List String} {call : Call} {s s' : σ} {diagnostics : List Diagnostic}
    (off : ∀ rule ∈ rules, call.configuration.rules.find? (.text rule) = some ⟨.off, []⟩)
    (hcall : engine.analyze call s = (.ok diagnostics, s')) : Unreported rules diagnostics := by
  intro d hd rule hrule hid
  obtain ⟨setting, hsetting, henabled⟩ := h call s diagnostics s' hcall d hd rule hid
  rw [off rule hrule] at hsetting
  cases hsetting
  cases henabled

/-- A rule that is off in the configuration is not reported by any call of a batch. -/
theorem Engine.Emits.unreported {engine : Engine σ} (h : engine.ReportsEnabled)
    {c : EffectiveConfiguration} {rules : List String}
    (off : ∀ rule ∈ rules, c.rules.find? (.text rule) = some ⟨.off, []⟩)
    {snippets : List (String × String)} {s s' : σ} {results : List (List Diagnostic)}
    (hemits : engine.Emits c snippets s results s') :
    ∀ diagnostics ∈ results, Unreported rules diagnostics := by
  induction hemits with
  | nil => exact fun _ hd => (nomatch hd)
  | cons here after ih =>
    intro diagnostics hd
    rcases List.mem_cons.1 hd with rfl | hd
    · exact h.unreported off here
    · exact ih diagnostics hd

/-! ## Batches -/

/-- A batch is analyzed into what the engine says, source by source. -/
theorem analyzeAll_eq_ok_iff {engine : Engine σ} {c : EffectiveConfiguration}
    {snippets : List (String × String)} {s s' : σ} {results : List (List Diagnostic)} :
    engine.analyzeAll c snippets s = (.ok results, s') ↔ engine.Emits c snippets s results s' := by
  induction snippets generalizing s results with
  | nil =>
    constructor
    · intro h
      cases h
      exact .nil _
    · rintro ⟨⟩
      rfl
  | cons snippet rest ih =>
    obtain ⟨source, filename⟩ := snippet
    constructor
    · intro h
      rw [Engine.analyzeAll] at h
      split at h
      · cases h
      · next diagnostics s₁ here =>
        split at h
        · cases h
        · next others s₂ after =>
          cases h
          exact .cons here (ih.1 after)
    · rintro ⟨⟩
      next diagnostics others s₁ here after =>
      rw [Engine.analyzeAll]
      simp only [here, ih.2 after]

/-- A batch fails at the first source that the engine fails at, with its failure. -/
theorem analyzeAll_eq_error_iff {engine : Engine σ} {c : EffectiveConfiguration}
    {snippets : List (String × String)} {s s' : σ} {failure : Failure} :
    engine.analyzeAll c snippets s = (.error failure, s') ↔
      ∃ before source filename after results s₁,
        snippets = before ++ (source, filename) :: after ∧ engine.Emits c before s results s₁ ∧
          engine.analyze ⟨source, c, filename⟩ s₁ = (.error failure, s') := by
  constructor
  · intro h
    induction snippets generalizing s with
    | nil => cases h
    | cons snippet rest ih =>
      obtain ⟨source, filename⟩ := snippet
      rw [Engine.analyzeAll] at h
      split at h
      · next here =>
        cases h
        exact ⟨[], source, filename, rest, [], s, rfl, .nil s, here⟩
      · next here =>
        split at h
        · next hrest =>
          cases h
          obtain ⟨before, source', filename', after, results, s₁, rfl, hemits, hfails⟩ := ih hrest
          exact ⟨_ :: before, source', filename', after, _ :: results, s₁, rfl,
            .cons here hemits, hfails⟩
        · cases h
  · rintro ⟨before, source, filename, after, results, s₁, rfl, hemits, hfails⟩
    -- What comes after the failure is never looked at, so the induction is on what was said before.
    induction hemits with
    | nil s =>
      rw [List.nil_append, Engine.analyzeAll]
      simp only [hfails]
    | cons here _ ih =>
      rw [List.cons_append, Engine.analyzeAll]
      simp only [here, ih hfails]

/-! ## Preparation -/

/-- Preparing is sanitizing, once all names are accepted. -/
theorem prepare_eq_ok_iff {filenames : List String} {c s : EffectiveConfiguration} :
    prepare filenames c = .ok s ↔
      (∀ filename ∈ filenames, Filename.accepted filename = true) ∧ sanitize c = .ok s := by
  rw [prepare, bind_eq_ok]
  constructor
  · rintro ⟨names, hnames, hs⟩
    refine ⟨fun filename hfilename => ?_, hs⟩
    obtain ⟨name, hname⟩ := exists_of_mapM_eq_ok hnames hfilename
    exact (checkFilename_eq_ok_iff.1 hname).1
  · rintro ⟨haccepted, hs⟩
    have hchecked : ∀ filename ∈ filenames, checkFilename filename = .ok filename :=
      fun filename h => checkFilename_eq_ok_iff.2 ⟨haccepted filename h, rfl⟩
    exact ⟨_, mapM_eq_ok_map hchecked, hs⟩

/-! ## Passing on -/

/-- Verification under `c` passes on what the engine says about the sources under `sanitized`,
nothing more and nothing less: of one source, and of each source of a batch, unless the engine
fails at one. -/
structure PassesOn (engine : Engine σ) (c sanitized : EffectiveConfiguration) : Prop where
  one : ∀ source filename s, Filename.accepted filename = true →
    verify engine c source filename s = engine.analyze ⟨source, sanitized, filename⟩ s
  all : ∀ snippets s results s', (∀ e ∈ snippets, Filename.accepted e.2 = true) →
    (verifyMany engine c snippets s = (.ok results, s') ↔
      engine.Emits sanitized snippets s results s')
  failure : ∀ snippets s failure s', (∀ e ∈ snippets, Filename.accepted e.2 = true) →
    (verifyMany engine c snippets s = (.error failure, s') ↔
      ∃ before source filename after results s₁,
        snippets = before ++ (source, filename) :: after ∧
          engine.Emits sanitized before s results s₁ ∧
          engine.analyze ⟨source, sanitized, filename⟩ s₁ = (.error failure, s'))

theorem verify_eq_analyze {engine : Engine σ} {c sanitized : EffectiveConfiguration}
    (hs : sanitize c = .ok sanitized) {filename : String} (h : Filename.accepted filename = true)
    (source : String) (s : σ) :
    verify engine c source filename s = engine.analyze ⟨source, sanitized, filename⟩ s := by
  have hprepare : prepare [filename] c = .ok sanitized :=
    prepare_eq_ok_iff.2 ⟨fun name hname => by rw [List.mem_singleton.1 hname]; exact h, hs⟩
  unfold verify
  rw [hprepare]

theorem verifyMany_eq_analyzeAll {engine : Engine σ} {c sanitized : EffectiveConfiguration}
    (hs : sanitize c = .ok sanitized) {snippets : List (String × String)}
    (h : ∀ e ∈ snippets, Filename.accepted e.2 = true) (s : σ) :
    verifyMany engine c snippets s = engine.analyzeAll sanitized snippets s := by
  have hprepare : prepare (snippets.map Prod.snd) c = .ok sanitized :=
    prepare_eq_ok_iff.2 ⟨fun name hname => by
      obtain ⟨e, he, rfl⟩ := List.mem_map.1 hname
      exact h e he, hs⟩
  unfold verifyMany
  rw [hprepare]

theorem passesOn_sanitized (engine : Engine σ) {c sanitized : EffectiveConfiguration}
    (hs : sanitize c = .ok sanitized) : PassesOn engine c sanitized where
  one source _ s h := verify_eq_analyze hs h source s
  all _ s _ _ h := by rw [verifyMany_eq_analyzeAll hs h, analyzeAll_eq_ok_iff]
  failure _ s _ _ h := by rw [verifyMany_eq_analyzeAll hs h, analyzeAll_eq_error_iff]

/-- Nothing is verified under names that are not all accepted. -/
theorem accepted_of_verifyMany {engine : Engine σ} {c : EffectiveConfiguration}
    {snippets : List (String × String)} {s s' : σ} {results : List (List Diagnostic)}
    (h : verifyMany engine c snippets s = (.ok results, s')) :
    ∀ e ∈ snippets, Filename.accepted e.2 = true := by
  unfold verifyMany at h
  split at h
  · cases h
  · next hprepare =>
    exact fun e he => (prepare_eq_ok_iff.1 hprepare).1 e.2 (List.mem_map_of_mem he)

theorem accepted_of_verify {engine : Engine σ} {c : EffectiveConfiguration}
    {source filename : String} {s s' : σ} {diagnostics : List Diagnostic}
    (h : verify engine c source filename s = (.ok diagnostics, s')) :
    Filename.accepted filename = true := by
  unfold verify at h
  split at h
  · cases h
  · next hprepare => exact (prepare_eq_ok_iff.1 hprepare).1 filename List.mem_cons_self

/-! ## The comment engine -/

/-- What the comment engine reports of a rule, the configuration has enabled. -/
theorem enabled_of_answer? {c : EffectiveConfiguration} {r : CommentEngine.Request}
    {d : Diagnostic} (h : CommentEngine.answer? c r = some d) :
    d.ruleId = some r.rule ∧
      ∃ setting, c.rules.find? (.text r.rule) = some setting ∧ setting.enabled = true := by
  obtain ⟨setting, hsetting, h⟩ := Option.bind_eq_some_iff.1 h
  obtain ⟨severity, hseverity, h⟩ := Option.bind_eq_some_iff.1 h
  cases h
  refine ⟨rfl, setting, hsetting, ?_⟩
  show setting.severity.enabled = true
  cases hoff : setting.severity with
  | off => rw [hoff] at hseverity; cases hseverity
  | warn => rfl
  | error => rfl

theorem commentEngine_reportsEnabled : commentEngine.ReportsEnabled := by
  intro call s diagnostics s' hcall d hd rule hid
  cases hcall
  unfold CommentEngine.diagnostics at hd
  split at hd
  · -- A source that cannot be parsed is reported without a rule.
    rw [List.mem_singleton.1 hd] at hid
    cases hid
  · obtain ⟨r, -, hanswer⟩ := List.mem_filterMap.1 hd
    obtain ⟨hrule, henabled⟩ := enabled_of_answer? hanswer
    rw [hid] at hrule
    cases hrule
    exact henabled

/-! ## Rules that need type information -/

/-- **No rule is reported that needs type information**, by any engine that keeps to the
configuration, and the comment engine is one. Apart from that verification passes on all that the
engine says. -/
theorem verify_reports_no_disabled :
    commentEngine.ReportsEnabled ∧
      ∀ {σ : Type} (engine : Engine σ), engine.ReportsEnabled →
        ∀ c : EffectiveConfiguration, (∀ f ∈ c.fragments, f.Made) → c.NamesTypeAware →
          ∃ sanitized, sanitize c = .ok sanitized ∧ PassesOn engine c sanitized ∧
            (∀ source filename s diagnostics s',
              verify engine c source filename s = (.ok diagnostics, s') →
                Unreported (disabledRules c) diagnostics) ∧
            ∀ snippets s results s', verifyMany engine c snippets s = (.ok results, s') →
              ∀ diagnostics ∈ results, Unreported (disabledRules c) diagnostics := by
  refine ⟨commentEngine_reportsEnabled, fun engine honest c made named => ?_⟩
  have hs := sanitize_eq made named
  have off := fun rule (hrule : rule ∈ disabledRules c) =>
    find?_flatten_off c.fragments (pairwise_disabledRules c) hrule
  have passes := passesOn_sanitized engine hs
  refine ⟨_, hs, passes, ?_, ?_⟩
  · intro source filename s diagnostics s' h
    rw [passes.one source filename s (accepted_of_verify h)] at h
    exact honest.unreported off h
  · intro snippets s results s' h
    rw [passes.all snippets s results s' (accepted_of_verifyMany h)] at h
    exact h.unreported honest off

/-- A comment asks for a rule that needs types, and for one that does not. -/
def demoSource : String := "x() // trigger: demo/typed // trigger: demo/plain"

theorem verify_reports_no_disabled_typedSample :
    commentEngine.ReportsEnabled ∧ (∀ f ∈ (flatten typedSample).fragments, f.Made) ∧
      (flatten typedSample).NamesTypeAware ∧
      ∃ diagnostics calls,
        verify commentEngine (flatten typedSample) demoSource "a.ts" [] =
            (.ok diagnostics, calls) ∧
          diagnostics.map Diagnostic.ruleId = [some "demo/plain"] ∧
          Unreported (disabledRules (flatten typedSample)) diagnostics := by
  have named := namesTypeAware_flatten named_typedSample
  refine ⟨commentEngine_reportsEnabled, made_typedSample, named, ?_⟩
  obtain ⟨_, -, passes, unreported, -⟩ := verify_reports_no_disabled.2 commentEngine
    commentEngine_reportsEnabled (flatten typedSample) made_typedSample named
  have h := passes.one demoSource "a.ts" [] (by decide)
  have hids : (verify commentEngine (flatten typedSample) demoSource "a.ts" []).1.toOption.map
      (List.map Diagnostic.ruleId) = some [some "demo/plain"] := by decide +kernel
  rw [h] at hids
  exact ⟨_, _, h, Option.some.inj hids, unreported _ _ _ _ _ h⟩

end LayeredLint
