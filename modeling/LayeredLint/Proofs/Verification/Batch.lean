import LayeredLint.Proofs.Verification.Reports
import LayeredLint.ScriptedEngine

/-!
# Batches and single sources

A batch is verified under one sanitized configuration, with all names checked first; a single source
is sanitized for and checked on its own. Here a batch is compared with its sources verified one by
one.

- `verifyEach`: sources verified one by one, each with its own checks.
- `analyzeAll_cons_ok`, `analyzeAll_append`: what a batch amounts to from its second source on, and
  from the middle on.
- `Engine.recorded`: an engine with a record of what it is asked.
- `analyzeAll_recorded`: keeping the record changes nothing.
- `verifyMany_refused`: a batch with a name that is not accepted never gets to the engine.
- `OneByOne`: a batch is its sources verified one by one.
- `verifyMany_oneByOne`: **every batch is, for every engine**.
-/

namespace LayeredLint

variable {σ : Type}

/-! ## Sources one by one -/

/-- A step for each source of a batch, one after another up to the first failure. -/
def inTurn (step : String → String → σ → Except Failure (List Diagnostic) × σ) :
    List (String × String) → σ → Except Failure (List (List Diagnostic)) × σ
  | [], s => (.ok [], s)
  | (source, filename) :: rest, s =>
    match step source filename s with
    | (.error failure, s) => (.error failure, s)
    | (.ok diagnostics, s) =>
      match inTurn step rest s with
      | (.error failure, s) => (.error failure, s)
      | (.ok others, s) => (.ok (diagnostics :: others), s)

/-- The diagnostics of sources that are verified one by one. -/
def verifyEach (engine : Engine σ) (c : EffectiveConfiguration) (snippets : List (String × String))
    (s : σ) : Except Failure (List (List Diagnostic)) × σ :=
  inTurn (verify engine c) snippets s

/-- Steps that do what the engine does make up a batch of the engine. -/
theorem inTurn_eq_analyzeAll {engine : Engine σ} {c : EffectiveConfiguration}
    {step : String → String → σ → Except Failure (List Diagnostic) × σ}
    {snippets : List (String × String)}
    (h : ∀ e ∈ snippets, ∀ s, step e.1 e.2 s = engine.analyze ⟨e.1, c, e.2⟩ s) (s : σ) :
    inTurn step snippets s = engine.analyzeAll c snippets s := by
  induction snippets generalizing s with
  | nil => rfl
  | cons snippet rest ih =>
    obtain ⟨source, filename⟩ := snippet
    have hhere := h (source, filename) List.mem_cons_self s
    have hrest : inTurn step rest = engine.analyzeAll c rest :=
      funext (ih fun e he => h e (List.mem_cons_of_mem _ he))
    rewrite [inTurn, Engine.analyzeAll, hhere, hrest]
    rfl

/-- Sanitizing again for each source makes no difference to the engine. -/
theorem verifyEach_eq_analyzeAll {engine : Engine σ} {c sanitized : EffectiveConfiguration}
    (hs : sanitize c = .ok sanitized) {snippets : List (String × String)}
    (h : ∀ e ∈ snippets, Filename.accepted e.2 = true) (s : σ) :
    verifyEach engine c snippets s = engine.analyzeAll sanitized snippets s :=
  inTurn_eq_analyzeAll (fun e he => verify_eq_analyze hs (h e he) e.1) s

/-! ## Steps of a batch -/

/-- A source that the engine fails at ends the batch. -/
theorem analyzeAll_cons_error {engine : Engine σ} {c : EffectiveConfiguration}
    {source filename : String} {s s₁ : σ} {failure : Failure}
    (h : engine.analyze ⟨source, c, filename⟩ s = (.error failure, s₁))
    (rest : List (String × String)) :
    engine.analyzeAll c ((source, filename) :: rest) s = (.error failure, s₁) := by
  rw [Engine.analyzeAll]
  simp only [h]

/-- After a source that is analyzed the others are analyzed as a batch of their own. -/
theorem analyzeAll_cons_ok {engine : Engine σ} {c : EffectiveConfiguration}
    {source filename : String} {s s₁ : σ} {diagnostics : List Diagnostic}
    (h : engine.analyze ⟨source, c, filename⟩ s = (.ok diagnostics, s₁))
    (rest : List (String × String)) :
    engine.analyzeAll c ((source, filename) :: rest) s =
      ((engine.analyzeAll c rest s₁).1.map (diagnostics :: ·), (engine.analyzeAll c rest s₁).2) := by
  rw [Engine.analyzeAll]
  simp only [h]
  cases engine.analyzeAll c rest s₁ with
  | mk result s₂ => cases result <;> rfl

/-! ## What an engine is asked -/

/-- What an engine is asked about a source of a batch. -/
def Call.about (c : EffectiveConfiguration) (snippet : String × String) : Call :=
  ⟨snippet.1, c, snippet.2⟩

/-- The engine with a record of the calls it was given, in order. A call that fails is recorded
too. -/
def Engine.recorded (engine : Engine σ) : Engine (σ × List Call) where
  analyze call s := ((engine.analyze call s.1).1, (engine.analyze call s.1).2, s.2 ++ [call])

/-- Keeping the record changes nothing. It holds the first sources of the batch, and all of them
where the batch succeeds. -/
theorem analyzeAll_recorded (engine : Engine σ) (c : EffectiveConfiguration)
    (snippets : List (String × String)) (s : σ) (record : List Call) :
    ∃ asked, asked <+: snippets ∧
      engine.recorded.analyzeAll c snippets (s, record) =
        ((engine.analyzeAll c snippets s).1, (engine.analyzeAll c snippets s).2,
          record ++ asked.map (Call.about c)) ∧
      ((engine.analyzeAll c snippets s).1.isOk = true → asked = snippets) := by
  induction snippets generalizing s record with
  | nil => exact ⟨[], List.prefix_rfl, by rw [List.map_nil, List.append_nil]; rfl, fun _ => rfl⟩
  | cons snippet rest ih =>
    obtain ⟨source, filename⟩ := snippet
    have hrecorded : engine.recorded.analyze ⟨source, c, filename⟩ (s, record) =
        ((engine.analyze ⟨source, c, filename⟩ s).1, (engine.analyze ⟨source, c, filename⟩ s).2,
          record ++ [⟨source, c, filename⟩]) := rfl
    cases hanswer : engine.analyze ⟨source, c, filename⟩ s with
    | mk answer s₁ =>
      rw [hanswer] at hrecorded
      cases answer with
      | error failure =>
        -- the failing call is the last one on the record
        rw [analyzeAll_cons_error hanswer, analyzeAll_cons_error hrecorded]
        refine ⟨[(source, filename)], ?_, rfl, fun h => nomatch h⟩
        exact List.cons_prefix_cons.2 ⟨rfl, List.nil_prefix⟩
      | ok diagnostics =>
        rw [analyzeAll_cons_ok hanswer, analyzeAll_cons_ok hrecorded]
        obtain ⟨asked, hprefix, hrun, hall⟩ := ih s₁ (record ++ [⟨source, c, filename⟩])
        refine ⟨(source, filename) :: asked, List.cons_prefix_cons.2 ⟨rfl, hprefix⟩, ?_, ?_⟩
        · show (Except.map _ (engine.recorded.analyzeAll c rest (s₁, _)).1, _) = _
          rw [hrun, List.append_assoc]
          rfl
        · intro hok
          refine congrArg _ (hall ?_)
          cases hrest : (engine.analyzeAll c rest s₁).1 with
          | error failure => rw [hrest] at hok; cases hok
          | ok others => rfl

/-! ## The middle of a batch -/

/-- Once the first sources are analyzed, the others are analyzed as a batch of their own. -/
theorem analyzeAll_append {engine : Engine σ} {c : EffectiveConfiguration}
    {before : List (String × String)} {s s₁ : σ} {results : List (List Diagnostic)}
    (h : engine.analyzeAll c before s = (.ok results, s₁)) (after : List (String × String)) :
    engine.analyzeAll c (before ++ after) s =
      ((engine.analyzeAll c after s₁).1.map (results ++ ·), (engine.analyzeAll c after s₁).2) := by
  induction before generalizing s results with
  | nil =>
    cases h
    rw [List.nil_append]
    cases engine.analyzeAll c after s₁ with
    | mk result s₂ => cases result <;> rfl
  | cons snippet rest ih =>
    obtain ⟨source, filename⟩ := snippet
    obtain ⟨⟩ | ⟨here, others⟩ := analyzeAll_eq_ok_iff.1 h
    rw [List.cons_append, analyzeAll_cons_ok here, ih (analyzeAll_eq_ok_iff.2 others)]
    cases (engine.analyzeAll c after s₁).1 <;> rfl

/-! ## Names that are not accepted -/

theorem mapM_checkFilename_refused {filenames : List String}
    (h : ∃ filename ∈ filenames, Filename.accepted filename = false) :
    ∃ filename ∈ filenames, Filename.accepted filename = false ∧
      filenames.mapM checkFilename = invalid (.unknownExtension filename) := by
  induction filenames with
  | nil =>
    obtain ⟨_, hmem, -⟩ := h
    cases hmem
  | cons filename rest ih =>
    by_cases hhere : Filename.accepted filename = true
    · -- the name that is refused comes later
      have hrest : ∃ name ∈ rest, Filename.accepted name = false := by
        obtain ⟨name, hname, hrefused⟩ := h
        rcases List.mem_cons.1 hname with rfl | hname
        · rw [hhere] at hrefused
          cases hrefused
        · exact ⟨name, hname, hrefused⟩
      obtain ⟨name, hname, hrefused, hmap⟩ := ih hrest
      refine ⟨name, List.mem_cons_of_mem _ hname, hrefused, ?_⟩
      rw [List.mapM_cons, checkFilename, if_pos hhere, hmap]
      rfl
    · refine ⟨filename, List.mem_cons_self, by simpa using hhere, ?_⟩
      rw [List.mapM_cons, checkFilename, if_neg hhere]
      rfl

/-- A batch with a name that is not accepted is refused before the engine comes in. -/
theorem verifyMany_refused (engine : Engine σ) (c : EffectiveConfiguration)
    {snippets : List (String × String)}
    (h : ∃ e ∈ snippets, Filename.accepted e.2 = false) (s : σ) :
    ∃ e ∈ snippets, Filename.accepted e.2 = false ∧
      verifyMany engine c snippets s = (invalid (.unknownExtension e.2), s) := by
  have hnames : ∃ filename ∈ snippets.map Prod.snd, Filename.accepted filename = false := by
    obtain ⟨e, he, hrefused⟩ := h
    exact ⟨e.2, List.mem_map_of_mem he, hrefused⟩
  obtain ⟨filename, hmem, hrefused, hmap⟩ := mapM_checkFilename_refused hnames
  obtain ⟨e, he, rfl⟩ := List.mem_map.1 hmem
  refine ⟨e, he, hrefused, ?_⟩
  unfold verifyMany prepare
  rw [hmap]
  rfl

/-! ## Batches -/

/-- A batch is its sources verified one by one, under `c` with the sanitized configuration
`sanitized`: the engine is asked the same, in the same order, and is left in the same state, with
the same results or the same failure. What it says about one source, be it fatal or not, changes
nothing for the others. A batch with a name that is not accepted is refused without asking. -/
structure OneByOne (engine : Engine σ) (c sanitized : EffectiveConfiguration) : Prop where
  run : ∀ snippets s, (∀ e ∈ snippets, Filename.accepted e.2 = true) →
    verifyMany engine c snippets s = verifyEach engine c snippets s
  calls : ∀ snippets s, (∀ e ∈ snippets, Filename.accepted e.2 = true) →
    verifyMany engine.recorded c snippets (s, []) = verifyEach engine.recorded c snippets (s, []) ∧
    ∃ asked, asked <+: snippets ∧
      verifyMany engine.recorded c snippets (s, []) =
        ((verifyMany engine c snippets s).1, (verifyMany engine c snippets s).2,
          asked.map fun e => ⟨e.1, sanitized, e.2⟩) ∧
      ((verifyMany engine c snippets s).1.isOk = true → asked = snippets)
  isolated : ∀ before source filename after s results s₁ diagnostics s₂,
    (∀ e ∈ before ++ (source, filename) :: after, Filename.accepted e.2 = true) →
    verifyMany engine c before s = (.ok results, s₁) →
    verify engine c source filename s₁ = (.ok diagnostics, s₂) →
    verifyMany engine c (before ++ (source, filename) :: after) s =
      ((verifyMany engine c after s₂).1.map fun others => results ++ diagnostics :: others,
        (verifyMany engine c after s₂).2)
  refused : ∀ snippets s, (∃ e ∈ snippets, Filename.accepted e.2 = false) →
    ∃ e ∈ snippets, Filename.accepted e.2 = false ∧
      verifyMany engine.recorded c snippets (s, []) =
        (.error (.configuration (.unknownExtension e.2)), (s, []))

/-- **A batch is its sources verified one by one**, for every engine and every configuration that
can be sanitized. -/
theorem verifyMany_oneByOne {c sanitized : EffectiveConfiguration}
    (hs : sanitize c = .ok sanitized) (engine : Engine σ) : OneByOne engine c sanitized where
  run _ s h := by rw [verifyMany_eq_analyzeAll hs h, verifyEach_eq_analyzeAll hs h]
  calls snippets s h := by
    rw [verifyMany_eq_analyzeAll hs h, verifyMany_eq_analyzeAll hs h, verifyEach_eq_analyzeAll hs h]
    exact ⟨rfl, analyzeAll_recorded engine sanitized snippets s []⟩
  isolated before source filename after s results s₁ diagnostics s₂ h hbefore hhere := by
    obtain ⟨accepted, h'⟩ := List.forall_mem_append.1 h
    obtain ⟨haccepted, hafter⟩ := List.forall_mem_cons.1 h'
    rw [verifyMany_eq_analyzeAll hs accepted] at hbefore
    rw [verify_eq_analyze hs haccepted] at hhere
    rw [verifyMany_eq_analyzeAll hs h, verifyMany_eq_analyzeAll hs hafter,
      analyzeAll_append hbefore, analyzeAll_cons_ok hhere]
    cases (engine.analyzeAll sanitized after s₂).1 <;> rfl
  refused _snippets s h := verifyMany_refused engine.recorded c h (s, [])

/-- The first source cannot be parsed, the second one can. -/
def demoBatch : List (String × String) :=
  [("!fatal oops", "a.ts"), ("!null fine", "b.ts")]

theorem verifyMany_oneByOne_demoBatch :
    ∃ sanitized, sanitize (flatten typedSample) = .ok sanitized ∧
      OneByOne scriptedEngine (flatten typedSample) sanitized ∧
      (∀ e ∈ demoBatch, Filename.accepted e.2 = true) ∧
      (verifyEach scriptedEngine (flatten typedSample) demoBatch []).1.map
          (List.map (List.map Diagnostic.fatal)) = .ok [[true], [false]] := by
  have hs := sanitize_eq made_typedSample (namesTypeAware_flatten named_typedSample)
  refine ⟨_, hs, verifyMany_oneByOne hs scriptedEngine, by decide, ?_⟩
  rw [verifyEach_eq_analyzeAll hs (by decide)]
  rfl

end LayeredLint
