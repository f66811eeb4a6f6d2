import LayeredLint.Diagnostic
import LayeredLint.Sanitizer

/-!
# Verification

A source is verified by handing it to an engine under a sanitized configuration.

- `Engine`: what analyzes one source at a time, with a state of its own.
- `prepare`: the checks and the sanitizing that come before any source is handed over.
- `verify`, `verifyMany`: one source, or several under one configuration.
-/

namespace LayeredLint

/-- What an engine is asked: to analyze a source under a configuration. The filename selects the
parser. -/
structure Call where
  source : String
  configuration : EffectiveConfiguration
  filename : String

/-- What analyzes one source at a time. The state is the engine's own: files, processes, counts. -/
structure Engine (σ : Type) where
  analyze : Call → σ → Except Failure (List Diagnostic) × σ

/-- The name of a source that has none. -/
def defaultFilename : String := "test.ts"

/-- The configuration that the sources of the given names are analyzed under. All names are checked
first. -/
def prepare (filenames : List String) (c : EffectiveConfiguration) :
    Except Failure EffectiveConfiguration := do
  let _ ← filenames.mapM checkFilename
  sanitize c

/-- Analyze sources one after another, up to the first failure. -/
def Engine.analyzeAll {σ : Type} (engine : Engine σ) (c : EffectiveConfiguration) :
    List (String × String) → σ → Except Failure (List (List Diagnostic)) × σ
  | [], s => (.ok [], s)
  | (source, filename) :: rest, s =>
    match engine.analyze ⟨source, c, filename⟩ s with
    | (.error failure, s) => (.error failure, s)
    | (.ok diagnostics, s) =>
      match engine.analyzeAll c rest s with
      | (.error failure, s) => (.error failure, s)
      | (.ok others, s) => (.ok (diagnostics :: others), s)

/-- The diagnostics of a source under a configuration, in the engine's order. -/
def verify {σ : Type} (engine : Engine σ) (c : EffectiveConfiguration) (source : String)
    (filename : String) (s : σ) : Except Failure (List Diagnostic) × σ :=
  match prepare [filename] c with
  | .error failure => (.error failure, s)
  | .ok sanitized => engine.analyze ⟨source, sanitized, filename⟩ s

/-- The diagnostics of each source, given with its name, under one configuration. -/
def verifyMany {σ : Type} (engine : Engine σ) (c : EffectiveConfiguration)
    (snippets : List (String × String)) (s : σ) : Except Failure (List (List Diagnostic)) × σ :=
  match prepare (snippets.map Prod.snd) c with
  | .error failure => (.error failure, s)
  | .ok sanitized => engine.analyzeAll sanitized snippets s

end LayeredLint
