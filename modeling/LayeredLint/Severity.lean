/-!
# Severities

- `Severity`: how a rule is configured, with its word and its numeric level.
- `Severity.ofWord?`, `Severity.ofLevel?`: the severity of a word or level.
- `DiagnosticSeverity`: how grave a reported diagnostic is.
-/

namespace LayeredLint

/-- The severity a rule is configured with. -/
inductive Severity where
  | off
  | warn
  | error
  deriving DecidableEq, Repr, Inhabited

namespace Severity

/-- The word for a severity. -/
def word : Severity → String
  | .off => "off"
  | .warn => "warn"
  | .error => "error"

/-- The numeric level of a severity. -/
def level : Severity → Nat
  | .off => 0
  | .warn => 1
  | .error => 2

/-- A rule reports unless it is switched off. -/
def enabled : Severity → Bool
  | .off => false
  | _ => true

/-- The severity a word stands for. -/
def ofWord? (s : String) : Option Severity :=
  if s = "off" then some .off
  else if s = "warn" then some .warn
  else if s = "error" then some .error
  else none

/-- The severity of a numeric level. -/
def ofLevel? : Int → Option Severity
  | 0 => some .off
  | 1 => some .warn
  | 2 => some .error
  | _ => none

@[simp] theorem ofWord?_word (s : Severity) : ofWord? s.word = some s := by
  cases s <;> rfl

theorem ofWord?_eq_some_iff {w : String} {s : Severity} : ofWord? w = some s ↔ w = s.word := by
  constructor
  · intro h
    unfold ofWord? at h
    split at h
    · next hw => cases h; exact hw
    · split at h
      · next hw => cases h; exact hw
      · split at h
        · next hw => cases h; exact hw
        · cases h
  · rintro rfl
    exact ofWord?_word s

theorem ofLevel?_eq_some_iff {n : Int} {s : Severity} : ofLevel? n = some s ↔ n = s.level := by
  constructor
  · intro h
    unfold ofLevel? at h
    split at h <;> cases h <;> rfl
  · rintro rfl
    cases s <;> rfl

end Severity

/-- How grave a diagnostic is. -/
inductive DiagnosticSeverity where
  | warning
  | error
  deriving DecidableEq, Repr, Inhabited

namespace DiagnosticSeverity

/-- The numeric level in reports. -/
def level : DiagnosticSeverity → Nat
  | .warning => 1
  | .error => 2

/-- The word shown in tables. -/
def word : DiagnosticSeverity → String
  | .warning => "warning"
  | .error => "error"

end DiagnosticSeverity

end LayeredLint
