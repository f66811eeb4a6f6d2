import LayeredLint.Composition

/-!
# Provenance of rules

- `Assignment`: one assignment of a rule by a fragment, with the setting it replaces.
- `traceFrom`: the assignments of a list of fragments, given the settings so far.
- `traceRules`: the assignments of a sequence, in order of composition.
-/

namespace LayeredLint

/-- One assignment of a rule by a fragment. -/
structure Assignment where
  rule : Name
  fragment : Value
  setting : RuleSetting
  /-- The setting that is replaced, none for the first assignment of the rule. -/
  previous : Option RuleSetting
  deriving DecidableEq

/-- The assignment replaces an earlier one. -/
def Assignment.overrides (a : Assignment) : Bool :=
  a.previous.isSome

/-- The rules of a fragment one by one, each with the fragment's name. -/
def ruleSteps (fragments : List Fragment) : List (Value × Name × RuleSetting) :=
  fragments.flatMap fun f => f.rules.entries.map (f.name, ·)

/-- The assignments of steps, given the settings so far. -/
def traceFrom (current : Table Name RuleSetting) :
    List (Value × Name × RuleSetting) → List Assignment
  | [] => []
  | (fragment, rule, setting) :: rest =>
    ⟨rule, fragment, setting, current.find? rule⟩ :: traceFrom (current.insert rule setting) rest

/-- Every assignment made while a sequence is composed, in order. -/
def traceRules (items : List Item) : Except Failure (List Assignment) := do
  let fragments ← validated items
  return traceFrom .empty (ruleSteps fragments)

end LayeredLint
