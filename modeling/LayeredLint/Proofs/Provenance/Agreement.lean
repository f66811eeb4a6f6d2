import LayeredLint.Proofs.Composition.Flatten
import LayeredLint.Provenance

/-!
# Traces and compositions

A trace and a composition go over the same assignments, each with a table of its own. Here the two
are held together.

- `traceRules_eq_error_iff`: a sequence is traced where it is composed, and refused for the same
  reason.
- `steps_traceFrom`, `previous_traceFrom`, `keys_assign_traceFrom`: what a trace says at each step
  about the table that the steps before it make.
- `LatestBefore`: the latest of some assignments that is one of a rule.
- `Tells`: a trace tells how a configuration came about.
- `traceRules_tells_composition`: **the trace of a list of fragments tells how their configuration
  came about**.
-/

namespace LayeredLint

/-! ## Refusals -/

theorem traceRules_eq_error_iff (items : List Item) (failure : Failure) :
    traceRules items = .error failure ↔ compose items = .error failure := by
  unfold traceRules compose composeLogged
  cases validated items with
  | error refused => exact ⟨fun h => by cases h; rfl, fun h => by cases h; rfl⟩
  | ok fragments => exact ⟨fun h => (nomatch h), fun h => (nomatch h)⟩

theorem traceRules_map {fragments : List Fragment} (h : fragments ≠ []) :
    traceRules (fragments.map .fragment) = .ok (traceFrom .empty (ruleSteps fragments)) := by
  have hitems : (fragments.map Item.fragment).isEmpty = false := by simpa using h
  rw [traceRules, validated, hitems, if_neg (by simp), fragmentsOf_map]
  rfl

/-! ## What a trace says at each step -/

namespace Assignment

/-- What is assigned: the rule and its setting. -/
def entry (a : Assignment) : Name × RuleSetting :=
  (a.rule, a.setting)

/-- The step that is traced: what is assigned, and by which fragment. -/
def step (a : Assignment) : Value × Name × RuleSetting :=
  (a.fragment, a.entry)

end Assignment

/-- Every step is traced, in order and unchanged. -/
theorem steps_traceFrom (current : Table Name RuleSetting)
    (steps : List (Value × Name × RuleSetting)) :
    (traceFrom current steps).map Assignment.step = steps := by
  induction steps generalizing current with
  | nil => rfl
  | cons step rest ih =>
    obtain ⟨fragment, rule, setting⟩ := step
    rw [traceFrom, List.map_cons, ih]
    rfl

theorem entries_traceFrom (current : Table Name RuleSetting)
    (steps : List (Value × Name × RuleSetting)) :
    (traceFrom current steps).map Assignment.entry = steps.map Prod.snd := by
  have h := congrArg (List.map Prod.snd) (steps_traceFrom current steps)
  rw [List.map_map] at h
  exact h

/-- At each step the trace looks a rule up in the table that the steps before it make. -/
theorem previous_traceFrom {current : Table Name RuleSetting}
    {steps : List (Value × Name × RuleSetting)} {before after : List Assignment} {a : Assignment}
    (h : traceFrom current steps = before ++ a :: after) :
    a.previous = (current.assign (before.map Assignment.entry)).find? a.rule := by
  induction before generalizing current steps with
  | nil =>
    cases steps with
    | nil => cases h
    | cons step rest => cases h; rfl
  | cons b before ih =>
    cases steps with
    | nil => cases h
    | cons step rest =>
      obtain ⟨fragment, rule, setting⟩ := step
      rw [traceFrom, List.cons_append] at h
      injection h with hb hrest
      subst hb
      -- the first step is in the table that the rest of the trace starts with
      exact ih hrest

/-- The steps that replace nothing add their rules behind the keys of the table, in order. -/
theorem keys_assign_traceFrom (current : Table Name RuleSetting)
    (steps : List (Value × Name × RuleSetting)) :
    (current.assign (steps.map Prod.snd)).keys = current.keys ++
      ((traceFrom current steps).filter fun a => !a.overrides).map Assignment.rule := by
  induction steps generalizing current with
  | nil => exact (List.append_nil _).symm
  | cons step rest ih =>
    obtain ⟨fragment, rule, setting⟩ := step
    have hassign : current.assign (((fragment, rule, setting) :: rest).map Prod.snd) =
        (current.insert rule setting).assign (rest.map Prod.snd) := rfl
    rw [hassign, ih, Table.keys_insert, traceFrom, List.filter_cons]
    have hoverrides : Assignment.overrides ⟨rule, fragment, setting, current.find? rule⟩ =
        current.contains rule := rfl
    rw [hoverrides]
    by_cases hc : current.contains rule = true
    · rw [if_pos hc, hc, if_neg (by decide)]
    · have hnew : (!current.contains rule) = true := by simpa using hc
      rw [if_neg hc, if_pos hnew, List.map_cons, List.append_assoc]
      rfl

/-! ## The latest assignment of a rule -/

/-- The latest of some assignments that is one of a rule has a setting. -/
def LatestBefore (assignments : List Assignment) (rule : Name) (setting : RuleSetting) : Prop :=
  ∃ earlier b between, assignments = earlier ++ b :: between ∧ same rule b.rule = true ∧
    b.setting = setting ∧ ∀ b' ∈ between, same rule b'.rule = false

/-- Assignments one after another leave a rule with the setting of the latest one. -/
theorem find?_assign_eq_some_iff {assignments : List Assignment} {rule : Name}
    {setting : RuleSetting} :
    (Table.empty.assign (assignments.map Assignment.entry)).find? rule = some setting ↔
      LatestBefore assignments rule setting := by
  have hlast : (Table.empty.assign (assignments.map Assignment.entry)).find? rule =
      Entries.find? rule (assignments.reverse.map Assignment.entry) := by
    show Entries.find? rule (Entries.union [] _) = _
    rw [Entries.find?_union_reverse, ← List.map_reverse]
    exact Option.or_none
  rw [hlast, Entries.find?_map_eq_some_iff]
  -- the look-up goes from the last assignment to the first, so the split is turned around
  constructor
  · rintro ⟨between, b, earlier, hsplit, hb, hsetting, hbetween⟩
    refine ⟨earlier.reverse, b, between.reverse, ?_, hb, hsetting, fun b' hb' => ?_⟩
    · simpa using congrArg List.reverse hsplit
    · exact hbetween b' (List.mem_reverse.1 hb')
  · rintro ⟨earlier, b, between, rfl, hb, hsetting, hbetween⟩
    refine ⟨between.reverse, b, earlier.reverse, ?_, hb, hsetting, fun b' hb' => ?_⟩
    · rw [List.reverse_append, List.reverse_cons, List.append_assoc]
      rfl
    · exact hbetween b' (List.mem_reverse.1 hb')

/-- A rule that was never assigned has no setting. -/
theorem find?_assign_eq_none_iff {assignments : List Assignment} {rule : Name} :
    (Table.empty.assign (assignments.map Assignment.entry)).find? rule = none ↔
      ∀ b ∈ assignments, same rule b.rule = false := by
  show Entries.find? rule (Entries.union [] _) = none ↔ _
  rw [Entries.find?_union_reverse, ← List.map_reverse]
  show (Entries.find? rule (assignments.reverse.map Assignment.entry)).or none = none ↔ _
  rw [Option.or_none, Entries.find?_eq_none_iff]
  constructor
  · intro h b hb
    exact h b.entry (List.mem_map_of_mem (List.mem_reverse.2 hb))
  · intro h e he
    obtain ⟨b, hb, rfl⟩ := List.mem_map.1 he
    exact h b (List.mem_reverse.1 hb)

/-! ## The trace of a list of fragments -/

/-- Composing makes the assignments of all fragments one after another. -/
theorem rules_flatten_eq_assign (fragments : List Fragment) :
    (flatten fragments).rules = Table.empty.assign ((ruleSteps fragments).map Prod.snd) := by
  have hsteps : (ruleSteps fragments).map Prod.snd =
      fragments.flatMap fun f => f.rules.entries := by
    rw [ruleSteps, List.map_flatMap]
    refine congrArg (List.flatMap · fragments) (funext fun f => ?_)
    rw [List.map_map]
    exact List.map_id _
  have hentries : (flatten fragments).rules.entries =
      fragments.foldl (fun entries f => Entries.union entries f.rules.entries) [] :=
    (List.foldl_hom Table.entries fun _ _ => rfl).symm
  refine Table.ext ?_
  rw [hsteps, hentries]
  show _ = (fragments.flatMap fun f => f.rules.entries).foldl _ []
  rw [List.foldl_flatMap]
  rfl

theorem foldl_insert_eq_assign (t : Table Name RuleSetting) (trace : List Assignment) :
    trace.foldl (fun rules a => rules.insert a.rule a.setting) t =
      t.assign (trace.map Assignment.entry) := by
  induction trace generalizing t with
  | nil => rfl
  | cons a rest ih => exact ih _

/-- A trace tells how the configuration `c` of the fragments `fs` came about: it has the
assignments of the fragments, each with the setting that it replaces; made one after another they
give the rules of `c`; and those that replace nothing stand for the rules of `c` one by one. -/
structure Tells (fs : List Fragment) (c : EffectiveConfiguration) (trace : List Assignment) :
    Prop where
  steps : trace.map (fun a => (a.fragment, a.rule, a.setting)) =
    fs.flatMap fun f => f.rules.entries.map fun e => (f.name, e.1, e.2)
  previous : ∀ before a after, trace = before ++ a :: after →
    ∀ setting, a.previous = some setting ↔ LatestBefore before a.rule setting
  first : ∀ before a after, trace = before ++ a :: after →
    (a.previous = none ↔ ∀ b ∈ before, same a.rule b.rule = false)
  replay : trace.foldl (fun rules a => rules.insert a.rule a.setting) Table.empty = c.rules
  firsts : (trace.filter fun a => !a.overrides).map Assignment.rule = c.rules.keys

theorem traceFrom_tells (fragments : List Fragment) :
    Tells fragments (flatten fragments) (traceFrom .empty (ruleSteps fragments)) where
  steps := steps_traceFrom .empty (ruleSteps fragments)
  previous _ _ _ h _ := by rw [previous_traceFrom h, find?_assign_eq_some_iff]
  first _ _ _ h := by rw [previous_traceFrom h, find?_assign_eq_none_iff]
  replay := by
    rw [rules_flatten_eq_assign, ← entries_traceFrom .empty]
    exact foldl_insert_eq_assign .empty _
  firsts := by
    rw [rules_flatten_eq_assign, keys_assign_traceFrom]
    rfl

/-- **The trace tells how the configuration came about.** A sequence is refused by one exactly if
it is refused by the other, for the same reason; every list of fragments that can be composed has a
trace, and the trace tells how its configuration came about. -/
theorem traceRules_tells_composition :
    (∀ items failure, traceRules items = .error failure ↔ compose items = .error failure) ∧
    ∀ fragments : List Fragment, fragments ≠ [] →
      ∃ c trace, compose (fragments.map .fragment) = .ok c ∧
        traceRules (fragments.map .fragment) = .ok trace ∧ Tells fragments c trace :=
  ⟨traceRules_eq_error_iff, fun fragments h =>
    ⟨_, _, compose_map h, traceRules_map h, traceFrom_tells fragments⟩⟩

/-- Two fragments of one name; the second one assigns a rule as it was, and another one anew. -/
def reassigningSample : List Fragment :=
  [{ name := .str "demo", rules := .ofList [("a/x", .error), ("a/y", ⟨.warn, [.int 1]⟩)] },
   { name := .str "demo", rules := .ofList [("a/y", ⟨.warn, [.int 1]⟩), ("a/x", .off)] }]

theorem traceRules_tells_composition_reassigning :
    reassigningSample ≠ [] ∧
      ∃ c trace, compose (reassigningSample.map .fragment) = .ok c ∧
        traceRules (reassigningSample.map .fragment) = .ok trace ∧
        Tells reassigningSample c trace ∧
        trace.map Assignment.previous =
          [none, none, some ⟨.warn, [.int 1]⟩, some RuleSetting.error] := by
  obtain ⟨c, trace, hc, htrace, tells⟩ :=
    traceRules_tells_composition.2 reassigningSample (by decide)
  refine ⟨by decide, c, trace, hc, htrace, tells, ?_⟩
  rw [traceRules_map (by decide)] at htrace
  cases htrace
  decide

end LayeredLint
