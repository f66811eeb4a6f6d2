import LayeredLint.Proofs.Text.Lower
import LayeredLint.Setting

/-!
# The grammar of rule settings

A rule is given by a severity token, alone or in front of its options. Nothing else is accepted, and
whatever is refused is refused with a configuration error that names the rule.

- `Severity.Token`, `Value.OptionLike`, `RuleSetting.Written`: the grammar.
- `Answers`: what a check answers, when it is right to answer it, and how it fails where nothing is
  right.
- `Severity.ofValue_answers`, `checkOption_answers`: tokens and options, one by one.
- `RuleSetting.ofValue_accepts_written`: **the settings of the grammar are accepted, and no others**.
-/

namespace LayeredLint

/-! ## The grammar -/

/-- The tokens of a severity: itself, its level, and its word in any letter case with white space
around it. A truth value is no level. -/
inductive Severity.Token : Value → Severity → Prop where
  | itself (s : Severity) : Token (.severity s) s
  | level {n : Int} {s : Severity} (level : n = s.level) : Token (.int n) s
  | word {text : String} {s : Severity}
      (lowers : Text.lowerCase (Text.strip text.toList) = s.word.toList) : Token (.str text) s

/-- What an option may be: null, a truth value, a number, a text, a sequence of such values, or a
table of them whose keys are texts. A severity is the text of its word, and a broken text is a text
like any other. -/
inductive Value.OptionLike : Value → Prop where
  | null : OptionLike .null
  | bool (b : Bool) : OptionLike (.bool b)
  | int (n : Int) : OptionLike (.int n)
  | float (x : Binary64) : OptionLike (.float x)
  | text {v : Value} (text : v.isText = true) : OptionLike v
  | list {items : List Value} (all : ∀ v ∈ items, OptionLike v) : OptionLike (.list items)
  | tuple {items : List Value} (all : ∀ v ∈ items, OptionLike v) : OptionLike (.tuple items)
  | dict {entries : List (Value × Value)} (keys : ∀ e ∈ entries, e.1.isText = true)
      (values : ∀ e ∈ entries, OptionLike e.2) : OptionLike (.dict entries)

/-- How a setting may be given: by a token alone, by a sequence of a token and the options, or
ready. -/
inductive RuleSetting.Written : Value → RuleSetting → Prop where
  | ready (severity : Severity) (options : List Value) :
      Written (.setting severity options) ⟨severity, options⟩
  | token {v : Value} {severity : Severity} (token : Severity.Token v severity) :
      Written v ⟨severity, []⟩
  | list {head : Value} {options : List Value} {severity : Severity}
      (token : Severity.Token head severity) (fit : ∀ v ∈ options, v.OptionLike) :
      Written (.list (head :: options)) ⟨severity, options⟩
  | tuple {head : Value} {options : List Value} {severity : Severity}
      (token : Severity.Token head severity) (fit : ∀ v ∈ options, v.OptionLike) :
      Written (.tuple (head :: options)) ⟨severity, options⟩

/-! ## Answers of checks -/

section StartsWith

variable {rule text : String}

/-- A text that starts with a rule. -/
def StartsWith (rule text : String) : Prop :=
  ∃ detail, text = rule ++ ": " ++ detail

theorem startsWith_label (rule label : String) : StartsWith rule (rule ++ (": " ++ label)) :=
  ⟨label, String.append_assoc.symm⟩

theorem StartsWith.append (h : StartsWith rule text) (more : String) :
    StartsWith rule (text ++ more) := by
  obtain ⟨detail, rfl⟩ := h
  exact ⟨detail ++ more, String.append_assoc⟩

end StartsWith

/-- The wording of an error starts with the rule it is about. -/
def ConfigurationError.Names (rule : String) (cause : ConfigurationError) : Prop :=
  StartsWith rule cause.message

/-- What a check for a rule answers: something that is right, or, where nothing is, a configuration
error that names the rule. -/
inductive Answers {α : Type} (rule : String) (Right : α → Prop) : Except Failure α → Prop where
  | ok {a : α} (right : Right a) : Answers rule Right (.ok a)
  | refused {cause : ConfigurationError} (names : cause.Names rule) (wrong : ∀ a, ¬Right a) :
      Answers rule Right (invalid cause)

namespace Answers

variable {α β : Type} {rule : String} {Right : α → Prop} {Right' : β → Prop}

/-- A second check goes on where the first one succeeds. Where the first one finds nothing right,
there must be nothing right for the second one either. -/
theorem bind {x : Except Failure α} {f : α → Except Failure β} (hx : Answers rule Right x)
    (hf : ∀ a, Right a → Answers rule Right' (f a))
    (hwrong : (∀ a, ¬Right a) → ∀ b, ¬Right' b) : Answers rule Right' (x >>= f) := by
  cases hx with
  | ok right => exact hf _ right
  | refused names wrong => exact .refused names (hwrong wrong)

theorem of_iff {x : Except Failure α} {Right'' : α → Prop} (hx : Answers rule Right x)
    (h : ∀ a, Right a ↔ Right'' a) : Answers rule Right'' x := by
  cases hx with
  | ok right => exact .ok ((h _).1 right)
  | refused names wrong => exact .refused names fun a hright => wrong a ((h a).2 hright)

/-- Where at most one thing is right, a check answers it exactly if it is. -/
theorem eq_ok_iff {x : Except Failure α} (hx : Answers rule Right x)
    (unique : ∀ a b, Right a → Right b → a = b) {a : α} : x = .ok a ↔ Right a := by
  cases hx with
  | ok right =>
    constructor
    · rintro ⟨⟩
      exact right
    · intro h
      rw [unique _ _ right h]
  | refused _ wrong => exact iff_of_false (fun h => by cases h) (wrong a)

theorem eq_invalid {x : Except Failure α} (hx : Answers rule Right x) (wrong : ∀ a, ¬Right a) :
    ∃ cause, x = .error (.configuration cause) ∧ cause.Names rule := by
  cases hx with
  | ok right => exact absurd right (wrong _)
  | refused names _ => exact ⟨_, rfl, names⟩

end Answers

/-! ## Tokens -/

namespace Severity

theorem ofText?_eq_some_iff {text : String} {s : Severity} :
    ofText? text = some s ↔ Text.lowerCase (Text.strip text.toList) = s.word.toList := by
  have all : s.word.toList.all (·.toNat < 128) := by cases s <;> rfl
  have ascii : ∀ c ∈ s.word.toList, c.toNat < 128 := by simpa using all
  rw [Text.lowerCase_eq_iff ascii, ofText?, ofWord?_eq_some_iff, Text.lowerText, Text.stripText,
    ← String.toList_inj, String.toList_ofList, String.toList_ofList]

theorem Token.unique {v : Value} {s t : Severity} (hs : Token v s) (ht : Token v t) : s = t := by
  cases hs with
  | itself => cases ht; rfl
  | level level =>
    cases ht with
    | level level' =>
      rw [← ofLevel?_eq_some_iff] at level level'
      exact Option.some.inj (level.symm.trans level')
  | word lowers =>
    cases ht with
    | word lowers' =>
      rw [← ofText?_eq_some_iff] at lowers lowers'
      exact Option.some.inj (lowers.symm.trans lowers')

/-- A value is read as the severity whose token it is. -/
theorem ofValue_answers (rule : String) (v : Value) : Answers rule (Token v) (ofValue rule v) := by
  have names : (ConfigurationError.severityKind rule v).Names rule :=
    (startsWith_label rule "severity must be 'off', 'warn', 'error' or 0-2, got ").append _
  cases v with
  | severity s => exact .ok (.itself s)
  | int n =>
    rw [ofValue]
    cases hlevel : ofLevel? n with
    | some s => exact .ok (.level (ofLevel?_eq_some_iff.1 hlevel))
    | none =>
      refine .refused ((startsWith_label rule "numeric severity must be 0, 1 or 2, got ").append _) ?_
      rintro s ⟨⟩
      next level => exact absurd (ofLevel?_eq_some_iff.2 level) (by simp [hlevel])
  | str text =>
    rw [ofValue]
    cases hword : ofText? text with
    | some s => exact .ok (.word (ofText?_eq_some_iff.1 hword))
    | none =>
      refine .refused (((startsWith_label rule "unknown severity '").append _).append _) ?_
      rintro s ⟨⟩
      next lowers => exact absurd (ofText?_eq_some_iff.2 lowers) (by simp [hword])
  | brokenText points =>
    exact .refused (((startsWith_label rule "unknown severity '").append _).append _) nofun
  | _ => exact .refused names nofun

end Severity

/-! ## Options -/

theorem Value.optionLike_list {items : List Value} :
    (Value.list items).OptionLike ↔ ∀ v ∈ items, v.OptionLike := by
  refine ⟨fun h => ?_, .list⟩
  cases h with
  | text text => cases text
  | list all => exact all

theorem Value.optionLike_tuple {items : List Value} :
    (Value.tuple items).OptionLike ↔ ∀ v ∈ items, v.OptionLike := by
  refine ⟨fun h => ?_, .tuple⟩
  cases h with
  | text text => cases text
  | tuple all => exact all

theorem Value.optionLike_dict {entries : List (Value × Value)} :
    (Value.dict entries).OptionLike ↔
      (∀ e ∈ entries, e.1.isText = true) ∧ ∀ e ∈ entries, e.2.OptionLike := by
  refine ⟨fun h => ?_, fun h => .dict h.1 h.2⟩
  cases h with
  | text text => cases text
  | dict keys values => exact ⟨keys, values⟩

mutual

/-- A value is accepted as an option if it is like one. -/
theorem checkOption_answers (rule : String) : ∀ v : Value,
    Answers rule (fun _ => v.OptionLike) (checkOption rule v)
  | .null => .ok .null
  | .bool b => .ok (.bool b)
  | .int n => .ok (.int n)
  | .float x => .ok (.float x)
  | .str _ | .brokenText _ | .severity _ => .ok (.text rfl)
  | .list items => (checkOptions_answers rule items).of_iff fun _ => Value.optionLike_list.symm
  | .tuple items => (checkOptions_answers rule items).of_iff fun _ => Value.optionLike_tuple.symm
  | .dict entries => (checkMembers_answers rule entries).of_iff fun _ => Value.optionLike_dict.symm
  | .bytes _ | .setting .. | .module _ | .handle _ | .language .. | .moment _ =>
    .refused (((startsWith_label rule "option value ").append _).append _)
      fun _ h => by cases h with | text h => cases h

theorem checkOptions_answers (rule : String) : ∀ items : List Value,
    Answers rule (fun _ => ∀ v ∈ items, v.OptionLike) (checkOptions rule items)
  | [] => .ok (List.forall_mem_nil _)
  | v :: rest => by
    rw [checkOptions]
    refine (checkOption_answers rule v).bind (fun _ hv => ?_) fun wrong _ h => ?_
    · refine (checkOptions_answers rule rest).of_iff fun _ => ?_
      rw [List.forall_mem_cons, and_iff_right hv]
    · exact wrong () (h v List.mem_cons_self)

theorem checkMembers_answers (rule : String) : ∀ entries : List (Value × Value),
    Answers rule (fun _ => (∀ e ∈ entries, e.1.isText = true) ∧ ∀ e ∈ entries, e.2.OptionLike)
      (checkMembers rule entries)
  | [] => .ok ⟨List.forall_mem_nil _, List.forall_mem_nil _⟩
  | (k, v) :: rest => by
    rw [checkMembers]
    cases hkey : k.isText with
    | false =>
      refine .refused ((startsWith_label rule "option keys must be strings, got ").append _) ?_
      rintro _ ⟨keys, -⟩
      exact Bool.false_ne_true (hkey.symm.trans (keys (k, v) List.mem_cons_self))
    | true =>
      refine (checkOption_answers rule v).bind (fun _ hv => ?_) fun wrong _ h => ?_
      · refine (checkMembers_answers rule rest).of_iff fun _ => ?_
        have hhead : (k, v).1.isText = true := hkey
        rw [List.forall_mem_cons, List.forall_mem_cons, and_iff_right hv, and_iff_right hhead]
      · exact wrong () (h.2 (k, v) List.mem_cons_self)

end

/-! ## Settings -/

namespace RuleSetting

variable {rule : String}

theorem Written.unique {v : Value} {s t : RuleSetting} (hs : Written v s) (ht : Written v t) :
    s = t := by
  cases hs with
  | ready => cases ht with | ready => rfl | token token => cases token
  | token token =>
    cases ht with
    | ready => cases token
    | token token' => rw [token.unique token']
    | list => cases token
    | tuple => cases token
  | list token _ =>
    cases ht with
    | token token' => cases token'
    | list token' _ => rw [token.unique token']
  | tuple token _ =>
    cases ht with
    | token token' => cases token'
    | tuple token' _ => rw [token.unique token']

/-- A token alone stands for a setting without options. -/
theorem ofToken_answers (rule : String) {v : Value} (h : ∀ s, Written v s → ∃ severity,
      Severity.Token v severity) :
    Answers rule (Written v) (do
      let severity ← Severity.ofValue rule v
      return (⟨severity, []⟩ : RuleSetting)) := by
  refine (Severity.ofValue_answers rule v).bind (fun _ token => .ok (.token token)) ?_
  intro wrong s hs
  obtain ⟨severity, token⟩ := h s hs
  exact wrong severity token

/-- The options are checked, then the token is read. -/
theorem ofItems_answers (rule : String) {items : List Value} {v : Value}
    (h : ∀ s, Written v s ↔ ∃ head, Severity.Token head s.severity ∧ items = head :: s.options ∧
      ∀ o ∈ s.options, o.OptionLike) : Answers rule (Written v) (ofItems rule items) := by
  cases items with
  | nil =>
    refine .refused (startsWith_label rule "rule setting list must start with a severity") ?_
    intro s hs
    obtain ⟨_, _, hitems, _⟩ := (h s).1 hs
    cases hitems
  | cons head options =>
    rw [ofItems]
    refine (checkOptions_answers rule options).bind (fun _ fit => ?_) fun wrong s hs => ?_
    · refine (Severity.ofValue_answers rule head).bind (fun severity token => ?_) fun wrong s hs => ?_
      · exact .ok ((h _).2 ⟨head, token, rfl, fit⟩)
      · obtain ⟨_, token, hitems, _⟩ := (h s).1 hs
        cases hitems
        exact wrong _ token
    · obtain ⟨_, _, hitems, fit⟩ := (h s).1 hs
      cases hitems
      exact wrong () fit

/-- A value is read as the setting it is written for. -/
theorem ofValue_answers (rule : String) (v : Value) :
    Answers rule (Written v) (ofValue rule v) := by
  have other : (∀ s, ¬Written v s) → Answers rule (Written v) (invalid (.settingKind rule v)) :=
    .refused ((startsWith_label rule
      "rule setting must be a severity or [severity, options], got ").append _)
  cases v with
  | setting severity options => exact .ok (.ready severity options)
  | list items =>
    refine ofItems_answers rule fun s => ⟨fun hs => ?_, ?_⟩
    · cases hs with
      | token token => cases token
      | list token fit => exact ⟨_, token, rfl, fit⟩
    · rintro ⟨head, token, rfl, fit⟩
      exact .list token fit
  | tuple items =>
    refine ofItems_answers rule fun s => ⟨fun hs => ?_, ?_⟩
    · cases hs with
      | token token => cases token
      | tuple token fit => exact ⟨_, token, rfl, fit⟩
    · rintro ⟨head, token, rfl, fit⟩
      exact .tuple token fit
  | severity _ | bool _ | int _ | str _ | brokenText _ =>
    refine ofToken_answers rule fun s hs => ?_
    cases hs with | token token => exact ⟨_, token⟩
  | _ =>
    refine other fun s hs => ?_
    cases hs with | token token => cases token

/-- **The settings of the grammar are accepted, and no others.** What is accepted has the severity of
its token and the options behind it, as they are and in their order. Everything else is refused with
a configuration error that names the rule. -/
theorem ofValue_accepts_written (rule : String) (v : Value) :
    (∀ s, ofValue rule v = .ok s ↔ Written v s) ∧
      ((∀ s, ¬Written v s) → ∃ cause, ofValue rule v = .error (.configuration cause) ∧
        ∃ detail, cause.message = rule ++ ": " ++ detail) := by
  have answers := ofValue_answers rule v
  refine ⟨fun s => answers.eq_ok_iff (fun _ _ hs ht => hs.unique ht), fun wrong => ?_⟩
  exact answers.eq_invalid wrong

/-- A word in capitals with white space around it, and as options half of a surrogate pair and a
table. -/
example : ofValue "max-len"
    (.tuple [.str "\u00a0ERROR\n", .brokenText [0xD83D], .dict [(.str "max", .int 80)]]) =
      .ok ⟨.error, [.brokenText [0xD83D], .dict [(.str "max", .int 80)]]⟩ := by
  rfl

end RuleSetting

end LayeredLint
