import LayeredLint.Proofs.Language.Reordered
import LayeredLint.Proofs.Setting.Canonical
import LayeredLint.Proofs.Setting.Grammar

/-!
# The normal form of a setting

One setting is written in many ways: by a level or by a word in any letter case, alone or in front of
its options. Its canonical value is one of them, and it is what all of them come to.

- `Value.equal_self`: options are equal to themselves, in the equality of values.
- `RuleSetting.equal_canonical`: canonical values are as equal as the settings are.
- `RuleSetting.Written.canonical`: **the canonical value is a way to write its setting**.
- `RuleSetting.normalForm`: the canonical value of the setting that a raw value stands for.
- `RuleSetting.normalForm_faithful`: **the normal form keeps the setting, tells settings apart, and is
  the same however a setting is written**.
-/

namespace LayeredLint

/-! ## Options -/

namespace Value

/-- An option can be printed. -/
theorem OptionLike.serialisable {v : Value} (h : v.OptionLike) : v.Serialisable := by
  induction h with
  | null | bool _ | int _ | float _ => exact .of_leaf rfl trivial
  | text text => exact (scalar_of_isText text).serialisable
  | list _ ih => exact serialisable_list.2 ih
  | tuple _ ih => exact serialisable_tuple.2 ih
  | dict keys _ ih =>
    exact serialisable_dict.2 ⟨fun e he => scalar_of_isText (keys e he), ih⟩

theorem equal_self_of_isText {v : Value} (h : v.isText = true) : equal v v = true := by
  cases v with
  | str _ | brokenText _ | severity _ => exact decide_eq_true rfl
  | _ => cases h

theorem equalItems_self {items : List Value} (h : ∀ v ∈ items, equal v v = true) :
    equalItems items items = true := by
  induction items with
  | nil => rfl
  | cons v rest ih =>
    rw [List.forall_mem_cons] at h
    rw [equalItems, h.1, ih h.2]
    rfl

/-- The entries of a table are found in it, where each of them is equal to itself. -/
theorem entriesWithin_self {table entries : List (Value × Value)}
    (found : ∀ e ∈ entries, Entries.find? e.1 table = some e.2)
    (h : ∀ e ∈ entries, equal e.2 e.2 = true) : entriesWithin entries table = true := by
  induction entries with
  | nil => rfl
  | cons e rest ih =>
    rw [List.forall_mem_cons] at found h
    rw [entriesWithin, found.1, ih found.2 h.2, Bool.and_true]
    exact h.1

/-- An option is equal to itself, where each table in it has one entry for each key. A NaN is equal to
itself, as it keeps its payload. -/
theorem equal_self {v : Value} (h : v.OptionLike) (tidy : v.Tidy) : equal v v = true := by
  induction h with
  | null => rfl
  | bool _ | int _ | float _ => simp [equal, numberEqual, isNumber]
  | text text => exact equal_self_of_isText text
  | list _ ih => exact equalItems_self fun v hv => ih v hv ((throughout_list.1 tidy).2 v hv)
  | tuple _ ih => exact equalItems_self fun v hv => ih v hv ((throughout_tuple.1 tidy).2 v hv)
  | @dict entries _ _ ih =>
    obtain ⟨distinct, values⟩ := tidy_dict.1 tidy
    have found : ∀ e ∈ entries, Entries.find? e.1 entries = some e.2 :=
      fun e he => Entries.find?_of_mem distinct he
    rw [equal, entriesWithin_self found fun e he => ih e he (values e he)]
    simp

end Value

/-! ## Canonical values -/

theorem Severity.word_injective : Function.Injective Severity.word := by
  intro s t h
  have hword := ofWord?_word s
  rw [h, ofWord?_word] at hword
  exact (Option.some.inj hword).symm

namespace RuleSetting

variable {rule : String} {raw : Value} {s t : RuleSetting}

theorem ofValue_eq_ok_iff : ofValue rule raw = .ok s ↔ Written raw s :=
  (ofValue_answers rule raw).eq_ok_iff fun _ _ hs ht => hs.unique ht

/-- The options of a setting that is not given ready fit the grammar. -/
theorem Written.fit (h : Written raw s) (unready : raw.isSetting = false) :
    ∀ v ∈ s.options, v.OptionLike := by
  cases h with
  | ready => cases unready
  | token => exact List.forall_mem_nil _
  | list _ fit => exact fit
  | tuple _ fit => exact fit

/-- The options are parts of what was given, so their tables are as tidy. -/
theorem Written.tidy (h : Written raw s) (unready : raw.isSetting = false) (tidy : raw.Tidy) :
    ∀ v ∈ s.options, v.Tidy := by
  cases h with
  | ready => cases unready
  | token => exact List.forall_mem_nil _
  | list => exact (List.forall_mem_cons.1 (Value.throughout_list.1 tidy).2).2
  | tuple => exact (List.forall_mem_cons.1 (Value.throughout_tuple.1 tidy).2).2

/-- The word of a severity is a token of it. -/
theorem token_word (severity : Severity) : Severity.Token (.str severity.word) severity := by
  refine .word (Severity.ofText?_eq_some_iff.1 ?_)
  cases severity <;> rfl

/-- **The canonical value is a way to write its setting.** -/
theorem Written.canonical (fit : ∀ v ∈ s.options, v.OptionLike) : Written s.canonical s := by
  obtain ⟨severity, options⟩ := s
  cases options with
  | nil => exact .token (token_word severity)
  | cons v rest => exact .list (token_word severity) fit

/-- The canonical value on its own is the canonical value: options can be copied. -/
theorem canonicalCopy_eq (fit : ∀ v ∈ s.options, v.OptionLike) :
    s.canonicalCopy = .ok s.canonical := by
  rw [canonicalCopy,
    if_pos (Value.copyableItems_of_serialisable fun v hv => (fit v hv).serialisable)]

/-- Different settings have different canonical values. -/
theorem canonical_injective : Function.Injective canonical := by
  rintro ⟨severity, options⟩ ⟨severity', options'⟩ h
  cases options with
  | nil =>
    cases options' with
    | nil => cases Severity.word_injective (Value.str.inj h); rfl
    | cons => cases h
  | cons v rest =>
    cases options' with
    | nil => cases h
    | cons v' rest' =>
      obtain ⟨hword, hrest⟩ := List.cons.inj (Value.list.inj h)
      cases Severity.word_injective (Value.str.inj hword)
      cases hrest
      rfl

/-- Canonical values are as equal as the settings are. -/
theorem equal_canonical (s t : RuleSetting) : s.canonical.equal t.canonical = s.equal t := by
  obtain ⟨severity, options⟩ := s
  obtain ⟨severity', options'⟩ := t
  have hword : (Value.str severity.word).equal (.str severity'.word) =
      decide (severity = severity') := by
    cases severity <;> cases severity' <;> rfl
  -- a word alone is no list, and no options are not some
  cases options with
  | nil =>
    cases options' with
    | nil => exact hword.trans (Bool.and_true _).symm
    | cons => exact (Bool.and_false _).symm
  | cons v rest =>
    cases options' with
    | nil => exact (Bool.and_false _).symm
    | cons v' rest' => exact congrArg (· && Value.equalItems (v :: rest) (v' :: rest')) hword

/-! ## The normal form -/

/-- The canonical value of the setting that a raw value stands for. -/
def normalForm (rule : String) (raw : Value) : Except Failure Value := do
  let s ← ofValue rule raw
  s.canonicalCopy

/-- The normal form depends on the setting only, and not on how it is written. -/
theorem normalForm_eq (rule : String) (written : Written raw s) (unready : raw.isSetting = false) :
    normalForm rule raw = .ok s.canonical := by
  rw [normalForm, ofValue_eq_ok_iff.2 written]
  exact canonicalCopy_eq (written.fit unready)

/-- **The normal form is faithful.** A raw value that is read as a setting has a normal form, the
canonical value of the setting. Under every rule it is read as that setting again, which is equal to
itself. Two settings that were read have equal canonical values where they are equal, in the equality
of values as well as part by part; and two raw values, with tokens and sequences of any kind, have one
normal form exactly if they are ways to write one setting, with the same severity and options. -/
theorem normalForm_faithful {rule rule' : String} {raw raw' : Value} {s s' : RuleSetting}
    (unready : raw.isSetting = false) (unready' : raw'.isSetting = false)
    (read : ofValue rule raw = .ok s) (read' : ofValue rule' raw' = .ok s') :
    (normalForm rule raw = .ok s.canonical ∧ ∀ rule, ofValue rule s.canonical = .ok s) ∧
      (raw.Tidy → s.equal s = true) ∧
      s.canonical.equal s'.canonical = s.equal s' ∧
      (s.canonical = s'.canonical → s = s') ∧
      (normalForm rule raw = normalForm rule' raw' ↔ ∃ t, Written raw t ∧ Written raw' t) := by
  have written := ofValue_eq_ok_iff.1 read
  have written' := ofValue_eq_ok_iff.1 read'
  have fit := written.fit unready
  have form := normalForm_eq rule written unready
  have form' := normalForm_eq rule' written' unready'
  refine ⟨⟨form, fun _ => ofValue_eq_ok_iff.2 (.canonical fit)⟩, fun tidy => ?_,
    equal_canonical s s', fun h => canonical_injective h, ?_⟩
  · rw [equal, Value.equalItems_self fun v hv =>
      Value.equal_self (fit v hv) (written.tidy unready tidy v hv)]
    simp
  · rw [form, form', Except.ok.injEq, canonical_injective.eq_iff]
    constructor
    · rintro rfl
      exact ⟨s, written, written'⟩
    · rintro ⟨t, ht, ht'⟩
      rw [written.unique ht, written'.unique ht']

/-- A word in capitals with white space around it, a tuple, and a NaN, a table and half of a surrogate
pair among the options. -/
def paddedSample : Value :=
  .tuple [.str "\u00a0WARN\n", .float (.nan 7), .brokenText [0xD83D],
    .dict [(.severity .off, .tuple [.null])]]

/-- The same setting with the level of its severity, in a list. -/
def levelSample : Value :=
  .list [.int 1, .float (.nan 7), .brokenText [0xD83D], .dict [(.severity .off, .tuple [.null])]]

/-- The two samples have one normal form, which is read as their setting. -/
theorem normalForm_faithful_samples :
    ∃ s form, ofValue "max-len" paddedSample = .ok s ∧ ofValue "max-len" levelSample = .ok s ∧
      normalForm "max-len" paddedSample = .ok form ∧ normalForm "max-len" levelSample = .ok form ∧
      ofValue "max-len" form = .ok s ∧ s.equal s = true := by
  let options : List Value :=
    [.float (.nan 7), .brokenText [0xD83D], .dict [(.severity .off, .tuple [.null])]]
  have read : ofValue "max-len" paddedSample = .ok ⟨.warn, options⟩ := rfl
  have read' : ofValue "max-len" levelSample = .ok ⟨.warn, options⟩ := rfl
  obtain ⟨⟨form, again⟩, equal, -, -, same⟩ := normalForm_faithful rfl rfl read read'
  have written := ofValue_eq_ok_iff.1 read
  refine ⟨_, _, read, read', form, ?_, again _, equal (by decide)⟩
  rw [← form]
  exact (same.2 ⟨_, written, ofValue_eq_ok_iff.1 read'⟩).symm

end RuleSetting

end LayeredLint
