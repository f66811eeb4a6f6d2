import LayeredLint.Proofs.Except
import LayeredLint.Proofs.Json.Serialisable
import LayeredLint.Setting

/-!
# Canonical values and the settings they stand for

The check of options lets through what a document can hold, and texts in which two halves of a
surrogate pair stand side by side. Without these the canonical value of a checked setting can be
copied and written, and what comes back for it is the canonical value of the same setting.

- `Value.Raw`: a value that a rule may be given as, floating point numbers and such texts left aside.
- `readable_of_checkOption`: checked options are parts of a document.
- `RuleSetting.Writable`: the options of a setting are parts of a document.
- `RuleSetting.writable_of_ofValue`: **a setting that was given as a raw value is writable**.
- `RuleSetting.ofValue_plain_canonical`: **what comes back for a canonical value is the setting**,
  with options as they come back.
-/

namespace LayeredLint

namespace Value

/-- What is asked of a part of a raw value: it is no floating point number, an integer is not too
long, no two halves in a text or a key make up a character, and a table has one entry for each key,
as every table does. -/
def RawPart (digits : Nat) : Value → Prop
  | .float _ => False
  | .brokenText points => LoneHalves points
  | .dict entries => (∀ e ∈ entries, e.1.Unjoined) ∧ Entries.Distinct entries
  | v => v.digitCount ≤ digits

instance (digits : Nat) : DecidablePred (RawPart digits)
  | .float _ => inferInstanceAs (Decidable False)
  | .brokenText points => inferInstanceAs (Decidable (LoneHalves points))
  | .dict entries =>
    inferInstanceAs (Decidable ((∀ e ∈ entries, e.1.Unjoined) ∧ Entries.Distinct entries))
  | .null | .bool _ | .int _ | .str _ | .bytes _ | .list _ | .tuple _ | .severity _ | .setting ..
  | .module _ | .handle _ | .language .. | .moment _ => Nat.decLe _ digits

/-- A value is a ready setting. -/
def isSetting : Value → Bool
  | .setting .. => true
  | _ => false

/-- A value that a rule may be given as: no ready setting, and with parts as above. -/
structure Raw (digits : Nat) (v : Value) : Prop where
  unset : v.isSetting = false
  parts : v.Throughout (RawPart digits)

instance (digits : Nat) (v : Value) : Decidable (v.Raw digits) :=
  decidable_of_iff (v.isSetting = false ∧ v.Throughout (RawPart digits))
    ⟨fun h => ⟨h.1, h.2⟩, fun h => ⟨h.unset, h.parts⟩⟩

end Value

/-! ## Checked options -/

mutual

/-- Checked options are parts of a document. -/
theorem readable_of_checkOption {rule : String} {digits : Nat} : ∀ {v : Value},
    checkOption rule v = .ok () → v.Throughout (Value.RawPart digits) →
      v.Throughout (Value.Readable digits)
  | .null, _, _ | .bool _, _, _ | .str _, _, _ | .severity _, _, _ =>
    .of_leaf rfl ⟨trivial, Nat.zero_le digits⟩
  | .brokenText _, _, hraw => .of_leaf rfl ⟨hraw.self, Nat.zero_le digits⟩
  | .int _, _, hraw => .of_leaf rfl ⟨trivial, hraw.self⟩
  | .float _, _, hraw => hraw.self.elim
  | .list items, hcheck, hraw =>
    Value.throughout_list.2 ⟨⟨trivial, Nat.zero_le digits⟩,
      readable_of_checkOptions hcheck (Value.throughout_list.1 hraw).2⟩
  | .tuple items, hcheck, hraw =>
    Value.throughout_tuple.2 ⟨⟨trivial, Nat.zero_le digits⟩,
      readable_of_checkOptions hcheck (Value.throughout_tuple.1 hraw).2⟩
  | .dict entries, hcheck, hraw => by
    obtain ⟨⟨hunjoined, hdistinct⟩, hvalues⟩ := Value.throughout_dict.1 hraw
    obtain ⟨htexts, hreadable⟩ := readable_of_checkMembers hcheck hvalues
    have hkeys : ∀ e ∈ entries, e.1.IsText := fun e he => ⟨htexts e he, hunjoined e he⟩
    exact Value.throughout_dict.2 ⟨⟨⟨hkeys, hdistinct⟩, Nat.zero_le digits⟩, hreadable⟩
  | .bytes _, h, _ | .setting .., h, _ | .module _, h, _ | .handle _, h, _ | .language .., h, _
  | .moment _, h, _ => nomatch h

theorem readable_of_checkOptions {rule : String} {digits : Nat} : ∀ {items : List Value},
    checkOptions rule items = .ok () → (∀ v ∈ items, v.Throughout (Value.RawPart digits)) →
      ∀ v ∈ items, v.Throughout (Value.Readable digits)
  | [], _, _ => fun _ hv => nomatch hv
  | v :: rest, hcheck, hraw => by
    obtain ⟨_, hv, hrest⟩ := bind_eq_ok.1 hcheck
    rw [List.forall_mem_cons] at hraw ⊢
    exact ⟨readable_of_checkOption hv hraw.1, readable_of_checkOptions hrest hraw.2⟩

theorem readable_of_checkMembers {rule : String} {digits : Nat} :
    ∀ {entries : List (Value × Value)}, checkMembers rule entries = .ok () →
      (∀ e ∈ entries, e.2.Throughout (Value.RawPart digits)) →
        (∀ e ∈ entries, e.1.isText = true) ∧
          ∀ e ∈ entries, e.2.Throughout (Value.Readable digits)
  | [], _, _ => ⟨fun _ he => (nomatch he), fun _ he => (nomatch he)⟩
  | (k, v) :: rest, hcheck, hraw => by
    rw [List.forall_mem_cons] at hraw
    unfold checkMembers at hcheck
    split at hcheck
    · cases hcheck
    next hkey =>
    have htext : k.isText = true := by simpa using hkey
    obtain ⟨_, hv, hrest⟩ := bind_eq_ok.1 hcheck
    obtain ⟨hkeys, hvalues⟩ := readable_of_checkMembers hrest hraw.2
    exact ⟨List.forall_mem_cons.2 ⟨htext, hkeys⟩,
      List.forall_mem_cons.2 ⟨readable_of_checkOption hv hraw.1, hvalues⟩⟩

end

/-! ## Parts of a document as options -/

namespace Value

/-- Parts of a document can be copied. -/
theorem copyableItems_of_isJson {items : List Value} (h : ∀ v ∈ items, v.IsJson) :
    copyableItems items = true :=
  copyableItems_of_serialisable fun v hv => (h v hv).serialisable

end Value

mutual

/-- What comes back for a part of a document is accepted as an option. -/
theorem checkOption_plain {rule : String} : ∀ {v : Value}, v.IsJson →
    checkOption rule v.plain = .ok ()
  | .null, _ | .bool _, _ | .int _, _ | .str _, _ | .brokenText _, _ | .severity _, _ => rfl
  | .list _, h => checkOptions_plain (Value.throughout_list.1 h).2
  | .tuple _, h => checkOptions_plain (Value.throughout_tuple.1 h).2
  | .dict _, h =>
    checkMembers_plain (fun e he => ((Value.throughout_dict.1 h).1.1 e he).1)
      (Value.throughout_dict.1 h).2
  | .float _, h | .bytes _, h | .setting .., h | .module _, h | .handle _, h | .language .., h
  | .moment _, h => h.self.elim

theorem checkOptions_plain {rule : String} : ∀ {items : List Value}, (∀ v ∈ items, v.IsJson) →
    checkOptions rule (Value.plainItems items) = .ok ()
  | [], _ => rfl
  | v :: rest, h => by
    rw [List.forall_mem_cons] at h
    rw [Value.plainItems, checkOptions, checkOption_plain h.1]
    exact checkOptions_plain h.2

theorem checkMembers_plain {rule : String} : ∀ {entries : List (Value × Value)},
    (∀ e ∈ entries, e.1.isText = true) → (∀ e ∈ entries, e.2.IsJson) →
      checkMembers rule (Value.plainMembers entries) = .ok ()
  | [], _, _ => rfl
  | (k, v) :: rest, hkeys, hvalues => by
    rw [List.forall_mem_cons] at hkeys hvalues
    rw [Value.plainMembers, checkMembers, checkOption_plain hvalues.1, Value.isText_plain hkeys.1]
    exact checkMembers_plain hkeys.2 hvalues.2

end

/-! ## Settings -/

namespace RuleSetting

/-- The options of a setting are parts of a document, and no integer in them is too long. -/
def Writable (digits : Nat) (s : RuleSetting) : Prop :=
  ∀ v ∈ s.options, v.Throughout (Value.Readable digits)

/-- A setting with its options as they come back. -/
def plain (s : RuleSetting) : RuleSetting :=
  ⟨s.severity, Value.plainItems s.options⟩

theorem Writable.isJson {digits : Nat} {s : RuleSetting} (h : s.Writable digits) :
    ∀ v ∈ s.options, v.IsJson :=
  fun v hv part hp => (h v hv part hp).1

/-- What holds throughout the options, of texts and of lists holds throughout the canonical
value. -/
theorem throughout_canonical {p : Value → Prop} (hstr : ∀ s, p (.str s))
    (hlist : ∀ items, p (.list items)) {s : RuleSetting} (h : ∀ v ∈ s.options, v.Throughout p) :
    s.canonical.Throughout p := by
  have hword : (Value.str s.severity.word).Throughout p := .of_leaf rfl (hstr _)
  unfold RuleSetting.canonical
  split
  · exact hword
  · exact Value.throughout_list.2 ⟨hlist _, List.forall_mem_cons.2 ⟨hword, h⟩⟩

theorem writable_of_ofItems {rule : String} {digits : Nat} {items : List Value} {s : RuleSetting}
    (hraw : ∀ v ∈ items, v.Throughout (Value.RawPart digits)) (h : ofItems rule items = .ok s) :
    s.Writable digits := by
  cases items with
  | nil => cases h
  | cons head options =>
    obtain ⟨_, hcheck, h⟩ := bind_eq_ok.1 h
    obtain ⟨_, _, h⟩ := bind_eq_ok.1 h
    cases h
    exact readable_of_checkOptions hcheck (List.forall_mem_cons.1 hraw).2

theorem writable_of_ofToken {rule : String} {digits : Nat} {v : Value} {s : RuleSetting}
    (h : (do
      let severity ← Severity.ofValue rule v
      return (⟨severity, []⟩ : RuleSetting)) = .ok s) : s.Writable digits := by
  obtain ⟨_, _, h⟩ := bind_eq_ok.1 h
  cases h
  exact fun _ hv => nomatch hv

/-- **A setting that was given as a raw value is writable.** -/
theorem writable_of_ofValue {rule : String} {digits : Nat} {v : Value} {s : RuleSetting}
    (hraw : v.Raw digits) (h : ofValue rule v = .ok s) : s.Writable digits := by
  cases v with
  | setting severity options => cases hraw.unset
  | list items => exact writable_of_ofItems (Value.throughout_list.1 hraw.parts).2 h
  | tuple items => exact writable_of_ofItems (Value.throughout_tuple.1 hraw.parts).2 h
  | severity _ | bool _ | int _ | str _ | brokenText _ => exact writable_of_ofToken h
  | _ => cases h

/-- The canonical value comes back as that of the setting with its options as they come back. -/
theorem plain_canonical (s : RuleSetting) : s.canonical.plain = s.plain.canonical := by
  unfold canonical plain
  cases s.options with
  | nil => rfl
  | cons v rest => rfl

theorem ofValue_word (rule : String) (severity : Severity) :
    Severity.ofValue rule (.str severity.word) = .ok severity := by
  cases severity <;> rfl

/-- The canonical value stands for its setting, where the options are accepted. -/
theorem ofValue_canonical {rule : String} {s : RuleSetting}
    (h : checkOptions rule s.options = .ok ()) : ofValue rule s.canonical = .ok s := by
  obtain ⟨severity, options⟩ := s
  cases options with
  | nil =>
    show (Severity.ofValue rule (.str severity.word) >>= _) = _
    rw [ofValue_word]
    rfl
  | cons v rest =>
    show ofItems rule (.str severity.word :: v :: rest) = _
    rw [ofItems, h, ofValue_word]
    rfl

/-- **What comes back for a canonical value is the setting**, with options as they come back. -/
theorem ofValue_plain_canonical {rule : String} {digits : Nat} {s : RuleSetting}
    (h : s.Writable digits) : ofValue rule s.canonical.plain = .ok s.plain := by
  rw [plain_canonical]
  exact ofValue_canonical (checkOptions_plain h.isJson)

end RuleSetting

end LayeredLint
