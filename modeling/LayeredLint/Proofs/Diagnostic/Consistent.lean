import LayeredLint.Proofs.Report.Normalised
import LayeredLint.Proofs.Text.Utf8

/-!
# What holds of every diagnostic

A diagnostic is made of a record, of a source that cannot be parsed, or of a message in a report.
However it is made, its severity is one of two levels and what is fatal has no rule. Its message has
no white space at its ends, unless a record gives it in bytes: a text is stripped before it is
converted, and bytes become a text only then.

- `Diagnostic.Consistent`, `Diagnostic.Stripped`: what should hold of a diagnostic.
- `messageOfValue_eq_ok_iff`: the message of a record; `stripped_iff_of_message`: when it is
  stripped.
- `exists_message_of_ofRecord`, `consistent_of_ofRecord`: diagnostics of records.
- `ofRecord_failureRecord`: the diagnostic of a source that cannot be parsed is that of a record.
- `consistent_of_ofMessage`, `stripped_of_ofMessage`: diagnostics of messages.
- `Diagnostic.Origin`, `Diagnostic.Origin.diagnostic`: what a diagnostic is made of, and how.
- `consistent_however_made`: **all of it, with the one way to a message that is not stripped**.
- `ofRecord_keeps_padding`: such a message.
-/

namespace LayeredLint

namespace Diagnostic

open Record

/-- The severity is one of two levels, and what is fatal has no rule. -/
structure Consistent (d : Diagnostic) : Prop where
  level : d.severity.level = 1 ∨ d.severity.level = 2
  rule : d.fatal = true → d.ruleId = none

/-- The message has no white space at its ends. -/
def Stripped (d : Diagnostic) : Prop :=
  Text.stripText d.message = d.message

/-- A text in bytes has white space at one of its ends. -/
def PaddedBytes (v : Value) : Prop :=
  ∃ cs, v = .bytes (Utf8.encode cs) ∧ Text.strip cs ≠ cs

theorem level_eq (severity : DiagnosticSeverity) : severity.level = 1 ∨ severity.level = 2 := by
  cases severity with
  | warning => exact .inl rfl
  | error => exact .inr rfl

theorem stripText_stripText (s : String) :
    Text.stripText (Text.stripText s) = Text.stripText s := by
  rw [Text.stripText, Text.stripText, String.toList_ofList, Text.strip_idem]

/-! ## Messages of records -/

/-- A text gives the message without the white space at its ends, bytes the text they stand for. -/
theorem messageOfValue_eq_ok_iff {v : Value} {s : String} :
    messageOfValue v = .ok s ↔
      (∃ t, v.text? = some t ∧ s = Text.stripText t) ∨
        ∃ cs, v = .bytes (Utf8.encode cs) ∧ s = String.ofList cs := by
  unfold messageOfValue
  cases htext : v.text? with
  | some t =>
    constructor
    · intro h
      exact .inl ⟨t, rfl, (Except.ok.inj h).symm⟩
    · rintro (⟨_, ht, rfl⟩ | ⟨cs, rfl, -⟩)
      · cases ht
        rfl
      · cases htext
  | none =>
    dsimp only
    rw [textOfValue_eq_ok_iff]
    constructor
    · intro h
      -- of the values that are no text, only bytes stand for one
      cases v with
      | bytes bytes =>
        obtain ⟨cs, hdecode, hs⟩ := Option.map_eq_some_iff.1 (Option.some.inj h)
        exact .inr ⟨cs, by rw [Utf8.decode?_eq_some_iff.1 hdecode], hs.symm⟩
      | str | severity => cases htext
      | _ => cases h
    · rintro (⟨_, ht, -⟩ | ⟨cs, rfl, rfl⟩)
      · cases ht
      · show some ((Utf8.decode? (Utf8.encode cs)).map String.ofList) = _
        rw [Utf8.decode?_encode]
        rfl

/-- The message of a record is stripped unless it is given in bytes with white space at an end. -/
theorem stripped_iff_of_message {v : Value} {s : String} (h : messageOfValue v = .ok s) :
    Text.stripText s = s ↔ ¬PaddedBytes v := by
  rcases messageOfValue_eq_ok_iff.1 h with ⟨t, ht, rfl⟩ | ⟨cs, rfl, rfl⟩
  · refine iff_of_true (stripText_stripText t) ?_
    rintro ⟨cs, rfl, -⟩
    cases ht
  · rw [Text.stripText, String.toList_ofList, String.ofList_inj]
    constructor
    · rintro hstrip ⟨cs', hbytes, hpadded⟩
      have hsame : cs = cs' := Option.some.inj <| by
        rw [← Utf8.decode?_encode cs, ← Utf8.decode?_encode cs', Value.bytes.inj hbytes]
      exact hpadded (hsame ▸ hstrip)
    · intro hpadded
      by_contra hstrip
      exact hpadded ⟨cs, rfl, hstrip⟩

/-! ## Diagnostics of records -/

/-- The last check of a record lets a diagnostic through as it is, if it is not a fatal one with a
rule. -/
theorem refuseFatalRule_eq_ok_iff {d d' : Diagnostic} :
    refuseFatalRule d = .ok d' ↔ d = d' ∧ (d.fatal = true → d.ruleId = none) := by
  unfold refuseFatalRule
  cases hfatal : d.fatal <;> cases hrule : d.ruleId <;> simp [issue]

/-- What comes of a record has passed the check on its rule, and its message is the one given. -/
theorem exists_message_of_ofEntries {entries : List (Value × Value)} {d : Diagnostic}
    (h : ofEntries entries = .ok d) :
    (d.fatal = true → d.ruleId = none) ∧
      ∃ v, Entries.find? (.str "message") entries = some v ∧ messageOfValue v = .ok d.message := by
  obtain ⟨built, hbuilt, hrefuse⟩ := bind_eq_ok.1 h
  obtain ⟨rfl, hrule⟩ := refuseFatalRule_eq_ok_iff.1 hrefuse
  -- the fields are checked one on top of the other, the message third
  obtain ⟨_, column, toLine, -, rfl⟩ := Checked.apply_eq_ok_iff.1 hbuilt
  obtain ⟨_, line, toFatal, -, rfl⟩ := Checked.apply_eq_ok_iff.1 toLine
  obtain ⟨_, fatal, toMessage, -, rfl⟩ := Checked.apply_eq_ok_iff.1 toFatal
  obtain ⟨_, message, toSeverity, hmessage, rfl⟩ := Checked.apply_eq_ok_iff.1 toMessage
  obtain ⟨_, severity, toRule, -, rfl⟩ := Checked.apply_eq_ok_iff.1 toSeverity
  obtain ⟨_, rule, start, -, rfl⟩ := Checked.apply_eq_ok_iff.1 toRule
  cases start
  exact ⟨hrule, requiredField_plain_eq_ok_iff.1 hmessage⟩

theorem ofRecord_eq_ok {v : Value} {d : Diagnostic} (h : ofRecord v = .ok d) :
    ∃ entries, v = .dict entries ∧ ofEntries entries = .ok d := by
  have hrecord := mapError_eq_ok.1 h
  cases v with
  | dict entries => exact ⟨entries, rfl, hrecord⟩
  | _ => cases hrecord

theorem consistent_of_ofRecord {v : Value} {d : Diagnostic} (h : ofRecord v = .ok d) :
    d.Consistent := by
  obtain ⟨entries, -, hentries⟩ := ofRecord_eq_ok h
  exact ⟨level_eq d.severity, (exists_message_of_ofEntries hentries).1⟩

/-- The message of a record decides whether that of the diagnostic is stripped. -/
theorem exists_message_of_ofRecord {v : Value} {d : Diagnostic} (h : ofRecord v = .ok d) :
    ∃ entries message, v = .dict entries ∧ Entries.find? (.str "message") entries = some message ∧
      (d.Stripped ↔ ¬PaddedBytes message) := by
  obtain ⟨entries, rfl, hentries⟩ := ofRecord_eq_ok h
  obtain ⟨-, message, hfind, hmessage⟩ := exists_message_of_ofEntries hentries
  exact ⟨entries, message, rfl, hfind, stripped_iff_of_message hmessage⟩

/-! ## Sources that cannot be parsed -/

/-- The record for a source that cannot be parsed, whatever stands for its parts. -/
def failureRecord (message line column : Value) : Value :=
  .dict [(.str "rule_id", .null), (.str "severity", .int 2), (.str "message", message),
    (.str "fatal", .bool true), (.str "line", line), (.str "column", column)]

/-- A line or column as a value, null where it is unknown. -/
def positionValue : Option Int → Value
  | none => .null
  | some n => .int n

/-- The diagnostic for such a source is the one of its record. -/
theorem ofRecord_failureRecord (message : String) (line column : Option Int) :
    ofRecord (failureRecord (.str message) (positionValue line) (positionValue column)) =
      .ok (parseFailure message line column) := by
  cases line <;> cases column <;> rfl

theorem message_failureRecord {message line column : Value} {d : Diagnostic}
    (h : ofRecord (failureRecord message line column) = .ok d) :
    d.Stripped ↔ ¬PaddedBytes message := by
  obtain ⟨entries, given, hrecord, hfind, hstripped⟩ := exists_message_of_ofRecord h
  cases hrecord
  cases hfind
  exact hstripped

theorem stripped_parseFailure (message : String) (line column : Option Int) :
    (parseFailure message line column).Stripped :=
  stripText_stripText message

/-! ## Messages of reports -/

theorem normalised_of_ofMessage {message : List (Value × Value)} {d : Diagnostic}
    (h : ofMessage message = .ok d) : d = normalised message := by
  have hbroken : ¬KeepsBroken message := by
    intro hbroken
    obtain ⟨failure, hfailure⟩ := ofMessage_of_broken hbroken
    rw [hfailure] at h
    cases h
  rw [ofMessage_eq hbroken] at h
  exact (Except.ok.inj h).symm

theorem consistent_of_ofMessage {message : List (Value × Value)} {d : Diagnostic}
    (h : ofMessage message = .ok d) : d.Consistent := by
  rw [normalised_of_ofMessage h]
  exact ⟨level_eq _, fun hfatal => if_pos hfatal⟩

theorem stripped_of_ofMessage {message : List (Value × Value)} {d : Diagnostic}
    (h : ofMessage message = .ok d) : d.Stripped := by
  rw [normalised_of_ofMessage h]
  exact stripText_stripText _

/-! ## However it is made -/

/-- What a diagnostic is made of. -/
inductive Origin where
  | record (v : Value)
  /-- A source that cannot be parsed. -/
  | failure (message : String) (line column : Option Int)
  /-- The same, whatever values stand for its parts. -/
  | anyFailure (message line column : Value)
  /-- A message of a report. -/
  | reported (entries : List (Value × Value))

/-- The diagnostic that is made of something. -/
def Origin.diagnostic : Origin → Except Failure Diagnostic
  | record v => ofRecord v
  | failure message line column => .ok (parseFailure message line column)
  | anyFailure message line column => ofRecord (failureRecord message line column)
  | reported entries => ofMessage entries

/-- The message is given in bytes, with white space at one of its ends. -/
def Origin.Padded : Origin → Prop
  | record v => ∃ entries message, v = .dict entries ∧
      Entries.find? (.str "message") entries = some message ∧ PaddedBytes message
  | failure .. => False
  | anyFailure message _ _ => PaddedBytes message
  | reported _ => False

/-- **What holds of a diagnostic however it is made.** Its severity is one of two levels, and what
is fatal has no rule. Its message is stripped, unless it is given in bytes with white space at an
end: that of a report's message always is, and so is that of a source that cannot be parsed, where
it is a text. -/
theorem consistent_however_made (origin : Origin) {d : Diagnostic}
    (h : origin.diagnostic = .ok d) : d.Consistent ∧ (d.Stripped ↔ ¬origin.Padded) := by
  cases origin with
  | record v =>
    obtain ⟨entries, message, rfl, hfind, hstripped⟩ := exists_message_of_ofRecord h
    refine ⟨consistent_of_ofRecord h, hstripped.trans (not_congr ?_)⟩
    constructor
    · exact fun padded => ⟨entries, message, rfl, hfind, padded⟩
    · rintro ⟨_, message', hentries, hfind', padded⟩
      cases hentries
      cases hfind.symm.trans hfind'
      exact padded
  | failure message line column =>
    cases h
    exact ⟨consistent_of_ofRecord (ofRecord_failureRecord message line column),
      iff_of_true (stripped_parseFailure message line column) not_false⟩
  | anyFailure message line column =>
    exact ⟨consistent_of_ofRecord h, message_failureRecord h⟩
  | reported entries =>
    exact ⟨consistent_of_ofMessage h, iff_of_true (stripped_of_ofMessage h) not_false⟩

/-- A fatal record with its severity and its mark as texts, with white space around its message, and
with a rule under the name that does not count. -/
def fatalRecord : Value :=
  .dict [(.str "severity", .str "1"), (.str "message", .str " a "), (.str "fatal", .str "yes"),
    (.str "ruleId", .null), (.str "rule_id", .str "no-var")]

/-- A record with a message in bytes, with a space in front. -/
def paddedRecord : Value :=
  .dict [(.str "severity", .int 2), (.str "message", .bytes [0x20, 0x61])]

/-- A fatal message with a rule, and with white space around its text. -/
def fatalMessage : List (Value × Value) :=
  [(.str "message", .str " a "), (.str "fatal", .int 1), (.str "ruleId", .str "no-var")]

theorem consistent_however_made_samples :
    (∃ d, (Origin.record fatalRecord).diagnostic = .ok d ∧ d.fatal = true ∧ d.ruleId = none) ∧
      (∃ d, (Origin.record paddedRecord).diagnostic = .ok d ∧ d.Consistent ∧ ¬d.Stripped) ∧
      (∃ d, (Origin.failure " a\n" none (some 3)).diagnostic = .ok d ∧ d.Consistent ∧
        d.Stripped) ∧
      (∃ d, (Origin.anyFailure (.bytes [0x61, 0x0a]) .null (.str "3")).diagnostic = .ok d ∧
        d.Consistent ∧ ¬d.Stripped) ∧
      ∃ d, (Origin.reported fatalMessage).diagnostic = .ok d ∧ d.Consistent ∧ d.Stripped := by
  refine ⟨⟨⟨none, .warning, "a", true, none, none⟩, rfl, rfl, ?fatal⟩,
    ⟨⟨none, .error, " a", false, none, none⟩, rfl, ?padded⟩,
    ⟨⟨none, .error, "a", true, none, some 3⟩, rfl, ?failure⟩,
    ⟨⟨none, .error, "a\n", true, none, some 3⟩, rfl, ?anyFailure⟩,
    ⟨⟨none, .error, "a", true, none, none⟩, rfl, ?reported⟩⟩
  case fatal => exact (consistent_however_made (.record fatalRecord) rfl).1.rule rfl
  case padded =>
    obtain ⟨consistent, hstripped⟩ := consistent_however_made (.record paddedRecord) rfl
    have padded : (Origin.record paddedRecord).Padded :=
      ⟨_, _, rfl, rfl, [' ', 'a'], rfl, by decide⟩
    exact ⟨consistent, fun stripped => hstripped.1 stripped padded⟩
  case failure =>
    obtain ⟨consistent, hstripped⟩ := consistent_however_made (.failure " a\n" none (some 3)) rfl
    exact ⟨consistent, hstripped.2 not_false⟩
  case anyFailure =>
    obtain ⟨consistent, hstripped⟩ :=
      consistent_however_made (.anyFailure (.bytes [0x61, 0x0a]) .null (.str "3")) rfl
    exact ⟨consistent, fun stripped => hstripped.1 stripped ⟨['a', '\n'], rfl, by decide⟩⟩
  case reported =>
    obtain ⟨consistent, hstripped⟩ := consistent_however_made (.reported fatalMessage) rfl
    exact ⟨consistent, hstripped.2 not_false⟩

/-- Space in front of a message in bytes stays. -/
theorem ofRecord_keeps_padding :
    ∃ d, ofRecord paddedRecord = .ok d ∧ Text.stripText d.message ≠ d.message :=
  ⟨{ severity := .error, message := " a" }, rfl, by decide⟩

end Diagnostic

end LayeredLint
