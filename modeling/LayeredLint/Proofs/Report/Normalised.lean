import LayeredLint.Proofs.Json.Refusals
import LayeredLint.Proofs.Record.Checked
import LayeredLint.Proofs.Report.Messages
import LayeredLint.Proofs.Value.Number

/-!
# Diagnostics for messages

A message of a report may hold anything, and still there is a diagnostic for it: what has another
shape than expected counts as absent. Only a broken text is refused, where it would be kept.

- `Diagnostic.KeepsBroken`: a message whose diagnostic would keep a broken text.
- `Diagnostic.ofMessage_eq`, `Diagnostic.ofMessage_of_broken`: the diagnostic of any other message,
  and the refusal of such a one.
- `Diagnostic.Normalises`: what a diagnostic says about its message.
- `readReport_normalises`: **a report is read with a diagnostic for each of its messages**.
-/

namespace LayeredLint

namespace Value

/-- A value is an integer; the truth values are one and zero. -/
inductive IsInteger : Value → Int → Prop
  | int (n : Int) : IsInteger (.int n) n
  | true : IsInteger (.bool true) 1
  | false : IsInteger (.bool false) 0

theorem integer?_eq_some_iff {v : Value} {n : Int} : v.integer? = some n ↔ v.IsInteger n := by
  constructor
  · intro h
    cases v with
    | int =>
      cases h
      exact .int n
    | bool b =>
      cases h
      cases b
      · exact .false
      · exact .true
    | _ => cases h
  · rintro (_ | _ | _) <;> rfl

end Value

namespace Diagnostic

open Record

/-! ## Which messages have a diagnostic -/

/-- A text that the diagnostic of a message would keep is broken: its message, or its rule unless it
is fatal. -/
def KeepsBroken (message : List (Value × Value)) : Prop :=
  ¬(member message "message").UnbrokenPart ∨
    (member message "fatal").truthy = false ∧ ¬(member message "ruleId").UnbrokenPart

/-- The diagnostic of a message in which no text is broken. -/
def normalised (message : List (Value × Value)) : Diagnostic :=
  let fatal := (member message "fatal").truthy
  { ruleId := if fatal then none else (member message "ruleId").text?
    severity := if fatal || Value.equal (member message "severity") (.int 2) then .error
      else .warning
    message := Text.stripText (messageText (member message "message"))
    fatal := fatal
    line := (member message "line").integer?
    column := (member message "column").integer? }

theorem messageRule_of_unbroken {v : Value} (h : v.UnbrokenPart) :
    messageRule v = .ok v.text? := by
  cases v <;> first | rfl | cases h

theorem checkedMessageText_of_unbroken {v : Value} (h : v.UnbrokenPart) :
    checkedMessageText v = .ok (Text.stripText (messageText v)) := by
  cases v <;> first | rfl | cases h

theorem messageRule_of_broken {v : Value} (h : ¬v.UnbrokenPart) :
    ∃ issues, messageRule v = .error issues := by
  cases v <;> first | exact ⟨_, rfl⟩ | exact absurd trivial h

theorem checkedMessageText_of_broken {v : Value} (h : ¬v.UnbrokenPart) :
    ∃ issues, checkedMessageText v = .error issues := by
  cases v <;> first | exact ⟨_, rfl⟩ | exact absurd trivial h

/-- A message has a diagnostic unless that would keep a broken text. -/
theorem ofMessage_eq {message : List (Value × Value)} (h : ¬KeepsBroken message) :
    ofMessage message = .ok (normalised message) := by
  obtain ⟨hmessage, hrule⟩ := not_or.1 h
  rw [not_not] at hmessage
  unfold ofMessage normalised
  cases hfatal : (member message "fatal").truthy with
  | true => simp only [if_true, checkedMessageText_of_unbroken hmessage]; rfl
  | false =>
    have hunbroken : (member message "ruleId").UnbrokenPart := by
      by_contra hbroken
      exact hrule ⟨hfatal, hbroken⟩
    simp only [Bool.false_eq_true, if_false, checkedMessageText_of_unbroken hmessage,
      messageRule_of_unbroken hunbroken]
    rfl

/-- A message that has no diagnostic is refused as an invalid record. -/
theorem ofMessage_eq_error {message : List (Value × Value)} {failure : Failure}
    (h : ofMessage message = .error failure) : ∃ issues, failure = .validation issues := by
  obtain ⟨issues, -, hfailure⟩ := mapError_eq_error.1 h
  exact ⟨issues, hfailure⟩

/-- A message whose diagnostic would keep a broken text has none. -/
theorem ofMessage_of_broken {message : List (Value × Value)} (h : KeepsBroken message) :
    ∃ failure, ofMessage message = .error failure := by
  cases hresult : ofMessage message with
  | error failure => exact ⟨failure, rfl⟩
  | ok d =>
    exfalso
    -- both checks must have succeeded
    obtain ⟨_, _, hrule, hmessage, -⟩ := Checked.apply_eq_ok_iff.1 (mapError_eq_ok.1 hresult)
    obtain ⟨_, _, -, hrule, -⟩ := Checked.apply_eq_ok_iff.1 hrule
    rw [Checked.under_eq_ok_iff] at hrule hmessage
    rcases h with hbroken | ⟨hfatal, hbroken⟩
    · obtain ⟨issues, hissues⟩ := checkedMessageText_of_broken hbroken
      rw [hissues] at hmessage
      cases hmessage
    · obtain ⟨issues, hissues⟩ := messageRule_of_broken hbroken
      simp only [hfatal, Bool.false_eq_true, if_false, hissues] at hrule
      cases hrule

/-! ## What a diagnostic says -/

/-- What a diagnostic says about its message. -/
structure Normalises (message : List (Value × Value)) (d : Diagnostic) : Prop where
  /-- It is fatal when the message says so in any way. -/
  fatal : d.fatal = true ↔ (member message "fatal").truthy = true
  /-- It is an error when it is fatal or the severity counts two, and a warning otherwise. -/
  severity : d.severity = .error ↔ d.fatal = true ∨ (member message "severity").rational? = some 2
  /-- It has a rule when it is not fatal and the rule of the message is a text. -/
  rule : ∀ rule, d.ruleId = some rule ↔
    d.fatal = false ∧ (member message "ruleId").text? = some rule
  /-- What counts as absent is an empty message. -/
  absent : (member message "message").truthy = false → d.message = ""
  /-- A text is the message without the white space at its ends. -/
  text : ∀ text, member message "message" = .str text → d.message = Text.stripText text
  /-- Anything else is the message as it is displayed. -/
  displayed : (member message "message").truthy = true →
    (∀ text, member message "message" ≠ .str text) →
      d.message = Text.stripText (member message "message").display
  /-- It has the line when that is an integer. -/
  line : ∀ n, d.line = some n ↔ (member message "line").IsInteger n
  /-- It has the column when that is an integer. -/
  column : ∀ n, d.column = some n ↔ (member message "column").IsInteger n

theorem messageText_str (text : String) : messageText (.str text) = text := by
  unfold messageText
  by_cases hempty : text = ""
  · rw [hempty]
    rfl
  · exact if_pos (bne_iff_ne.2 hempty)

theorem normalises_normalised (message : List (Value × Value)) :
    Normalises message (normalised message) where
  fatal := Iff.rfl
  severity := by
    rw [← Int.cast_ofNat, ← Value.equal_int_iff]
    unfold normalised
    dsimp only
    split <;> simp_all
  rule := fun rule => by
    unfold normalised
    dsimp only
    cases (member message "fatal").truthy <;> simp
  absent := fun h => by
    show Text.stripText (messageText _) = ""
    rw [messageText, h]
    rfl
  text := fun text h => by
    show Text.stripText (messageText _) = Text.stripText text
    rw [h, messageText_str]
  displayed := fun htruthy _ => by
    show Text.stripText (messageText _) = _
    rw [messageText, if_pos htruthy]
  line := fun _ => Value.integer?_eq_some_iff
  column := fun _ => Value.integer?_eq_some_iff

end Diagnostic

/-! ## Reports in which no text is broken -/

/-- The member of a table is something in it, or null. -/
theorem unbroken_member {fields : List (Value × Value)} (h : (Value.dict fields).Unbroken)
    (name : String) : (Diagnostic.member fields name).Unbroken := by
  unfold Diagnostic.member
  cases hfind : Entries.find? (Value.str name) fields with
  | none => exact .of_leaf rfl trivial
  | some v =>
    obtain ⟨e, hmem, -, rfl⟩ := Entries.mem_of_find? hfind
    exact Value.unbroken_dict.1 h e hmem

theorem not_keepsBroken_of_messageIn {entries : List Value} {message : List (Value × Value)}
    (hwhole : (Value.list entries).Unbroken) (hmessage : MessageIn entries message) :
    ¬Diagnostic.KeepsBroken message := by
  obtain ⟨fields, messages, hentry, hlist, hmem⟩ := hmessage
  have hmessages : (Value.list messages).Unbroken :=
    hlist ▸ unbroken_member (Value.unbroken_list.1 hwhole _ hentry) "messages"
  have htable : (Value.dict message).Unbroken := Value.unbroken_list.1 hmessages _ hmem
  rintro (hbroken | ⟨-, hbroken⟩)
  · exact hbroken (unbroken_member htable "message").self
  · exact hbroken (unbroken_member htable "ruleId").self

/-- **A report is read with a diagnostic for each of its messages**, in the order of the report. -/
theorem readReport_normalises {stdout : String} {entries : List Value}
    (hread : Json.read stdout = .ok (.list entries)) (hwhole : (Value.list entries).Unbroken) :
    ∃ messages diagnostics, MessagesOf entries messages ∧ readReport stdout = .ok diagnostics ∧
      List.Forall₂ Diagnostic.Normalises messages diagnostics := by
  have hall : ∀ message ∈ entries.flatMap entryMessages,
      Diagnostic.ofMessage message = .ok (Diagnostic.normalised message) := fun message hmem =>
    Diagnostic.ofMessage_eq
      (not_keepsBroken_of_messageIn hwhole (mem_flatMap_entryMessages.1 hmem))
  refine ⟨_, (entries.flatMap entryMessages).map Diagnostic.normalised,
    messagesOf_flatMap entries, ?_, ?_⟩
  · rw [readReport_of_read hread]
    exact mapM_eq_ok_map hall
  · rw [List.forall₂_map_right_iff, List.forall₂_same]
    exact fun message _ => Diagnostic.normalises_normalised message

/-! ### A report with odd entries -/

/-- Two entries that name no messages, and one that lists a fatal message with a rule, an error of
another shape, and something that is no message. -/
def oddReport : String :=
  "[1, \x7b\"messages\": null\x7d, \x7b\"messages\": [" ++
    "\x7b\"fatal\": 1, \"ruleId\": \"no-var\", \"message\": \" odd \", \"line\": true\x7d, " ++
    "\x7b\"severity\": 2.0, \"ruleId\": \"no-var\", \"message\": [], \"line\": \"3\"\x7d, null]\x7d]"

/-- What that text holds. -/
def oddEntries : List Value :=
  [.int 1, .dict [(.str "messages", .null)],
    .dict [(.str "messages", .list
      [.dict [(.str "fatal", .int 1), (.str "ruleId", .str "no-var"), (.str "message", .str " odd "),
          (.str "line", .bool true)],
        .dict [(.str "severity", .float (.finite false (2 ^ 52) (-51))),
          (.str "ruleId", .str "no-var"), (.str "message", .list []), (.str "line", .str "3")],
        .null])]]

/-- Both messages of it become diagnostics. -/
theorem readReport_normalises_oddReport :
    Json.read oddReport = .ok (.list oddEntries) ∧ (Value.list oddEntries).Unbroken ∧
      ∃ messages diagnostics, messages.length = 2 ∧ readReport oddReport = .ok diagnostics ∧
        List.Forall₂ Diagnostic.Normalises messages diagnostics := by
  have hread : Json.read oddReport = .ok (.list oddEntries) := by decide +kernel
  have hwhole : (Value.list oddEntries).Unbroken := by decide
  obtain ⟨messages, diagnostics, hmessages, hreport, hall⟩ := readReport_normalises hread hwhole
  have hcount : messages.length = 2 := messagesOf_iff.1 hmessages ▸ rfl
  exact ⟨hread, hwhole, messages, diagnostics, hcount, hreport, hall⟩

end LayeredLint
