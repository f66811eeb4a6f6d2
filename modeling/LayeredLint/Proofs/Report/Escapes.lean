import LayeredLint.Proofs.Json.ReadBack
import LayeredLint.Proofs.Report.Normalised

/-!
# Reports that fail otherwise

A report that cannot be read should be an error of the engine. Three kinds of text fail with
something else: an integer too long to be converted, arrays and objects nested too deeply, and a
message whose diagnostic would keep a broken text.

- `Answered`: an answer is a list of diagnostics or an error of the engine.
- `Escapes`: the texts of these three kinds.
- `answered_readReport_iff`: **all other texts are answered, and none of these**. What is wrong with
  them stands in the text: a long run of digits, many brackets, or an escape of half a pair.
- `read_longInteger`: a list of one integer that is too long.
- `readReport_longInteger_escapes`: such a report fails with something else.
-/

namespace LayeredLint

/-- The answer is a list of diagnostics or an error of the engine. -/
def Answered (answer : Except Failure (List Diagnostic)) : Prop :=
  (∃ diagnostics, answer = .ok diagnostics) ∨ ∃ error, answer = .error (.engine error)

theorem not_answered_error {failure : Failure} (h : ∀ error, failure ≠ .engine error) :
    ¬Answered (.error failure) := by
  rintro (⟨_, hok⟩ | ⟨error, herror⟩)
  · cases hok
  · exact h error (Except.error.inj herror)

/-- Reading a report from a text fails with something else than an error of the engine: an integer
is too long, the nesting is too deep, or a diagnostic would keep a broken text. -/
def Escapes (stdout : String) : Prop :=
  (∃ fault, Json.read stdout = .error fault ∧
    (fault.cause = .longInteger ∨ fault.cause = .tooDeep)) ∨
  ∃ entries message, Json.read stdout = .ok (.list entries) ∧ MessageIn entries message ∧
    Diagnostic.KeepsBroken message

/-! ## Which texts are answered -/

theorem not_engine_of_reportDiagnostics {entries : List Value} {failure : Failure}
    (h : reportDiagnostics entries = .error failure) (error : EngineError) :
    failure ≠ .engine error := by
  obtain ⟨message, -, hmessage⟩ := exists_of_mapM_eq_error h
  obtain ⟨issues, rfl⟩ := Diagnostic.ofMessage_eq_error hmessage
  exact nofun

/-- The diagnostics of a report are answered unless one of them would keep a broken text. -/
theorem answered_reportDiagnostics_iff {entries : List Value} :
    Answered (reportDiagnostics entries) ↔
      ∀ message, MessageIn entries message → ¬Diagnostic.KeepsBroken message := by
  constructor
  · rintro (⟨diagnostics, hok⟩ | ⟨error, herror⟩) message hmessage hbroken
    · obtain ⟨failure, hfailure⟩ := Diagnostic.ofMessage_of_broken hbroken
      obtain ⟨d, hd⟩ := exists_of_mapM_eq_ok hok (mem_flatMap_entryMessages.2 hmessage)
      cases hfailure.symm.trans hd
    · exact absurd rfl (not_engine_of_reportDiagnostics herror error)
  · intro h
    refine .inl ⟨_, mapM_eq_ok_map fun message hmem => Diagnostic.ofMessage_eq ?_⟩
    exact h message (mem_flatMap_entryMessages.1 hmem)

/-- What is no document is answered, unless it is the reader that gave up. -/
theorem answered_of_read_error {stdout : String} {fault : Json.Fault}
    (h : Json.read stdout = .error fault) :
    Answered (readReport stdout) ↔ ¬(fault.cause = .longInteger ∨ fault.cause = .tooDeep) := by
  by_cases hempty : stdout = ""
  · subst hempty
    cases h
    exact iff_of_true (.inl ⟨[], rfl⟩) (by decide)
  · simp only [readReport, if_neg hempty, h]
    have hfault : ∀ fault, ¬Answered (impossible fault) := fun fault =>
      not_answered_error fun error h => by cases h
    split
    · next hcause => exact iff_of_false (hfault _) (not_not.2 (.inl hcause))
    · next hcause => exact iff_of_false (hfault _) (not_not.2 (.inr hcause))
    · next hlong hdeep => exact iff_of_true (.inr ⟨_, rfl⟩) (not_or.2 ⟨hlong, hdeep⟩)

/-- A document that is no list is no report, and what becomes of a list is told by its messages. -/
theorem answered_of_read_ok {stdout : String} {v : Value} (h : Json.read stdout = .ok v) :
    Answered (readReport stdout) ↔ ∀ entries message, v = .list entries →
      MessageIn entries message → ¬Diagnostic.KeepsBroken message := by
  by_cases hlist : ∃ entries, v = .list entries
  · obtain ⟨entries, rfl⟩ := hlist
    rw [readReport_of_read h, answered_reportDiagnostics_iff]
    constructor
    · rintro hall _ message ⟨⟩
      exact hall message
    · exact fun hall message => hall entries message rfl
  · have hother : Answered (readReport stdout) := by
      simp only [readReport, if_neg (ne_empty_of_read h), h]
      split
      · next entries hentries => exact absurd ⟨entries, Except.ok.inj hentries⟩ hlist
      · exact .inr ⟨_, rfl⟩
      · next hfault => cases hfault
    exact iff_of_true hother fun entries _ hentries => absurd ⟨entries, hentries⟩ hlist

theorem answered_iff_not_escapes (stdout : String) :
    Answered (readReport stdout) ↔ ¬Escapes stdout := by
  cases hread : Json.read stdout with
  | error fault =>
    rw [answered_of_read_error hread]
    refine not_congr ⟨fun hcause => .inl ⟨fault, hread, hcause⟩, ?_⟩
    rintro (⟨_, h, hcause⟩ | ⟨_, _, h, -⟩)
    · cases hread.symm.trans h
      exact hcause
    · cases hread.symm.trans h
  | ok v =>
    rw [answered_of_read_ok hread]
    constructor
    · rintro hall (⟨_, h, -⟩ | ⟨entries, message, h, hmessage, hbroken⟩)
      · cases hread.symm.trans h
      · exact hall entries message (Except.ok.inj (hread.symm.trans h)) hmessage hbroken
    · rintro hescapes entries message rfl hmessage hbroken
      exact hescapes (.inr ⟨entries, message, hread, hmessage, hbroken⟩)

/-- What is wrong with a text that fails otherwise stands in it. -/
theorem text_of_escapes {stdout : String} (h : Escapes stdout) :
    Json.LongRun 4300 stdout.toList ∨ 988 < Json.openings stdout.toList ∨
      Json.SurrogateEscape stdout.toList := by
  rcases h with ⟨fault, hread, hcause | hcause⟩ | ⟨entries, message, hread, hmessage, hbroken⟩
  · exact .inl (Json.longRun_of_read hread hcause)
  · exact .inr (.inl (Json.openings_of_read hread hcause))
  · refine .inr (.inr ?_)
    by_contra hescape
    have hwhole := Json.unbroken_of_read hread hescape
    exact not_keepsBroken_of_messageIn hwhole hmessage hbroken

/-- **Every text is answered with diagnostics or with an error of the engine, unless it fails
otherwise**, and then it has a run of more than 4300 digits, opens more than 988 brackets, or has an
escape that may be half of a pair. The 988 brackets are for one depth of the stack, as `usualLimits`
says. -/
theorem answered_readReport_iff (stdout : String) :
    (((∃ diagnostics, readReport stdout = .ok diagnostics) ∨
        ∃ error, readReport stdout = .error (.engine error)) ↔ ¬Escapes stdout) ∧
      (Escapes stdout → Json.LongRun 4300 stdout.toList ∨ 988 < Json.openings stdout.toList ∨
        Json.SurrogateEscape stdout.toList) :=
  ⟨answered_iff_not_escapes stdout, text_of_escapes⟩

/-! ### Integers that are too long -/

/-- The text of a list of one integer. -/
def integerReport (n : Int) : String :=
  String.ofList ('[' :: (Json.intText n ++ [']']))

open Json in
/-- The reader gives up at an integer of too many digits. -/
theorem read_integerReport {n : Int} (h : 4300 < (Nat.toDigits 10 n.natAbs).length) :
    ∃ left, Json.read (integerReport n) = .error ⟨.longInteger, left⟩ := by
  have hended : Ended [']'] := ended_of_mem (by decide) []
  obtain ⟨c, cs, htext, hc⟩ := exists_start_intText n
  have hopens : Opens c := hc.imp_left (by rintro rfl; decide)
  have hnumber : readNumber Text.digitLimit (intText n ++ [']']) =
      refuse .longInteger (intText n ++ [']']) :=
    (readNumber_intText _ n hended).trans (if_pos h)
  have hitems : ∀ fuel, readItems Text.digitLimit 987 (fuel + 2) (intText n ++ [']']) =
      refuse .longInteger (intText n ++ [']']) := by
    intro fuel
    unfold readItems
    rw [readValue_intText, hnumber]
    rfl
  refine ⟨(intText n ++ [']']).length, ?_⟩
  unfold Json.read readWithin integerReport
  simp only [String.toList_ofList]
  rw [htext, List.cons_append] at hitems ⊢
  show (readValue Text.digitLimit 988 _ ('[' :: c :: (cs ++ [']'])) >>= _) = _
  rw [readValue_bracket hopens, List.length_cons, List.length_cons, Nat.mul_add, hitems]
  rfl

/-- A report of one integer of too many digits fails otherwise. -/
theorem readReport_integerReport {n : Int} (h : 4300 < (Nat.toDigits 10 n.natAbs).length) :
    readReport (integerReport n) = .error (.fault .longInteger) := by
  obtain ⟨left, hread⟩ := read_integerReport h
  have hne : integerReport n ≠ "" := by
    intro hempty
    rw [hempty] at hread
    cases hread
  simp only [readReport, if_neg hne, hread]
  rfl

/-- A power of ten has a digit more than its exponent. -/
theorem lt_length_toDigits_pow {k : Nat} (hk : 0 < k) :
    k < (Nat.toDigits 10 ((10 : Int) ^ k).natAbs).length := by
  rw [Int.natAbs_pow, ← Nat.not_le, Nat.length_toDigits_le_iff (by decide) hk]
  exact Nat.lt_irrefl _

/-- One followed by 4300 zeros has a digit more than is converted. -/
theorem readReport_longInteger_escapes :
    readReport (integerReport (10 ^ 4300)) = .error (.fault .longInteger) ∧
      ¬((∃ diagnostics, readReport (integerReport (10 ^ 4300)) = .ok diagnostics) ∨
        ∃ error, readReport (integerReport (10 ^ 4300)) = .error (.engine error)) := by
  have hfault := readReport_integerReport (lt_length_toDigits_pow (show 0 < 4300 by decide))
  refine ⟨hfault, ?_⟩
  rw [hfault]
  exact not_answered_error nofun

end LayeredLint
