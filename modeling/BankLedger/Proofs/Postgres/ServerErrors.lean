import BankLedger.Proofs.Postgres.Rows
import BankLedger.Proofs.Postgres.Verdict

/-!
# Errors of the server

An error report consists of tagged fields in any order.  If no tag comes twice, each part of the
report is the text of one field.  A query whose answer has such a report, before or after rows and
with other messages around it, fails with the code and the wording of that report, and without rows.
-/

namespace BankLedger.Postgres

open BankLedger.Database BankLedger.Sql

/-! ## Fields of a report -/

namespace ServerError

/-- The text of the field with a tag, if there is one. -/
def fieldText (fields : List (UInt8 × Octets)) (tag : Char) : Option String :=
  (fields.lookup (UInt8.ofNat tag.toNat)).map Octets.toTextLossy

section

variable {fields : List (UInt8 × Octets)} {tag : Char}

theorem fieldText_cons_self (value : Octets) :
    fieldText ((UInt8.ofNat tag.toNat, value) :: fields) tag = some value.toTextLossy := by
  rw [fieldText, List.lookup_cons_self, Option.map_some]

theorem fieldText_cons_of_ne {other : UInt8} (different : other ≠ UInt8.ofNat tag.toNat)
    (value : Octets) : fieldText ((other, value) :: fields) tag = fieldText fields tag := by
  rw [fieldText, fieldText, List.lookup_cons, beq_false_of_ne different.symm]

theorem fieldText_of_not_mem (missing : UInt8.ofNat tag.toNat ∉ fields.map Prod.fst) :
    fieldText fields tag = none := by
  rw [fieldText, Option.map_eq_none_iff, List.lookup_eq_none_iff]
  intro field member
  rw [bne_iff_ne]
  rintro same
  exact missing (same ▸ List.mem_map_of_mem member)

/-- What a field adds to a part of a report is what its text says, if no later field has its tag. -/
theorem elim_fieldText_cons {Part : Type} {other : UInt8} (once : other ∉ fields.map Prod.fst)
    (value : Octets) (known : Part) (part : String → Part) :
    (fieldText fields tag).elim
        (if other = UInt8.ofNat tag.toNat then part value.toTextLossy else known) part =
      (fieldText ((other, value) :: fields) tag).elim known part := by
  by_cases same : other = UInt8.ofNat tag.toNat
  · subst same
    rw [if_pos rfl, fieldText_of_not_mem once, fieldText_cons_self]
    rfl
  · rw [if_neg same, fieldText_cons_of_ne same]

/-- Where no tag comes twice, the order of the fields does not matter. -/
theorem fieldText_of_mem (once : (fields.map Prod.fst).Nodup) {value : Octets}
    (member : (UInt8.ofNat tag.toNat, value) ∈ fields) :
    fieldText fields tag = some value.toTextLossy := by
  induction fields with
  | nil => cases member
  | cons field others inductionHypothesis =>
      obtain ⟨other, text⟩ := field
      rw [List.map_cons, List.nodup_cons] at once
      rcases List.mem_cons.mp member with same | later
      · cases same
        exact fieldText_cons_self value
      · have different : other ≠ UInt8.ofNat tag.toNat := by
          rintro rfl
          exact once.1 (List.mem_map.mpr ⟨_, later, rfl⟩)
        rw [fieldText_cons_of_ne different, inductionHypothesis once.2 later]

theorem ofNat_toNat_eq_iff {octet : UInt8} (small : tag.toNat < 256) :
    Char.ofNat octet.toNat = tag ↔ octet = UInt8.ofNat tag.toNat := by
  constructor
  · rintro rfl
    have valid : octet.toNat.isValidChar := .inl (Nat.lt_trans octet.toNat_lt (by decide))
    have code : (Char.ofNat octet.toNat).toNat = octet.toNat := by
      rw [Char.ofNat, dif_pos valid]
      rfl
    rw [code, UInt8.ofNat_toNat]
  · rintro rfl
    rw [UInt8.toNat_ofNat', Nat.mod_eq_of_lt small, Char.ofNat_toNat]

end

/-- A field changes the part of the report that its tag names, and no other. -/
theorem addField_eq (known : ServerError) (localized : Option String) (tag : UInt8)
    (value : Octets) :
    addField (known, localized) (tag, value) =
      let text := value.toTextLossy
      (⟨if tag = UInt8.ofNat 'V'.toNat then text else known.severity,
        if tag = UInt8.ofNat 'C'.toNat then text else known.code,
        if tag = UInt8.ofNat 'M'.toNat then text else known.message,
        if tag = UInt8.ofNat 'D'.toNat then some text else known.detail,
        if tag = UInt8.ofNat 'H'.toNat then some text else known.hint⟩,
        if tag = UInt8.ofNat 'S'.toNat then some text else localized) := by
  simp (disch := decide) only [addField, ← ofNat_toNat_eq_iff]
  split <;> simp_all

/-- The parts of a report in which no tag comes twice. -/
theorem foldl_addField {fields : List (UInt8 × Octets)} (once : (fields.map Prod.fst).Nodup)
    (known : ServerError) (localized : Option String) :
    fields.foldl addField (known, localized) =
      (⟨(fieldText fields 'V').elim known.severity id, (fieldText fields 'C').elim known.code id,
        (fieldText fields 'M').elim known.message id,
        (fieldText fields 'D').elim known.detail some,
        (fieldText fields 'H').elim known.hint some⟩,
        (fieldText fields 'S').elim localized some) := by
  induction fields generalizing known localized with
  | nil => rfl
  | cons field others inductionHypothesis =>
      obtain ⟨tag, value⟩ := field
      rw [List.map_cons, List.nodup_cons] at once
      rw [List.foldl_cons, addField_eq, inductionHypothesis once.2]
      simp only [← elim_fieldText_cons once.1, id]

/-- The report whose severity is known and whose other parts are in its fields. -/
theorem ofFields_eq {fields : List (UInt8 × Octets)} (once : (fields.map Prod.fst).Nodup)
    {severity : String} (named : fieldText fields 'V' = some severity)
    (known : severity.isEmpty = false) :
    ofFields fields =
      ⟨severity, (fieldText fields 'C').getD "", (fieldText fields 'M').getD "",
        fieldText fields 'D', fieldText fields 'H'⟩ := by
  have text (part : Option String) : part.elim "" id = part.getD "" := by cases part <;> rfl
  have line (part : Option String) : part.elim none some = part := by cases part <;> rfl
  rw [ofFields, foldl_addField once, named]
  simp only [text, line, Option.getD_some, known, Bool.false_eq_true, if_false, blank]

theorem isEmpty_text (report : ServerError) : report.text.isEmpty = false := by
  rw [text, ← Bool.not_eq_true, String.isEmpty_iff]
  simp only [String.append_eq_empty_iff]
  rintro ⟨⟨⟨⟨_, colon⟩, _⟩, _⟩, _⟩
  exact absurd colon (by decide)

theorem toTextLossy_of_severe {severity : String}
    (severe : severity ∈ ["ERROR", "FATAL", "PANIC"]) :
    (Octets.ofText severity).toTextLossy = severity ∧ severity.isEmpty = false := by
  revert severity
  decide +kernel

theorem isError_of_severe {report : ServerError}
    (severe : report.severity ∈ ["ERROR", "FATAL", "PANIC"]) : report.isError = true := by
  rw [isError, Bool.or_eq_true, Bool.or_eq_true, beq_iff_eq, beq_iff_eq, beq_iff_eq, or_assoc]
  simpa only [List.mem_cons, List.not_mem_nil, or_false] using severe

end ServerError

/-! ## Answers with an error -/

theorem vendorMessage_of_detail {detail : String} (told : detail.isEmpty = false)
    (summary : String) :
    vendorMessage summary vendor detail = s!"{summary}. (Postgres 15): {detail}" := by
  have place : toString ". (Postgres 15): " =
      toString ". (" ++ toString vendor ++ toString "): " := by decide
  rw [vendorMessage, told, place, if_neg Bool.false_ne_true, ← String.append_assoc,
    ← String.append_assoc]

/-- A result that failed tells the refined report and keeps no rows. -/
theorem QueryResult.toResultSet_of_fatalError {result : QueryResult} {report : ServerError}
    (failed : result.status = .fatalError) (reported : result.report = some report) :
    let verdict := ServerError.refine (some report)
    result.toResultSet vendor =
      .status verdict.1 s!"{verdict.2}. (Postgres 15): {report.text}" := by
  intro verdict
  have refined : result.verdict = verdict := by rw [QueryResult.verdict, failed, reported]; rfl
  have unsuccessful : verdict.1 ≠ .ok := by
    intro success
    have failure : verdict.1.isError = true := ServerError.isError_refine (some report)
    rw [success] at failure
    cases failure
  rw [toResultSet, message, refined, if_neg unsuccessful, reported]
  exact congrArg (ResultSet.status verdict.1)
    (vendorMessage_of_detail report.isEmpty_text verdict.2)

namespace Utterance

/-- Whether a message can come before the end of a query is known: the query is accepted, its
columns are described or it has none, and rows come. -/
def isPreliminary : Utterance → Bool
  | .parseComplete | .bindComplete | .noData | .rowDescription _ | .dataRow _ => true
  | utterance => utterance.isAsynchronous

theorem isReady_of_isPreliminary {utterance : Utterance}
    (preliminary : utterance.isPreliminary = true) : utterance.isReady = false := by
  cases utterance <;> first | rfl | cases preliminary

theorem startsCopy_of_isPreliminary {utterance : Utterance}
    (preliminary : utterance.isPreliminary = true) : utterance.startsCopy = false := by
  cases utterance <;> first | rfl | cases preliminary

theorem isReady_of_isAsynchronous {utterance : Utterance}
    (asynchronous : utterance.isAsynchronous = true) : utterance.isReady = false := by
  cases utterance <;> first | rfl | cases asynchronous

end Utterance

namespace Reply

/-- Messages that leave a reply as it is can come as often as they like. -/
theorem foldl_heed_of_kept {said : List Utterance} {reply : Reply}
    (kept : ∀ utterance ∈ said, reply.heed utterance = reply) : said.foldl heed reply = reply := by
  induction said with
  | nil => rfl
  | cons utterance others inductionHypothesis =>
      rw [List.forall_mem_cons] at kept
      rw [List.foldl_cons, kept.1, inductionHypothesis kept.2]

/-- Whatever came before an error, and whatever comes after it and answers nothing, the reply ends
with that error. -/
theorem result_of_error {before rest : List Utterance}
    (preliminary : ∀ utterance ∈ before, utterance.isPreliminary = true)
    (asynchronous : ∀ utterance ∈ rest, utterance.isAsynchronous = true)
    {fields : List (UInt8 × Octets)} (severe : (ServerError.ofFields fields).isError = true) :
    let result := ((before ++ Utterance.report fields :: rest).foldl heed initial).result
    result.status = .fatalError ∧ result.report = some (ServerError.ofFields fields) := by
  have copying : (before.foldl heed initial).copying = false := by
    rw [copying_foldl_heed, initial, Bool.false_or, List.any_eq_false]
    intro utterance member
    rw [Utterance.startsCopy_of_isPreliminary (preliminary utterance member)]
    exact Bool.false_ne_true
  have kept (reply : Reply) : rest.foldl heed reply = reply :=
    foldl_heed_of_kept fun utterance member =>
      heed_of_asynchronous (asynchronous utterance member) reply
  rw [List.foldl_append, List.foldl_cons, kept, heed, reported, copying, severe]
  exact ⟨rfl, rfl⟩

end Reply

namespace Session

variable {m : Type → Type} [Monad m] {World Line : Type}
variable {network : Network m Line} {execution : Execution m World} {session : Session Line}
variable {pending : World → List Octets}

/-- An error of the server is never taken for a success.  Let a healthy session put a query that can
be sent, and let the server accept it, describe columns and bring rows as far as it gets, and then
report an error, with messages that answer nothing wherever it likes.  The fields of the report come
in any order, each tag once at most, and the field with the tag `V` names the severity.  Then the
query fails with the code that the report is refined to, without fields and rows; its message has
the summary of that code and the text of the report.  The session stays healthy, and what it has not
read yet is what follows the answer. -/
theorem errors_of_the_server_are_told
    (feeds : network.Feeds execution session.line pending) (healthy : session.broken = false)
    {text : String} {parameters : List WireText} {octets : Octets}
    (encodes : ClientMessage.encodeAll (ClientMessage.ofQuery text parameters) = .ok octets)
    {before rest : List Utterance} {fields : List (UInt8 × Octets)} {severity : String}
    (preliminary : ∀ utterance ∈ before, utterance.isPreliminary = true)
    (asynchronous : ∀ utterance ∈ rest, utterance.isAsynchronous = true)
    (wellFormed : ∀ utterance ∈ before ++ .report fields :: rest, utterance.WellFormed)
    (once : (fields.map Prod.fst).Nodup) (severe : severity ∈ ["ERROR", "FATAL", "PANIC"])
    (named : (UInt8.ofNat 'V'.toNat, Octets.ofText severity) ∈ fields) {status : UInt8}
    {later : Octets} {world : World} (full : ∀ piece ∈ pending world, piece ≠ [])
    (stream : session.unread ++ (pending world).flatten =
      Utterance.answer (before ++ .report fields :: rest) status ++ later)
    (patient : (Utterance.answer (before ++ .report fields :: rest) status).length <
      network.patience) :
    let report : ServerError :=
      ⟨severity, (ServerError.fieldText fields 'C').getD "",
        (ServerError.fieldText fields 'M').getD "", ServerError.fieldText fields 'D',
        ServerError.fieldText fields 'H'⟩
    let verdict := ServerError.refine (some report)
    ∃ unread after,
      execution.run ((backend network).execute session text parameters) world =
        (({ session with unread := unread, broken := false },
          .status verdict.1 s!"{verdict.2}. (Postgres 15): {report.text}"), after) ∧
      verdict.1.isError = true ∧ unread ++ (pending after).flatten = later := by
  intro report verdict
  obtain ⟨lossless, known⟩ := ServerError.toTextLossy_of_severe severe
  have spoken := ServerError.fieldText_of_mem once named
  rw [lossless] at spoken
  have made : ServerError.ofFields fields = report := ServerError.ofFields_eq once spoken known
  have isError : (ServerError.ofFields fields).isError = true := by
    rw [made]
    exact ServerError.isError_of_severe severe
  have unready : ∀ utterance ∈ before ++ .report fields :: rest, utterance.isReady = false := by
    rw [List.forall_mem_append, List.forall_mem_cons]
    refine ⟨fun utterance member => ?_, rfl, fun utterance member => ?_⟩
    · exact Utterance.isReady_of_isPreliminary (preliminary utterance member)
    · exact Utterance.isReady_of_isAsynchronous (asynchronous utterance member)
  obtain ⟨unread, after, returned, follows⟩ :=
    run_execute_of_answer feeds healthy encodes wellFormed unready full stream patient
  obtain ⟨failed, reported⟩ := Reply.result_of_error preliminary asynchronous isError
  rw [made] at reported
  rw [QueryResult.toResultSet_of_fatalError failed reported] at returned
  exact ⟨unread, after, returned, ServerError.isError_refine (some report), follows⟩

/-- A row comes before the error, whose fields are in an unusual order, with a localised severity
and a field that a session does not know. -/
theorem errors_of_the_server_are_told_after_a_row :
    let before : List Utterance :=
      [.parseComplete, .bindComplete, .rowDescription [⟨"id", 0, 0, 20, 8, 0, 0⟩],
        .dataRow [some [49]], .notice [(86, Octets.ofText "WARNING")]]
    let fields : List (UInt8 × Octets) :=
      [(77, Octets.ofText "twice"), (86, Octets.ofText "ERROR"), (83, Octets.ofText "FEHLER"),
        (120, [255]), (72, Octets.ofText "once"), (67, Octets.ofText "23505")]
    let answer := Utterance.answer (before ++ .report fields :: [.parameterStatus [65] [66]]) 73
    let network := ScriptedNetwork.network ""
    let session : Session Nat := ⟨0, [], false⟩
    let world : ScriptedNetwork :=
      ⟨#[.ofScript [.send (answer.take 7), .send (answer.drop 7)]], []⟩
    ∃ unread after,
      Execution.direct.run ((backend network).execute session "CALL" []) world =
        (({ session with unread := unread, broken := false },
          .status .uniqueConstraintViolation
            "Entry already in database. (Postgres 15): ERROR:  twice\nHINT:  once"), after) := by
  intro before fields answer network session world
  have feeds : network.Feeds .direct session.line (ScriptedNetwork.pending 0) :=
    ScriptedNetwork.feeds "" 0
  obtain ⟨octets, encodes⟩ : ∃ octets,
      ClientMessage.encodeAll (ClientMessage.ofQuery "CALL" []) = .ok octets := ⟨_, rfl⟩
  have preliminary : ∀ utterance ∈ before, utterance.isPreliminary = true := by decide
  have asynchronous : ∀ utterance ∈ [Utterance.parameterStatus [65] [66]],
      utterance.isAsynchronous = true := by decide
  have wellFormed : ∀ utterance ∈ before ++ .report fields :: [.parameterStatus [65] [66]],
      utterance.WellFormed := by decide
  have once : (fields.map Prod.fst).Nodup := by decide
  have severe : "ERROR" ∈ ["ERROR", "FATAL", "PANIC"] := by decide
  have named : (UInt8.ofNat 'V'.toNat, Octets.ofText "ERROR") ∈ fields := by decide
  have full : ∀ piece ∈ ScriptedNetwork.pending 0 world, piece ≠ [] := by decide
  have stream : session.unread ++ (ScriptedNetwork.pending 0 world).flatten = answer ++ [] := by
    change answer.take 7 ++ (answer.drop 7 ++ []) = _
    rw [List.append_nil, List.append_nil, List.take_append_drop]
  have patient : answer.length < network.patience := by decide +kernel
  obtain ⟨unread, after, returned, _⟩ :=
    errors_of_the_server_are_told feeds rfl encodes preliminary asynchronous wellFormed once severe
      named full stream patient
  have report : (⟨"ERROR", (ServerError.fieldText fields 'C').getD "",
      (ServerError.fieldText fields 'M').getD "", ServerError.fieldText fields 'D',
      ServerError.fieldText fields 'H'⟩ : ServerError) =
      ⟨"ERROR", "23505", "twice", none, some "once"⟩ := by decide +kernel
  rw [report] at returned
  exact ⟨unread, after, returned⟩

end Session

end BankLedger.Postgres
