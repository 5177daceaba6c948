import Mathlib.Data.List.Induction
import BankLedger.Postgres.Server
import BankLedger.Proofs.Postgres.Answer
import BankLedger.Proofs.Sql.ResultSet

/-!
# Verdicts on answers

The backend turns the answer to a query into a result set, and the code of that result set is the
verdict on the answer.  It hangs on the last message that settles the status of the reply.  Some
messages object to a success and some prevail over all objections before them; which of them do
depends on whether a copy was started and whether an error or a warning was reported before.
-/

namespace BankLedger.Postgres

open BankLedger.Database BankLedger.Sql

/-! ## Codes of results -/

namespace QueryResult

variable (result : QueryResult)

theorem code_toResultSet (vendor : String) :
    (result.toResultSet vendor).code = result.verdict.1 := by
  rw [toResultSet]
  split
  next success =>
    rw [ResultSet.code_pushRows, success]
    rfl
  next => rfl

/-- A refined failure stays a failure, so only the status makes a success. -/
theorem verdict_eq_ok_iff : result.verdict.1 = .ok ↔ result.status.code = .ok := by
  have refined : (ServerError.refine result.report).1 ≠ .ok := by
    intro success
    have failure := ServerError.isError_refine result.report
    rw [success] at failure
    cases failure
  rw [verdict]
  cases result.status <;> simp [QueryStatus.code, refined]

end QueryResult

/-! ## Messages that settle the status -/

namespace Utterance

/-- Whether a message starts a copy. -/
def startsCopy : Utterance → Bool
  | .copyIn .. | .copyOut .. => true
  | _ => false

/-- Whether a message is a report, of an error or of less. -/
def isReport : Utterance → Bool
  | .report _ => true
  | _ => false

/-- Whether a message reports an error. -/
def isSevere : Utterance → Bool
  | .report fields => (ServerError.ofFields fields).isError
  | _ => false

/-- Whether a message has no place in the answer to a query. -/
def isUnexpected : Utterance → Bool
  | .authenticated | .passwordRequest | .md5Request _ | .saslRequest _ | .saslContinue _
  | .saslFinal _ | .foreignAuthentication _ | .keyData .. | .closeComplete | .portalSuspended
  | .parameterDescription _ => true
  | _ => false

/-- Whether a message confirms that the query was carried out, or that there was nothing in it to
carry out. -/
def confirms : Utterance → Bool
  | .commandComplete _ | .emptyQuery => true
  | _ => false

/-- Whether a message speaks against the success of a query. -/
def isAdverse (utterance : Utterance) : Bool :=
  utterance.startsCopy || utterance.isUnexpected || utterance.isReport

/-- Whether a message objects to the success of a query when some messages came before it.  A report
does not object during a copy. -/
def objects (before : List Utterance) (utterance : Utterance) : Bool :=
  utterance.startsCopy || utterance.isUnexpected ||
    utterance.isReport && !before.any startsCopy

/-- Whether a message prevails over all objections before it.  An empty query always does, and a
completion does unless a copy was started or something was reported. -/
def prevails (before : List Utterance) : Utterance → Bool
  | .emptyQuery => true
  | .commandComplete _ => !before.any startsCopy && !before.any isReport
  | _ => false

theorem objects_eq_false_of_prevails {before : List Utterance} {utterance : Utterance}
    (prevails : utterance.prevails before = true) : utterance.objects before = false := by
  cases utterance <;> first | rfl | cases prevails

theorem confirms_of_prevails {before : List Utterance} {utterance : Utterance}
    (prevails : utterance.prevails before = true) : utterance.confirms = true := by
  cases utterance <;> first | rfl | cases prevails

/-- Every objection in an answer is overruled by a message that comes later and prevails. -/
def Overruled (said : List Utterance) : Prop :=
  ∀ before objection after, said = before ++ objection :: after →
    objection.objects before = true →
      ∃ between confirmation later, after = between ++ confirmation :: later ∧
        confirmation.prevails (before ++ objection :: between) = true

theorem overruled_nil : Overruled [] := by
  intro before objection after whole
  exact absurd whole.symm (List.append_ne_nil_of_right_ne_nil _ (List.cons_ne_nil _ _))

/-- The last message either prevails, or does not object and leaves things as they were. -/
theorem overruled_append_singleton (said : List Utterance) (last : Utterance) :
    Overruled (said ++ [last]) ↔
      last.prevails said = true ∨ last.objects said = false ∧ Overruled said := by
  constructor
  · intro overruled
    rw [or_iff_not_imp_left, Bool.not_eq_true]
    intro yields
    constructor
    · by_contra objects
      rw [Bool.not_eq_false] at objects
      obtain ⟨between, confirmation, later, nothing, _⟩ := overruled said last [] rfl objects
      exact absurd nothing.symm (List.append_ne_nil_of_right_ne_nil _ (List.cons_ne_nil _ _))
    · rintro before objection after rfl objects
      obtain ⟨between, confirmation, later, rest, prevails⟩ :=
        overruled before objection (after ++ [last]) (by simp) objects
      rcases List.eq_nil_or_concat later with rfl | ⟨others, final, rfl⟩
      · obtain ⟨rfl, same⟩ := List.append_inj' rest rfl
        cases same
        rw [prevails] at yields
        cases yields
      · rw [List.concat_eq_append, ← List.cons_append, ← List.append_assoc] at rest
        obtain ⟨same, _⟩ := List.append_inj' rest rfl
        exact ⟨between, confirmation, others, same, prevails⟩
  · intro settled before objection after whole objects
    rcases List.eq_nil_or_concat after with rfl | ⟨between, final, rfl⟩
    · obtain ⟨rfl, same⟩ := List.append_inj' whole rfl
      cases same
      rcases settled with prevails | ⟨silent, _⟩
      · rw [objects_eq_false_of_prevails prevails] at objects
        cases objects
      · rw [silent] at objects
        cases objects
    · rw [List.concat_eq_append, ← List.cons_append, ← List.append_assoc] at whole
      obtain ⟨rfl, same⟩ := List.append_inj' whole rfl
      cases same
      rcases settled with prevails | ⟨_, overruled⟩
      · exact ⟨between, last, [], List.concat_eq_append, prevails⟩
      · obtain ⟨first, confirmation, later, rfl, prevails⟩ :=
          overruled before objection between rfl objects
        exact ⟨first, confirmation, later ++ [last], by simp, prevails⟩

/-- Some message of an answer prevails although a message before it speaks against success. -/
def Overridden (said : List Utterance) : Prop :=
  ∃ before confirmation after adverse, said = before ++ confirmation :: after ∧
    confirmation.prevails before = true ∧ adverse ∈ before ∧ adverse.isAdverse = true

/-- A message that speaks against success objects itself, or a copy was started before it. -/
theorem exists_objection (before : List Utterance) {adverse : Utterance}
    (isAdverse : adverse.isAdverse = true) (after : List Utterance) :
    ∃ front objection rest, before ++ adverse :: after = front ++ objection :: rest ∧
      objection.objects front = true ∧ objection.isAdverse = true := by
  by_cases copied : before.any startsCopy = true
  · obtain ⟨copy, held, starts⟩ := List.any_eq_true.mp copied
    obtain ⟨front, between, rfl⟩ := List.append_of_mem held
    exact ⟨front, copy, between ++ adverse :: after, by simp, by simp [objects, starts],
      by simp [Utterance.isAdverse, starts]⟩
  · refine ⟨before, adverse, after, rfl, ?_, isAdverse⟩
    rw [Bool.not_eq_true] at copied
    rwa [objects, copied, Bool.not_false, Bool.and_true]

theorem Overruled.overridden {said : List Utterance} (overruled : Overruled said)
    {adverse : Utterance} (member : adverse ∈ said) (isAdverse : adverse.isAdverse = true) :
    Overridden said := by
  obtain ⟨before, after, rfl⟩ := List.append_of_mem member
  obtain ⟨front, objection, rest, whole, objects, stillAdverse⟩ :=
    exists_objection before isAdverse after
  obtain ⟨between, confirmation, later, rfl, prevails⟩ :=
    overruled front objection rest whole objects
  exact ⟨front ++ objection :: between, confirmation, later, objection, by simp [whole], prevails,
    by simp, stillAdverse⟩

theorem Overridden.confirmed {said : List Utterance} (overridden : Overridden said) :
    ∃ utterance ∈ said, utterance.confirms = true := by
  obtain ⟨before, confirmation, after, _, rfl, prevails, _⟩ := overridden
  exact ⟨confirmation, by simp, confirms_of_prevails prevails⟩

end Utterance

/-! ## Replies -/

namespace Reply

open Utterance

theorem copying_heed (reply : Reply) (utterance : Utterance) :
    (reply.heed utterance).copying = (reply.copying || utterance.startsCopy) := by
  cases utterance with
  | commandComplete tag =>
      rw [heed, complete]
      split <;> simp [startsCopy]
  | _ => simp [heed, reported, startsCopy]

theorem isSome_report_heed (reply : Reply) (utterance : Utterance) :
    (reply.heed utterance).report.isSome = (reply.report.isSome || utterance.isReport) := by
  cases utterance with
  | commandComplete tag =>
      rw [heed, complete]
      split <;> simp [isReport]
  | _ => simp [heed, reported, isReport]

theorem copying_foldl_heed (said : List Utterance) (reply : Reply) :
    (said.foldl heed reply).copying = (reply.copying || said.any startsCopy) := by
  induction said generalizing reply with
  | nil => simp
  | cons utterance others inductionHypothesis =>
      rw [List.foldl_cons, inductionHypothesis, copying_heed, List.any_cons, Bool.or_assoc]

theorem isSome_report_foldl_heed (said : List Utterance) (reply : Reply) :
    (said.foldl heed reply).report.isSome = (reply.report.isSome || said.any isReport) := by
  induction said generalizing reply with
  | nil => simp
  | cons utterance others inductionHypothesis =>
      rw [List.foldl_cons, inductionHypothesis, isSome_report_heed, List.any_cons, Bool.or_assoc]

/-- What one message does to the success of a reply. -/
theorem code_heed_eq_ok_iff {reply : Reply} {before : List Utterance}
    (copying : reply.copying = before.any startsCopy)
    (reported : reply.report.isSome = before.any isReport) (utterance : Utterance) :
    (reply.heed utterance).status.code = .ok ↔
      utterance.prevails before = true ∨
        utterance.objects before = false ∧ reply.status.code = .ok := by
  cases utterance with
  | commandComplete tag =>
      have silent : (commandComplete tag).objects before = false := rfl
      have strength : (commandComplete tag).prevails before =
          (!before.any startsCopy && !before.any isReport) := rfl
      rw [silent, strength, heed, complete, copying, reported]
      cases before.any startsCopy <;> cases before.any isReport <;> cases reply.described <;>
        simp [QueryStatus.code]
  | report fields =>
      have weight : (Utterance.report fields).objects before = !before.any startsCopy := rfl
      have yields : (Utterance.report fields).prevails before = false := rfl
      rw [weight, yields, heed, Reply.reported, copying]
      cases before.any startsCopy <;> cases (ServerError.ofFields fields).isError <;>
        simp [QueryStatus.code]
  | _ => simp [heed, prevails, objects, startsCopy, isUnexpected, isReport, QueryStatus.code]

/-- A reply is a success exactly if every objection was overruled. -/
theorem code_foldl_heed_eq_ok_iff (said : List Utterance) :
    (said.foldl heed initial).status.code = .ok ↔ Overruled said := by
  induction said using List.reverseRecOn with
  | nil => exact iff_of_true rfl overruled_nil
  | append_singleton said last inductionHypothesis =>
      rw [List.foldl_append, List.foldl_cons, List.foldl_nil, overruled_append_singleton,
        code_heed_eq_ok_iff (copying_foldl_heed said initial)
          (isSome_report_foldl_heed said initial),
        inductionHypothesis]

end Reply

/-! ## Results of the backend -/

namespace Session

variable {m : Type → Type} [Monad m] {World Line : Type}
variable {network : Network m Line} {execution : Execution m World} {session : Session Line}
variable {pending : World → List Octets}

/-- The backend returns the result set of the reply to the answer. -/
theorem run_execute_of_answer (feeds : network.Feeds execution session.line pending)
    (healthy : session.broken = false) {text : String} {parameters : List WireText}
    {octets : Octets}
    (encodes : ClientMessage.encodeAll (ClientMessage.ofQuery text parameters) = .ok octets)
    {said : List Utterance} (wellFormed : ∀ utterance ∈ said, utterance.WellFormed)
    (unready : ∀ utterance ∈ said, utterance.isReady = false) {status : UInt8} {later : Octets}
    {world : World} (full : ∀ piece ∈ pending world, piece ≠ [])
    (stream : session.unread ++ (pending world).flatten = Utterance.answer said status ++ later)
    (patient : (Utterance.answer said status).length < network.patience) :
    ∃ unread after,
      execution.run ((backend network).execute session text parameters) world =
        (({ session with unread := unread, broken := false },
          (said.foldl Reply.heed .initial).result.toResultSet vendor), after) ∧
      unread ++ (pending after).flatten = later := by
  obtain ⟨unread, after, answered, follows, _⟩ :=
    run_query_of_answer feeds healthy encodes wellFormed unready full stream patient
  refine ⟨unread, after, ?_, follows⟩
  rw [backend, ← healthy]
  simp only [Execution.run_bind, answered, Execution.run_pure, resultSetOf]

/-- When a query succeeds.  Let a healthy session put a query that can be sent, and let the server
answer with any messages that can be sent, in any order, up to the one that ends the answer.  Then
the code is `ok` exactly if every objection in the answer is overruled by a later message that
prevails.  So a query that succeeds was confirmed, or nothing in the answer speaks for it or against
it; and unless a confirmation came after a message that speaks against it, no message does, so that
the server reported no error and said nothing unexpected. -/
theorem success_iff_objections_are_overruled
    (feeds : network.Feeds execution session.line pending) (healthy : session.broken = false)
    {text : String} {parameters : List WireText} {octets : Octets}
    (encodes : ClientMessage.encodeAll (ClientMessage.ofQuery text parameters) = .ok octets)
    {said : List Utterance} (wellFormed : ∀ utterance ∈ said, utterance.WellFormed)
    (unready : ∀ utterance ∈ said, utterance.isReady = false) {status : UInt8} {later : Octets}
    {world : World} (full : ∀ piece ∈ pending world, piece ≠ [])
    (stream : session.unread ++ (pending world).flatten = Utterance.answer said status ++ later)
    (patient : (Utterance.answer said status).length < network.patience) :
    ∃ unread after result,
      execution.run ((backend network).execute session text parameters) world =
        (({ session with unread := unread, broken := false }, result), after) ∧
      (result.code = .ok ↔ Utterance.Overruled said) ∧
      (result.code = .ok → (∃ utterance ∈ said, utterance.confirms = true) ∨
        ∀ utterance ∈ said, utterance.isAdverse = false) ∧
      (result.code = .ok → ¬Utterance.Overridden said →
        ∀ utterance ∈ said, utterance.isAdverse = false) := by
  obtain ⟨unread, after, returned, _⟩ :=
    run_execute_of_answer feeds healthy encodes wellFormed unready full stream patient
  have success : ((said.foldl Reply.heed .initial).result.toResultSet vendor).code = .ok ↔
      Utterance.Overruled said := by
    rw [QueryResult.code_toResultSet, QueryResult.verdict_eq_ok_iff]
    exact Reply.code_foldl_heed_eq_ok_iff said
  have clean (overruled : Utterance.Overruled said) (kept : ¬Utterance.Overridden said) :
      ∀ utterance ∈ said, utterance.isAdverse = false := by
    intro utterance member
    by_contra adverse
    rw [Bool.not_eq_false] at adverse
    exact kept (overruled.overridden member adverse)
  refine ⟨unread, after, _, returned, success, fun ok => ?_, fun ok => clean (success.mp ok)⟩
  rw [or_iff_not_imp_left]
  intro unconfirmed
  exact clean (success.mp ok) fun overridden => unconfirmed overridden.confirmed

/-- A completion prevails over a suspended portal, and an empty query over a warning. -/
theorem success_iff_objections_are_overruled_twice :
    let said : List Utterance :=
      [.portalSuspended, .commandComplete [83], .report [(86, [87]), (77, [104, 105])], .emptyQuery]
    let answer := Utterance.answer said 73
    let network := ScriptedNetwork.network ""
    let session : Session Nat := ⟨0, [], false⟩
    let world : ScriptedNetwork :=
      ⟨#[.ofScript [.send (answer.take 7), .send (answer.drop 7)]], []⟩
    ∃ unread after result,
      Execution.direct.run ((backend network).execute session "SELECT" []) world =
        (({ session with unread := unread, broken := false }, result), after) ∧
      result.code = .ok := by
  intro said answer network session world
  have feeds : network.Feeds .direct session.line (ScriptedNetwork.pending 0) :=
    ScriptedNetwork.feeds "" 0
  obtain ⟨octets, encodes⟩ : ∃ octets,
      ClientMessage.encodeAll (ClientMessage.ofQuery "SELECT" []) = .ok octets := ⟨_, rfl⟩
  have wellFormed : ∀ utterance ∈ said, utterance.WellFormed := by decide
  have unready : ∀ utterance ∈ said, utterance.isReady = false := by decide
  have full : ∀ piece ∈ ScriptedNetwork.pending 0 world, piece ≠ [] := by decide
  have stream : session.unread ++ (ScriptedNetwork.pending 0 world).flatten = answer ++ [] := by
    change answer.take 7 ++ (answer.drop 7 ++ []) = _
    rw [List.append_nil, List.append_nil, List.take_append_drop]
  have patient : answer.length < network.patience := by decide +kernel
  have overruled : Utterance.Overruled said := (Reply.code_foldl_heed_eq_ok_iff said).mp rfl
  obtain ⟨unread, after, result, returned, success, _⟩ :=
    success_iff_objections_are_overruled feeds rfl encodes wellFormed unready full stream patient
  exact ⟨unread, after, result, returned, success.mpr overruled⟩

/-- The code of a query to which a scripted server gives an answer. -/
theorem code_execute_of_scripted {said : List Utterance}
    (wellFormed : ∀ utterance ∈ said, utterance.WellFormed)
    (unready : ∀ utterance ∈ said, utterance.isReady = false)
    (short : (Utterance.answer said 73).length < 0x100000000) :
    let session : Session Nat := ⟨0, [], false⟩
    let world : ScriptedNetwork := ⟨#[.ofScript [.send (Utterance.answer said 73)]], []⟩
    (((backend (ScriptedNetwork.network "")).execute session "SELECT" []).run world).1.2.code =
      (said.foldl Reply.heed .initial).result.verdict.1 := by
  intro session world
  have full : ∀ piece ∈ ScriptedNetwork.pending 0 world, piece ≠ [] :=
    List.forall_mem_singleton.mpr (Utterance.answer_ne_nil said 73)
  have stream : session.unread ++ (ScriptedNetwork.pending 0 world).flatten =
      Utterance.answer said 73 ++ [] := rfl
  have feeds : (ScriptedNetwork.network "").Feeds .direct session.line
      (ScriptedNetwork.pending 0) := ScriptedNetwork.feeds "" 0
  obtain ⟨octets, encodes⟩ : ∃ octets,
      ClientMessage.encodeAll (ClientMessage.ofQuery "SELECT" []) = .ok octets := ⟨_, rfl⟩
  obtain ⟨unread, after, returned, _⟩ :=
    run_execute_of_answer feeds rfl encodes wellFormed unready full stream short
  rw [← QueryResult.code_toResultSet _ vendor]
  exact congrArg (fun outcome => outcome.1.2.code) returned

/-- A query succeeds although nothing confirms it, although the server reports an error, and
although the server says something unexpected. -/
theorem success_unconfirmed_or_despite_errors :
    let code (said : List Utterance) : Code :=
      let session : Session Nat := ⟨0, [], false⟩
      let world : ScriptedNetwork := ⟨#[.ofScript [.send (Utterance.answer said 73)]], []⟩
      (((backend (ScriptedNetwork.network "")).execute session "SELECT" []).run world).1.2.code
    let silent : List Utterance := [.parseComplete, .bindComplete, .noData]
    let failed : List Utterance :=
      [.parseComplete, .report [(86, Octets.ofText "ERROR"), (67, Octets.ofText "22012")],
        .emptyQuery]
    let suspended : List Utterance := [.parseComplete, .portalSuspended, .commandComplete [83]]
    (∀ utterance ∈ silent ++ failed ++ suspended, utterance.WellFormed) ∧
    (code silent = .ok ∧ ∀ utterance ∈ silent, utterance.confirms = false) ∧
    (code failed = .ok ∧ ∃ utterance ∈ failed, utterance.isSevere = true) ∧
    (code suspended = .ok ∧ ∃ utterance ∈ suspended, utterance.isUnexpected = true) := by
  intro code silent failed suspended
  have wellFormed : ∀ utterance ∈ silent ++ failed ++ suspended, utterance.WellFormed := by decide
  rw [List.forall_mem_append, List.forall_mem_append] at wellFormed
  obtain ⟨⟨silentFormed, failedFormed⟩, suspendedFormed⟩ := wellFormed
  refine ⟨by decide, ⟨?_, by decide⟩, ⟨?_, by decide +kernel⟩, ⟨?_, by decide⟩⟩
  · exact (code_execute_of_scripted silentFormed (by decide) (by decide)).trans rfl
  · exact (code_execute_of_scripted failedFormed (by decide) (by decide)).trans rfl
  · exact (code_execute_of_scripted suspendedFormed (by decide) (by decide)).trans rfl

end Session

end BankLedger.Postgres
