import BankLedger.Proofs.Postgres.Question
import BankLedger.Proofs.Postgres.ServerErrors
import BankLedger.Proofs.Postgres.WriteBuffer

/-!
# Copies

A server may answer a query by starting a copy.  A session carries no copy out: it drains a copy to
the client, and refuses one from the client and asks the server to answer again.  Once a copy has
started, nothing that belongs to it changes what the reply says of the query, however the copy ends.
-/

namespace BankLedger.Postgres

open BankLedger.Database BankLedger.Sql

/-! ## Messages around a copy -/

namespace Utterance

/-- Whether a message can come before a copy is started: the query is accepted and has no
columns. -/
def isPrelude : Utterance → Bool
  | .parseComplete | .bindComplete | .noData => true
  | utterance => utterance.isAsynchronous

/-- Whether a message belongs to a copy that was started, or to its end. -/
def isOfCopy : Utterance → Bool
  | .copyData _ | .copyDone | .report _ | .commandComplete _ => true
  | utterance => utterance.isAsynchronous

/-- What a client says to a message that starts a copy. -/
def refused : Utterance → List Request
  | .copyIn .. => [.copyFail "COPY is not supported", .sync]
  | _ => []

theorem isReady_of_isPrelude {utterance : Utterance} (isPrelude : utterance.isPrelude = true) :
    utterance.isReady = false := by
  cases utterance <;> first | rfl | cases isPrelude

theorem isReady_of_startsCopy {utterance : Utterance} (starts : utterance.startsCopy = true) :
    utterance.isReady = false := by
  cases utterance <;> first | rfl | cases starts

theorem isReady_of_isOfCopy {utterance : Utterance} (isOfCopy : utterance.isOfCopy = true) :
    utterance.isReady = false := by
  cases utterance <;> first | rfl | cases isOfCopy

end Utterance

/-! ## Replies with a copy -/

namespace Reply

open Utterance

theorem heed_of_isPrelude {utterance : Utterance} (isPrelude : utterance.isPrelude = true)
    (reply : Reply) : reply.heed utterance = reply := by
  cases utterance <;> first | rfl | cases isPrelude

theorem retort_of_isPrelude {utterance : Utterance} (isPrelude : utterance.isPrelude = true) :
    retort utterance = [] := by
  cases utterance <;> first | rfl | cases isPrelude

theorem retort_of_isOfCopy {utterance : Utterance} (isOfCopy : utterance.isOfCopy = true) :
    retort utterance = [] := by
  cases utterance <;> first | rfl | cases isOfCopy

/-- A reply during a copy: it has neither columns nor rows, and its status is that of the copy. -/
structure Copying (reply : Reply) : Prop where
  processing : reply.status.code = .processing
  copying : reply.copying = true
  columnless : reply.fields = []
  rowless : reply.rows = #[]

theorem copying_of_startsCopy {copy : Utterance} (starts : copy.startsCopy = true) :
    (initial.heed copy).Copying := by
  cases copy with
  | copyIn format columns => exact ⟨rfl, rfl, rfl, rfl⟩
  | copyOut format columns => exact ⟨rfl, rfl, rfl, rfl⟩
  | _ => cases starts

namespace Copying

variable {reply : Reply}

theorem complete_eq (copying : reply.Copying) : reply.complete = reply := by
  rw [complete, copying.copying, Bool.true_or, if_pos rfl]

theorem reported_eq (copying : reply.Copying) (report : ServerError) :
    reply.reported report = { reply with report := some report } := by
  rw [reported, copying.copying]
  rfl

/-- One message of a copy leaves a reply during the copy. -/
theorem heed (copying : reply.Copying) {utterance : Utterance}
    (isOfCopy : utterance.isOfCopy = true) : (reply.heed utterance).Copying := by
  cases utterance with
  | commandComplete tag =>
      rw [Reply.heed, copying.complete_eq]
      exact copying
  | report fields =>
      rw [Reply.heed, copying.reported_eq]
      exact ⟨copying.processing, copying.copying, copying.columnless, copying.rowless⟩
  | copyData data => exact copying
  | copyDone => exact copying
  | parameterStatus name value => exact copying
  | notification process channel payload => exact copying
  | notice fields => exact copying
  | _ => cases isOfCopy

/-- So do all messages of a copy, however many there are and in whatever order they come. -/
theorem foldl_heed (copying : reply.Copying) {said : List Utterance}
    (isOfCopy : ∀ utterance ∈ said, utterance.isOfCopy = true) :
    (said.foldl Reply.heed reply).Copying := by
  induction said generalizing reply with
  | nil => exact copying
  | cons utterance others inductionHypothesis =>
      rw [List.forall_mem_cons] at isOfCopy
      exact inductionHypothesis (copying.heed isOfCopy.1) isOfCopy.2

/-- The backend tells of a copy that the query is still processing, and nothing else. -/
theorem toResultSet_eq (copying : reply.Copying) (vendor : String) :
    reply.result.toResultSet vendor = .status .processing (reply.result.message vendor) := by
  have verdict : reply.result.verdict.1 = .processing := by
    rw [QueryResult.verdict, show reply.result.status.code = .processing from copying.processing]
  rw [QueryResult.toResultSet, verdict, if_neg (by decide)]

end Copying

/-- A reply to an answer that starts a copy ends during the copy. -/
theorem copying_of_answer {before rest : List Utterance} {copy : Utterance}
    (isPrelude : ∀ utterance ∈ before, utterance.isPrelude = true)
    (starts : copy.startsCopy = true)
    (isOfCopy : ∀ utterance ∈ rest, utterance.isOfCopy = true) :
    ((before ++ copy :: rest).foldl heed initial).Copying := by
  have kept : before.foldl heed initial = initial :=
    foldl_heed_of_kept fun utterance member =>
      heed_of_isPrelude (isPrelude utterance member) initial
  rw [List.foldl_append, List.foldl_cons, kept]
  exact (copying_of_startsCopy starts).foldl_heed isOfCopy

/-- All that such an answer calls for is what its copy calls for. -/
theorem flatMap_retort_of_answer {before rest : List Utterance} (copy : Utterance)
    (isPrelude : ∀ utterance ∈ before, utterance.isPrelude = true)
    (isOfCopy : ∀ utterance ∈ rest, utterance.isOfCopy = true) :
    (before ++ copy :: rest).flatMap retort = retort copy := by
  have silentBefore : before.flatMap retort = [] :=
    List.flatMap_eq_nil_iff.mpr fun utterance member =>
      retort_of_isPrelude (isPrelude utterance member)
  have silentAfter : rest.flatMap retort = [] :=
    List.flatMap_eq_nil_iff.mpr fun utterance member =>
      retort_of_isOfCopy (isOfCopy utterance member)
  rw [List.flatMap_append, List.flatMap_cons, silentBefore, silentAfter, List.nil_append,
    List.append_nil]

/-- A server reads the refusal of a copy from the client in what is sent for it, and nothing in what
is sent for any other message. -/
theorem all?_retort (utterance : Utterance) :
    Request.all? (retort utterance) = some utterance.refused := by
  cases utterance with
  | copyIn format columns =>
      have once := Request.all?_refusals 1
      rwa [List.replicate_one, List.replicate_one, List.flatten_singleton,
        List.flatten_singleton] at once
  | _ => exact Request.all?_nil

end Reply

/-! ## Queries that start a copy -/

namespace Session

variable {m : Type → Type} [Monad m] {World Line : Type}
variable {network : Network m Line} {execution : Execution m World} {session : Session Line}
variable {pending : World → List Octets}

/-- A copy neither shifts the answers of a session nor makes up rows.  Let a healthy session put a
query that can be sent, and let the server start a copy, from the client or to it, after it has
accepted the query.  Let then come whatever belongs to a copy, as much of it as the server likes:
data, the end of the data, reports of any severity, a completion, and messages that answer nothing;
and then the answer to a next query.  However the octets of all this are cut into pieces, the
backend tells that the query is processing, without columns and without rows.  What the session
sends after the octets of the query is its refusal, once, if the copy is one from the client, and
nothing otherwise, as a server finds that reads it frame by frame.  The session stays healthy, a
buffer that it writes into is empty, and the next query returns what its own answer says. -/
theorem copies_are_drained_or_refused (feeds : network.Feeds execution session.line pending)
    (healthy : session.broken = false) {text : String} {parameters : List WireText}
    {octets : Octets}
    (encodes : ClientMessage.encodeAll (ClientMessage.ofQuery text parameters) = .ok octets)
    {before rest : List Utterance} {copy : Utterance}
    (isPrelude : ∀ utterance ∈ before, utterance.isPrelude = true)
    (starts : copy.startsCopy = true)
    (isOfCopy : ∀ utterance ∈ rest, utterance.isOfCopy = true)
    (wellFormed : ∀ utterance ∈ before ++ copy :: rest, utterance.WellFormed) {status : UInt8}
    {next : Inquiry} (answerable : next.Answerable) {later : Octets} {world : World}
    (full : ∀ piece ∈ pending world, piece ≠ [])
    (stream : session.unread ++ (pending world).flatten =
      Utterance.answer (before ++ copy :: rest) status ++ (next.answer ++ later))
    (patient : (Utterance.answer (before ++ copy :: rest) status).length < network.patience)
    (patientNext : next.answer.length < network.patience)
    (scraps : ClientMessage → Octets) :
    ∃ (outcome : Except ConnectionFailure QueryResult) (left : Session Line) (between : World)
        (transcript : Transcript),
      (execution.run ((backend network).execute session text parameters) world =
          ((left, resultSetOf outcome), between) ∧
        (resultSetOf outcome).code = .processing ∧ (resultSetOf outcome).fields = [] ∧
        (resultSetOf outcome).rows = []) ∧
      ((execution.withState Transcript).withState Octets).run
          (session.queryBuffered network.transcribing scraps text parameters) ([], [], world) =
        ((outcome, left), [], .sent octets :: transcript, between) ∧
      Request.all? transcript.sent = some copy.refused ∧ left.broken = false ∧
      ∃ unread after,
        execution.run (left.query network next.text next.parameters) between =
          ((next.outcome, { left with unread := unread }), after) ∧
        unread ++ (pending after).flatten = later := by
  have unready : ∀ utterance ∈ before ++ copy :: rest, utterance.isReady = false := by
    rw [List.forall_mem_append, List.forall_mem_cons]
    refine ⟨fun utterance member => ?_, Utterance.isReady_of_startsCopy starts,
      fun utterance member => ?_⟩
    · exact Utterance.isReady_of_isPrelude (isPrelude utterance member)
    · exact Utterance.isReady_of_isOfCopy (isOfCopy utterance member)
  obtain ⟨unread, between, answered, follows, suffix⟩ :=
    run_query_of_answer feeds healthy encodes wellFormed unready full stream patient
  obtain ⟨transcript, transcribed, sends⟩ :=
    run_query_transcribing_of_answer feeds healthy encodes wellFormed unready full stream patient
  -- Only the message that starts the copy is answered, so the refusal is all that is sent.
  rw [Reply.flatMap_retort_of_answer copy isPrelude isOfCopy] at sends
  have copying := Reply.copying_of_answer isPrelude starts isOfCopy
  generalize (before ++ copy :: rest).foldl Reply.heed .initial = reply at answered copying
  have resultSet : resultSetOf (.ok reply.result) =
      .status .processing (reply.result.message vendor) := copying.toResultSet_eq vendor
  let left : Session Line := { session with unread := unread }
  have feedsNext : network.Feeds execution left.line pending := feeds
  have streamNext : left.unread ++ (pending between).flatten = next.answer ++ later := follows
  refine ⟨.ok reply.result, left, between, transcript, ⟨?_, ?_⟩, ?_, ?_, healthy, ?_⟩
  · rw [backend]
    simp only [Execution.run_bind, answered, Execution.run_pure, left]
  · rw [resultSet]
    exact ⟨rfl, rfl, rfl⟩
  · obtain ⟨buffer, buffered, rfl | ⟨broken, _⟩⟩ := run_queryBuffered network.transcribing
      (execution.withState Transcript) scraps session text parameters ([], world)
    · rw [buffered, transcribed, answered]
    · rw [transcribed, answered] at broken
      cases healthy.symm.trans broken
  · rw [sends]
    exact Reply.all?_retort copy
  · obtain ⟨others, after, returned, ends, _⟩ :=
      run_query_of_inquiry feedsNext healthy answerable
        (fun piece member => full piece (suffix.subset member)) streamNext patientNext
    exact ⟨others, after, returned, ends⟩

/-- A copy from the client is refused amid data, an error and a completion, and the last of three
pieces holds the end of that answer and the answer to the next query. -/
theorem copies_are_drained_or_refused_amid_an_error :
    let before : List Utterance := [.parseComplete, .notice [(77, [104, 105])], .bindComplete]
    let copy : Utterance := .copyIn 0 [0, 1]
    let rest : List Utterance :=
      [.copyData [49, 9], .report [(86, Octets.ofText "ERROR"), (67, Octets.ofText "57014")],
        .copyData [], .copyDone, .commandComplete [67], .parameterStatus [65] [66]]
    let next : Inquiry := ⟨"SELECT", [], [.rowDescription [⟨"id", 0, 0, 20, 8, 0, 0⟩],
      .dataRow [some [49]], .commandComplete [83]], 73⟩
    let stream := Utterance.answer (before ++ copy :: rest) 73 ++ (next.answer ++ [])
    let network := ScriptedNetwork.network ""
    let session : Session Nat := ⟨0, [], false⟩
    let scraps (message : ClientMessage) : Octets :=
      match message with
      | .parse text => Octets.ofText text
      | _ => [0]
    let world : ScriptedNetwork :=
      ⟨#[.ofScript [.send (stream.take 3), .send ((stream.drop 3).take 40),
        .send ((stream.drop 3).drop 40)]], []⟩
    ∃ octets, ClientMessage.encodeAll (ClientMessage.ofQuery "COPY" []) = .ok octets ∧
      ∃ (outcome : Except ConnectionFailure QueryResult) (left : Session Nat)
          (between : ScriptedNetwork) (transcript : Transcript),
        (Execution.direct.run ((backend network).execute session "COPY" []) world =
            ((left, resultSetOf outcome), between) ∧
          (resultSetOf outcome).code = .processing ∧ (resultSetOf outcome).fields = [] ∧
          (resultSetOf outcome).rows = []) ∧
        ((Execution.direct.withState Transcript).withState Octets).run
            (session.queryBuffered network.transcribing scraps "COPY" []) ([], [], world) =
          ((outcome, left), [], .sent octets :: transcript, between) ∧
        Request.all? transcript.sent = some [.copyFail "COPY is not supported", .sync] ∧
        left.broken = false ∧
        ∃ unread after,
          Execution.direct.run (left.query network "SELECT" []) between =
            ((.ok ⟨.tuplesOk, [⟨"id", 20⟩], [[some [49]]], none⟩,
              { left with unread := unread }), after) ∧
          unread ++ (ScriptedNetwork.pending 0 after).flatten = [] := by
  intro before copy rest next stream network session scraps world
  have feeds : network.Feeds .direct session.line (ScriptedNetwork.pending 0) :=
    ScriptedNetwork.feeds "" 0
  obtain ⟨octets, encodes⟩ : ∃ octets,
      ClientMessage.encodeAll (ClientMessage.ofQuery "COPY" []) = .ok octets := ⟨_, rfl⟩
  have isPrelude : ∀ utterance ∈ before, utterance.isPrelude = true := by decide
  have isOfCopy : ∀ utterance ∈ rest, utterance.isOfCopy = true := by decide
  have wellFormed : ∀ utterance ∈ before ++ copy :: rest, utterance.WellFormed := by decide
  have answerable : next.Answerable := ⟨by decide, by decide⟩
  have full : ∀ piece ∈ ScriptedNetwork.pending 0 world, piece ≠ [] := by decide
  have whole : session.unread ++ (ScriptedNetwork.pending 0 world).flatten = stream := by
    change stream.take 3 ++ ((stream.drop 3).take 40 ++ ((stream.drop 3).drop 40 ++ [])) = _
    rw [List.append_nil, List.take_append_drop, List.take_append_drop]
  have patient : (Utterance.answer (before ++ copy :: rest) 73).length < network.patience := by
    decide +kernel
  have patientNext : next.answer.length < network.patience := by decide +kernel
  obtain ⟨_, nextSends⟩ : ∃ octets, next.question = .ok octets := ⟨_, rfl⟩
  have outcome : next.outcome = .ok ⟨.tuplesOk, [⟨"id", 20⟩], [[some [49]]], none⟩ :=
    (Inquiry.outcome_of_ok answerable nextSends).trans rfl
  have drained := copies_are_drained_or_refused feeds rfl encodes isPrelude rfl isOfCopy wellFormed
    answerable full whole patient patientNext scraps
  rw [outcome] at drained
  exact ⟨octets, encodes, drained⟩

end Session

end BankLedger.Postgres
