import BankLedger.Proofs.Postgres.Answer

/-!
# Queries in succession

The answers to the queries of a session follow each other in one stream.  A piece of that stream may
end anywhere, also within the header of a message, and may hold the end of one answer and the start
of the next.  What was received and belongs to a later answer waits in the session, so every query
returns what its own answer says, as if the messages of that answer had come alone.
-/

namespace BankLedger.Postgres

open BankLedger.Database BankLedger.Sql

/-! ## One answer by itself -/

theorem Utterance.flatten_map_octets (said : List Utterance) (status : UInt8) :
    ((said ++ [ready status]).map octets).flatten = answer said status := by
  rw [← List.flatMap_def, List.flatMap_append, List.flatMap_singleton, answer]

/-- The outcome of a query whose answer comes alone: nothing was received before it, and every
message of it comes in a piece of its own. -/
def Reply.alone (messages : List Utterance) : Except ConnectionFailure QueryResult :=
  let server := ScriptedServer.ofScript (messages.map fun message => .send message.octets)
  let network := ScriptedNetwork.network ""
  ((network.converse 0 dialogue (messages.length + 1) initial []).run ⟨#[server], []⟩).1.1

theorem Reply.alone_eq {said : List Utterance}
    (wellFormed : ∀ utterance ∈ said, utterance.WellFormed)
    (unready : ∀ utterance ∈ said, utterance.isReady = false) (status : UInt8) :
    alone (said ++ [.ready status]) = .ok (said.foldl heed initial).result := by
  let pieces := (said ++ [Utterance.ready status]).map Utterance.octets
  let world : ScriptedNetwork := ⟨#[.ofScript (pieces.map .send)], []⟩
  have pending_eq : ScriptedNetwork.pending 0 world = pieces ++ [] := by
    rw [List.append_nil]
    exact plainPieces_map_send pieces
  have full : ∀ piece ∈ pieces, piece ≠ [] := by
    intro piece member
    obtain ⟨utterance, _, rfl⟩ := List.mem_map.mp member
    exact utterance.octets_ne_nil
  have heard : dialogue.hear initial ([] ++ pieces.flatten) =
      ⟨said.flatMap retort, .ended (.ok (said.foldl heed initial).result), []⟩ := by
    rw [List.nil_append, Utterance.flatten_map_octets]
    have whole := hear_answer wellFormed unready initial status []
    rwa [List.append_nil] at whole
  have patient : pieces.length < (said ++ [Utterance.ready status]).length + 1 := by
    rw [List.length_map]
    exact Nat.lt_succ_self _
  obtain ⟨rest, _, after, ended, _⟩ :=
    (ScriptedNetwork.feeds "" 0).run_converse dialogue heard pending_eq full patient
  have script : (said ++ [Utterance.ready status]).map (fun message => .send message.octets) =
      pieces.map ServerTurn.send := (List.map_map ..).symm
  rw [alone, script]
  exact congrArg (fun outcome => outcome.1.1) ended

/-! ## Queries with their answers -/

/-- A query, and the answer that the server has for it. -/
structure Inquiry where
  text : String
  parameters : List WireText
  said : List Utterance
  status : UInt8

namespace Inquiry

variable (inquiry : Inquiry)

/-- The query as it is sent, unless it cannot be sent. -/
def question : Except ConnectionFailure Octets :=
  ClientMessage.encodeAll (ClientMessage.ofQuery inquiry.text inquiry.parameters)

/-- The answer as it is sent.  A query that cannot be sent is not answered. -/
def answer : Octets :=
  match inquiry.question with
  | .ok _ => Utterance.answer inquiry.said inquiry.status
  | .error _ => []

/-- What the query by itself leads to. -/
def outcome : Except ConnectionFailure QueryResult :=
  match inquiry.question with
  | .ok _ => Reply.alone (inquiry.said ++ [.ready inquiry.status])
  | .error failure => .error failure

/-- The answer is made of messages that can be sent, and only the last of them ends it. -/
structure Answerable : Prop where
  wellFormed : ∀ utterance ∈ inquiry.said, utterance.WellFormed
  unready : ∀ utterance ∈ inquiry.said, utterance.isReady = false

variable {inquiry : Inquiry}

theorem answer_of_ok {octets : Octets} (sends : inquiry.question = .ok octets) :
    inquiry.answer = Utterance.answer inquiry.said inquiry.status := by
  rw [answer, sends]

theorem answer_of_error {failure : ConnectionFailure} (fails : inquiry.question = .error failure) :
    inquiry.answer = [] := by
  rw [answer, fails]

theorem outcome_of_ok (answerable : inquiry.Answerable) {octets : Octets}
    (sends : inquiry.question = .ok octets) :
    inquiry.outcome = .ok (inquiry.said.foldl Reply.heed .initial).result := by
  rw [outcome, sends]
  exact Reply.alone_eq answerable.wellFormed answerable.unready inquiry.status

theorem outcome_of_error {failure : ConnectionFailure} (fails : inquiry.question = .error failure) :
    inquiry.outcome = .error failure := by
  rw [outcome, fails]

end Inquiry

namespace Session

variable {m : Type → Type} [Monad m] {World Line : Type}

/-- Puts some queries one after the other. -/
def queryAll (network : Network m Line) (session : Session Line) :
    List (String × List WireText) →
      m (List (Except ConnectionFailure QueryResult) × Session Line)
  | [] => return ([], session)
  | (text, parameters) :: others => do
      let (outcome, session) ← session.query network text parameters
      let (outcomes, session) ← session.queryAll network others
      return (outcome :: outcomes, session)

variable {network : Network m Line} {execution : Execution m World} {session : Session Line}
variable {pending : World → List Octets}

theorem run_query_of_error (healthy : session.broken = false) {text : String}
    {parameters : List WireText} {failure : ConnectionFailure}
    (fails : ClientMessage.encodeAll (ClientMessage.ofQuery text parameters) = .error failure)
    (world : World) :
    execution.run (session.query network text parameters) world =
      ((.error failure, session), world) := by
  rw [query, healthy]
  simp only [fails]
  exact execution.run_pure ..

/-- One query takes its own answer from the stream and no more. -/
theorem run_query_of_inquiry (feeds : network.Feeds execution session.line pending)
    (healthy : session.broken = false) {inquiry : Inquiry} (answerable : inquiry.Answerable)
    {later : Octets} {world : World} (full : ∀ piece ∈ pending world, piece ≠ [])
    (stream : session.unread ++ (pending world).flatten = inquiry.answer ++ later)
    (patient : inquiry.answer.length < network.patience) :
    ∃ unread after,
      execution.run (session.query network inquiry.text inquiry.parameters) world =
        ((inquiry.outcome, { session with unread := unread }), after) ∧
      unread ++ (pending after).flatten = later ∧ pending after <:+ pending world := by
  cases sends : inquiry.question with
  | error failure =>
      rw [Inquiry.answer_of_error sends, List.nil_append] at stream
      rw [Inquiry.outcome_of_error sends]
      exact ⟨session.unread, world, run_query_of_error healthy sends world, stream,
        List.suffix_refl _⟩
  | ok octets =>
      rw [Inquiry.answer_of_ok sends] at stream patient
      rw [Inquiry.outcome_of_ok answerable sends]
      exact run_query_of_answer feeds healthy sends answerable.wellFormed answerable.unready full
        stream patient

/-- Answers are never mixed up, however their octets are cut into pieces.  Let queries be put one
after the other over a healthy session, and let the server answer them in their order.  Then each
query returns what it returns if its answer comes alone with every message in a piece of its own; a
query that cannot be sent tells why, and takes no answer.  The session stays healthy, and what it
has not read yet is what follows the last answer. -/
theorem queries_return_their_own_answers (feeds : network.Feeds execution session.line pending)
    (healthy : session.broken = false) {inquiries : List Inquiry}
    (answerable : ∀ inquiry ∈ inquiries, inquiry.Answerable) {later : Octets} {world : World}
    (full : ∀ piece ∈ pending world, piece ≠ [])
    (stream : session.unread ++ (pending world).flatten =
      inquiries.flatMap Inquiry.answer ++ later)
    (patient : ∀ inquiry ∈ inquiries, inquiry.answer.length < network.patience) :
    ∃ unread after,
      execution.run (session.queryAll network
          (inquiries.map fun inquiry => (inquiry.text, inquiry.parameters))) world =
        ((inquiries.map Inquiry.outcome, { session with unread := unread, broken := false }),
          after) ∧
      unread ++ (pending after).flatten = later := by
  induction inquiries generalizing session world with
  | nil =>
      refine ⟨session.unread, world, ?_, stream⟩
      rw [← healthy]
      exact execution.run_pure ..
  | cons inquiry others inductionHypothesis =>
      rw [List.forall_mem_cons] at answerable patient
      rw [List.flatMap_cons, List.append_assoc] at stream
      obtain ⟨unread, between, first, follows, suffix⟩ :=
        run_query_of_inquiry feeds healthy answerable.1 full stream patient.1
      let next : Session Line := { session with unread := unread }
      have nextFeeds : network.Feeds execution next.line pending := feeds
      have nextStream : next.unread ++ (pending between).flatten = _ := follows
      obtain ⟨left, after, rest, ends⟩ :=
        inductionHypothesis nextFeeds healthy answerable.2
          (fun piece member => full piece (suffix.subset member)) nextStream patient.2
      simp only [next] at rest
      refine ⟨left, after, ?_, ends⟩
      simp only [List.map_cons, queryAll, Execution.run_bind, first, rest, Execution.run_pure]

/-- Two answers arrive in three pieces, of which the first ends within a header and the second
within the other answer.  The query between them cannot be sent. -/
theorem queries_return_their_own_answers_across_pieces :
    let first : Inquiry := ⟨"SELECT", [], [.rowDescription [⟨"id", 0, 0, 20, 8, 0, 0⟩],
      .dataRow [some [49]], .commandComplete [83]], 73⟩
    let second : Inquiry := ⟨"\x00", [], [], 73⟩
    let third : Inquiry := ⟨"CALL", [some "7"], [.noData, .notice [], .commandComplete [67]], 73⟩
    let inquiries := [first, second, third]
    let stream := inquiries.flatMap Inquiry.answer
    let network := ScriptedNetwork.network ""
    let session : Session Nat := ⟨0, [], false⟩
    let world : ScriptedNetwork :=
      ⟨#[.ofScript [.send (stream.take 3), .send ((stream.drop 3).take 60),
        .send ((stream.drop 3).drop 60)]], []⟩
    ∃ unread after,
      Execution.direct.run (session.queryAll network
          (inquiries.map fun inquiry => (inquiry.text, inquiry.parameters))) world =
        (([.ok ⟨.tuplesOk, [⟨"id", 20⟩], [[some [49]]], none⟩,
            .error (.transport "string contains embedded null"),
            .ok ⟨.commandOk, [], [], none⟩],
          { session with unread := unread, broken := false }), after) ∧
      unread ++ (ScriptedNetwork.pending 0 after).flatten = [] := by
  intro first second third inquiries stream network session world
  have feeds : network.Feeds .direct session.line (ScriptedNetwork.pending 0) :=
    ScriptedNetwork.feeds "" 0
  have answerable : ∀ inquiry ∈ inquiries, inquiry.Answerable := by
    simp only [inquiries, List.forall_mem_cons]
    exact ⟨⟨by decide, by decide⟩, ⟨by decide, by decide⟩, ⟨by decide, by decide⟩, by simp⟩
  have full : ∀ piece ∈ ScriptedNetwork.pending 0 world, piece ≠ [] := by decide
  have whole : session.unread ++ (ScriptedNetwork.pending 0 world).flatten = stream ++ [] := by
    change stream.take 3 ++ ((stream.drop 3).take 60 ++ ((stream.drop 3).drop 60 ++ [])) = _
    rw [List.append_nil, List.append_nil, List.take_append_drop, List.take_append_drop]
  have patient : ∀ inquiry ∈ inquiries, inquiry.answer.length < network.patience := by
    decide +kernel
  have failure : second.question = .error (.transport "string contains embedded null") := by decide
  obtain ⟨_, firstSends⟩ : ∃ octets, first.question = .ok octets := ⟨_, rfl⟩
  obtain ⟨_, thirdSends⟩ : ∃ octets, third.question = .ok octets := ⟨_, rfl⟩
  have outcomes : inquiries.map Inquiry.outcome =
      [.ok ⟨.tuplesOk, [⟨"id", 20⟩], [[some [49]]], none⟩,
        .error (.transport "string contains embedded null"), .ok ⟨.commandOk, [], [], none⟩] := by
    simp only [inquiries, List.map_cons, List.map_nil, Inquiry.outcome_of_error failure,
      Inquiry.outcome_of_ok (answerable first (by simp [inquiries])) firstSends,
      Inquiry.outcome_of_ok (answerable third (by simp [inquiries])) thirdSends]
    rfl
  obtain ⟨unread, after, returned, follows⟩ :=
    queries_return_their_own_answers feeds rfl answerable full whole patient
  rw [outcomes] at returned
  exact ⟨unread, after, returned, follows⟩

end Session

end BankLedger.Postgres
