import BankLedger.Proofs.Postgres.Course
import BankLedger.Proofs.Postgres.Request
import BankLedger.Proofs.Postgres.Transcript

/-!
# What a query says

The octets of a query say what the query is: a server that reads them frame by frame finds the text
and the parameters, and nothing that the parameters hold is taken for anything else.  After them a
session says nothing but that it refuses a copy, once for each copy from the client that the server
starts at most.
-/

namespace BankLedger.Postgres

open BankLedger.Database BankLedger.Sql

namespace Request

open ClientMessage

/-- The octets that refuse a copy are read as its refusal, as often as they come. -/
theorem all?_refusals (refusals : Nat) :
    all? (List.replicate refusals Reply.refusal).flatten =
      some (List.replicate refusals ofRefusal).flatten := by
  have carries : List.Forall₂ Carries
      [⟨UInt8.ofNat 'f'.toNat, Octets.ofText "COPY is not supported" ++ [0]⟩,
        ⟨UInt8.ofNat 'S'.toNat, []⟩] ofRefusal :=
    .cons ⟨by decide, ofFrame_eq <|
      (BodyReader.reads_text (by decide)).exhausts.bind (BodyReader.exhausts_pure _)⟩ <|
        .cons carries_sync .nil
  induction refusals with
  | zero => exact all?_nil
  | succ refusals inductionHypothesis =>
      have first := all?_flatMap_append carries (List.replicate refusals Reply.refusal).flatten
      rw [inductionHypothesis] at first
      rw [List.replicate_succ, List.replicate_succ, List.flatten_cons, List.flatten_cons]
      exact first

variable {text otherText : String} {parameters otherParameters : List WireText} {octets : Octets}

/-- A query is read from its octets. -/
theorem all?_of_encodeAll
    (encodes : encodeAll (ClientMessage.ofQuery text parameters) = .ok octets) :
    all? octets = some (ofQuery text parameters) := by
  have sendable := sendable_of_encodeAll encodes
  cases (encodeAll_ofQuery_of_sendable sendable).symm.trans encodes
  have read := all?_flatMap_append (carries_frames sendable) []
  rwa [List.append_nil, all?_nil, Option.map_some, List.append_nil] at read

/-- Different queries have different octets. -/
theorem eq_of_encodeAll_eq
    (encodes : encodeAll (ClientMessage.ofQuery text parameters) = .ok octets)
    (others : encodeAll (ClientMessage.ofQuery otherText otherParameters) = .ok octets) :
    otherText = text ∧ otherParameters = parameters := by
  have same := (all?_of_encodeAll others).symm.trans (all?_of_encodeAll encodes)
  simp only [ofQuery, Option.some.injEq, List.cons.injEq, parse.injEq, bind.injEq] at same
  exact ⟨same.1.2.1, same.2.1.2.2.2.1⟩

/-- The frame that states the text of a query. -/
def statement (text : String) : Frame :=
  ⟨UInt8.ofNat 'P'.toNat, statementBody text⟩

/-- The first frame of a query states its text. -/
theorem exists_read_of_encodeAll
    (encodes : encodeAll (ClientMessage.ofQuery text parameters) = .ok octets) :
    ∃ rest, Frame.read octets = .whole (statement text) rest := by
  have sendable := sendable_of_encodeAll encodes
  cases (encodeAll_ofQuery_of_sendable sendable).symm.trans encodes
  rw [frames, List.flatMap_cons]
  exact ⟨_, Frame.read_octets (carries_parse sendable.statable).fits _⟩

end Request

namespace Session

variable {m : Type → Type} [Monad m] {World Line : Type}
variable {network : Network m Line} {execution : Execution m World} {session : Session Line}

variable (network execution) in
/-- A query with a transcript goes as it goes alone.  First it sends its octets, and then only
refusals of copies. -/
theorem run_query_transcribing (healthy : session.broken = false) {text : String}
    {parameters : List WireText} {octets : Octets}
    (encodes : ClientMessage.encodeAll (ClientMessage.ofQuery text parameters) = .ok octets)
    (world : World) :
    let outcome := execution.run (session.query network text parameters) world
    ∃ (rest : Transcript) (refusals : Nat),
      (execution.withState Transcript).run (session.query network.transcribing text parameters)
          ([], world) = (outcome.1, .sent octets :: rest, outcome.2) ∧
      rest.sent = (List.replicate refusals Reply.refusal).flatten ∧
      refusals ≤ (ServerMessage.readAll (session.unread ++ rest.received)).count .copyIn := by
  obtain ⟨rest, same, sends⟩ := network.run_ask_transcribing execution session.line octets
    Reply.dialogue .initial session.unread [] world
  have goes : (execution.withState Transcript).run
      (session.query network.transcribing text parameters) ([], world) =
        ((execution.run (session.query network text parameters) world).1, .sent octets :: rest,
          (execution.run (session.query network text parameters) world).2) := by
    rw [run_query_of_ok healthy encodes, run_query_of_ok healthy encodes]
    simp only [same, List.nil_append]
  -- What is heard is only the first of what is received, so there may be more starts of copies than
  -- refusals.
  rcases sends with rfl | ⟨heard, front, sends⟩
  · exact ⟨[], 0, goes, rfl, Nat.zero_le _⟩
  · obtain ⟨refusals, refuses, few⟩ :=
      Reply.exists_refusals_of_hear .initial (session.unread ++ heard)
    obtain ⟨later, split⟩ := front
    have shorter : ServerMessage.readAll (session.unread ++ heard) <+:
        ServerMessage.readAll (session.unread ++ rest.received) := by
      rw [← split, ← List.append_assoc]
      exact ServerMessage.readAll_prefix_append ..
    exact ⟨rest, refusals, goes, sends.trans refuses,
      Nat.le_trans few (shorter.sublist.count_le _)⟩

/-- A query that is answered sends its octets, and then what the messages of the answer call for. -/
theorem run_query_transcribing_of_answer {pending : World → List Octets}
    (feeds : network.Feeds execution session.line pending) (healthy : session.broken = false)
    {text : String} {parameters : List WireText} {octets : Octets}
    (encodes : ClientMessage.encodeAll (ClientMessage.ofQuery text parameters) = .ok octets)
    {said : List Utterance} (wellFormed : ∀ utterance ∈ said, utterance.WellFormed)
    (unready : ∀ utterance ∈ said, utterance.isReady = false) {status : UInt8} {later : Octets}
    {world : World} (full : ∀ piece ∈ pending world, piece ≠ [])
    (stream : session.unread ++ (pending world).flatten = Utterance.answer said status ++ later)
    (patient : (Utterance.answer said status).length < network.patience) :
    let outcome := execution.run (session.query network text parameters) world
    ∃ rest : Transcript,
      (execution.withState Transcript).run (session.query network.transcribing text parameters)
          ([], world) = (outcome.1, .sent octets :: rest, outcome.2) ∧
      rest.sent = said.flatMap Reply.retort := by
  obtain ⟨rest, _, goes, _⟩ := run_query_transcribing network execution healthy encodes world
  have beside : ∀ piece ∈ pending (([] : Transcript), world).2, piece ≠ [] := full
  obtain ⟨unread, after, answered, _, _, sends⟩ :=
    run_query_sends_of_answer feeds.transcribing healthy encodes wellFormed unready beside stream
      patient
  refine ⟨rest, goes, ?_⟩
  have left : (.sent octets :: rest, _) = after := congrArg Prod.snd (goes.symm.trans answered)
  have logged := sends _ (network.logs_transcribing execution session.line)
  rw [← left] at logged
  exact List.append_cancel_left (show octets ++ rest.sent = octets ++ _ from logged)

/-- A query is read back from its octets.  Let a query be put over a healthy session, and let it be
one that can be written.  Whatever the server does, its octets are sent first, as they are: a server
that takes them frame by frame finds the text without a name and without types, exactly the
parameters in their order, a null apart from an empty text, the description of the portal, its
execution without a limit and the request to answer, and nothing else.  All that is sent after them
are refusals of copies, at most one for each copy from the client that the server started.  So no
other query has the same octets; and the first frame is one that states the text, whatever the
parameters are. -/
theorem query_is_read_back_from_its_octets (healthy : session.broken = false) {text : String}
    {parameters : List WireText} {octets : Octets}
    (encodes : ClientMessage.encodeAll (ClientMessage.ofQuery text parameters) = .ok octets)
    (world : World) :
    let outcome := execution.run (session.query network text parameters) world
    (∃ (rest : Transcript) (refusals : Nat),
      (execution.withState Transcript).run (session.query network.transcribing text parameters)
          ([], world) = (outcome.1, .sent octets :: rest, outcome.2) ∧
      Request.all? rest.sent = some (List.replicate refusals
        [.copyFail "COPY is not supported", .sync]).flatten ∧
      refusals ≤ (ServerMessage.readAll (session.unread ++ rest.received)).count .copyIn) ∧
    Request.all? octets =
      some [.parse "" text [], .bind "" "" [] parameters [], .describe 'P' "", .execute "" 0,
        .sync] ∧
    (∀ otherText otherParameters,
      ClientMessage.encodeAll (ClientMessage.ofQuery otherText otherParameters) = .ok octets →
        otherText = text ∧ otherParameters = parameters) ∧
    ∃ statement, Request.ofFrame statement = .ok (.parse "" text []) ∧
      ∀ otherParameters otherOctets,
        ClientMessage.encodeAll (ClientMessage.ofQuery text otherParameters) = .ok otherOctets →
          ∃ rest, Frame.read otherOctets = .whole statement rest := by
  intro outcome
  have statable := (ClientMessage.sendable_of_encodeAll encodes).statable
  refine ⟨?_, Request.all?_of_encodeAll encodes,
    fun _ _ others => Request.eq_of_encodeAll_eq encodes others,
    Request.statement text, (Request.carries_parse statable).holds,
    fun _ _ others => Request.exists_read_of_encodeAll others⟩
  obtain ⟨rest, refusals, goes, refuses, few⟩ :=
    run_query_transcribing network execution healthy encodes world
  exact ⟨rest, refusals, goes, refuses ▸ Request.all?_refusals refusals, few⟩

/-- The parameters are a null, an empty text, a zero octet, octets like those of a frame, and
quotes, and the server starts a copy. -/
theorem query_is_read_back_from_its_octets_amid_a_copy :
    let parameters : List WireText :=
      [none, some "", some "\x00", some "S\x00\x00\x00\x04", some "'; -- \""]
    let session : Session Nat := ⟨0, [], false⟩
    let network := ScriptedNetwork.network ""
    let world : ScriptedNetwork :=
      ⟨#[.ofScript [.send (Utterance.answer [.parseComplete, .copyIn 0 [0]] 73)]], []⟩
    let outcome := Execution.direct.run (session.query network "" parameters) world
    ∃ octets, ClientMessage.encodeAll (ClientMessage.ofQuery "" parameters) = .ok octets ∧
      (∃ (rest : Transcript) (refusals : Nat),
        (Execution.direct.withState Transcript).run
            (session.query network.transcribing "" parameters) ([], world) =
          (outcome.1, .sent octets :: rest, outcome.2) ∧
        Request.all? rest.sent = some (List.replicate refusals
          [.copyFail "COPY is not supported", .sync]).flatten ∧
        refusals ≤ (ServerMessage.readAll (session.unread ++ rest.received)).count .copyIn) ∧
      Request.all? octets =
        some [.parse "" "" [], .bind "" "" [] parameters [], .describe 'P' "", .execute "" 0,
          .sync] ∧
      (∀ otherText otherParameters,
        ClientMessage.encodeAll (ClientMessage.ofQuery otherText otherParameters) = .ok octets →
          otherText = "" ∧ otherParameters = parameters) ∧
      ∃ statement, Request.ofFrame statement = .ok (.parse "" "" []) ∧
        ∀ otherParameters otherOctets,
          ClientMessage.encodeAll (ClientMessage.ofQuery "" otherParameters) = .ok otherOctets →
            ∃ rest, Frame.read otherOctets = .whole statement rest := by
  intro parameters session network world outcome
  obtain ⟨octets, encodes⟩ : ∃ octets,
      ClientMessage.encodeAll (ClientMessage.ofQuery "" parameters) = .ok octets := ⟨_, rfl⟩
  exact ⟨octets, encodes, query_is_read_back_from_its_octets rfl encodes world⟩

end Session

end BankLedger.Postgres
