import BankLedger.Proofs.Postgres.Hearing

/-!
# Answers to queries

A server answers a query with messages of which the last says that it is ready.  This module says
what every other message does to the reply that a session has of the answer, whatever the message,
and what a query returns for a whole answer, however its octets arrive.
-/

namespace BankLedger.Postgres

open BankLedger.Database BankLedger.Sql

namespace Utterance

/-- Whether a message ends an answer. -/
def isReady : Utterance → Bool
  | .ready _ => true
  | _ => false

/-- Whether a message can come at any time and answers nothing. -/
def isAsynchronous : Utterance → Bool
  | .parameterStatus .. | .notification .. | .notice _ => true
  | _ => false

/-- An answer as it is sent: some messages, and the one that ends it. -/
def answer (said : List Utterance) (status : UInt8) : Octets :=
  said.flatMap octets ++ (ready status).octets

theorem octets_ne_nil (utterance : Utterance) : utterance.octets ≠ [] := by
  rw [octets, Frame.octets]
  exact List.cons_ne_nil _ _

theorem answer_ne_nil (said : List Utterance) (status : UInt8) : answer said status ≠ [] :=
  List.append_ne_nil_of_right_ne_nil _ (octets_ne_nil _)

theorem wellFormed_ready (status : UInt8) : (ready status).WellFormed :=
  ⟨trivial, (by decide : 5 < 0x100000000)⟩

end Utterance

namespace Reply

/-- What is sent to refuse a copy. -/
def refusal : Octets :=
  match ClientMessage.encodeAll [.copyFail "COPY is not supported", .sync] with
  | .ok octets => octets
  | .error _ => []

/-- The reply after a message that does not end the answer. -/
def heed (reply : Reply) : Utterance → Reply
  | .parseComplete | .bindComplete | .noData | .parameterStatus .. | .notification .. | .notice _
  | .copyData _ | .copyDone | .ready _ => reply
  | .rowDescription columns =>
      { reply with fields := columns.map Column.field, described := true }
  | .dataRow cells => { reply with rows := reply.rows.push cells }
  | .commandComplete _ => reply.complete
  | .emptyQuery => { reply with status := .emptyQuery }
  | .copyIn .. => { reply with status := .copyIn, copying := true }
  | .copyOut .. => { reply with status := .copyOut, copying := true }
  | .report fields => reply.reported (ServerError.ofFields fields)
  | _ => { reply with status := .badResponse }

/-- What is sent at once for a message. -/
def retort : Utterance → Octets
  | .copyIn .. => refusal
  | _ => []

theorem refuseCopy_eq (reply : Reply) :
    reply.refuseCopy = .proceed { reply with status := .copyIn, copying := true } refusal := by
  have encodes : ClientMessage.encodeAll [.copyFail "COPY is not supported", .sync] =
      .ok refusal := rfl
  rw [refuseCopy, encodes]

/-- A message that can be written and does not end the answer is heeded. -/
theorem dialogue_meaning {utterance : Utterance} (writable : utterance.Writable)
    (unready : utterance.isReady = false) (reply : Reply) :
    dialogue reply utterance.meaning =
      .proceed (reply.heed utterance) (retort utterance) := by
  cases utterance with
  | ready status => cases unready
  | rowDescription columns =>
      simp only [dialogue, Utterance.meaning, describedColumns_octets writable.2]
      rfl
  | dataRow cells =>
      simp only [dialogue, Utterance.meaning, rowCells_octets writable.2]
      rfl
  | notice fields =>
      simp only [dialogue, Utterance.meaning, readReport_octets writable]
      rfl
  | report fields =>
      simp only [dialogue, Utterance.meaning, readReport_octets writable]
      rfl
  | copyIn format columns => exact reply.refuseCopy_eq
  | _ => rfl

/-! ## Whole answers -/

section

variable {said : List Utterance} (wellFormed : ∀ utterance ∈ said, utterance.WellFormed)
variable (unready : ∀ utterance ∈ said, utterance.isReady = false)

include wellFormed unready

/-- Some messages are heeded one after the other. -/
theorem hear_said (reply : Reply) (rest : Octets) :
    dialogue.hear reply (said.flatMap Utterance.octets ++ rest) =
      let next := dialogue.hear (said.foldl heed reply) rest
      { next with sent := said.flatMap retort ++ next.sent } := by
  induction said generalizing reply with
  | nil => rfl
  | cons utterance others inductionHypothesis =>
      rw [List.forall_mem_cons] at wellFormed unready
      have first := dialogue.hear_of_message reply
        (Utterance.read_octets wellFormed.1 (others.flatMap Utterance.octets ++ rest))
      rw [List.flatMap_cons, List.append_assoc, first,
        dialogue_meaning wellFormed.1.writable unready.1]
      simp only [inductionHypothesis wellFormed.2 unready.2, List.foldl_cons, List.flatMap_cons,
        List.append_assoc]

/-- A whole answer is heard to its end and not further. -/
theorem hear_answer (reply : Reply) (status : UInt8) (later : Octets) :
    dialogue.hear reply (Utterance.answer said status ++ later) =
      ⟨said.flatMap retort, .ended (.ok (said.foldl heed reply).result), later⟩ := by
  have last := dialogue.hear_of_message (said.foldl heed reply)
    (Utterance.read_octets (Utterance.wellFormed_ready status) later)
  rw [Utterance.answer, List.append_assoc, hear_said wellFormed unready, last]
  simp only [Utterance.meaning, dialogue, List.append_nil]

end

end Reply

/-! ## Queries -/

namespace Session

variable {m : Type → Type} [Monad m] {World Line : Type}
variable {network : Network m Line} {execution : Execution m World} {session : Session Line}
variable {pending : World → List Octets}

/-- A query that can be written opens the dialogue about its answer. -/
theorem run_query_of_ok (healthy : session.broken = false) {text : String}
    {parameters : List WireText} {octets : Octets}
    (encodes : ClientMessage.encodeAll (ClientMessage.ofQuery text parameters) = .ok octets)
    (world : World) :
    execution.run (session.query network text parameters) world =
      let asked := execution.run
        (network.ask session.line octets Reply.dialogue .initial session.unread) world
      let (outcome, unread) := asked.1
      ((outcome, { session with unread := unread, broken := breaks outcome }), asked.2) := by
  rw [query, healthy]
  simp only [encodes]
  rw [if_neg Bool.false_ne_true]
  simp only [Execution.run_bind, Execution.run_pure]

section

variable (feeds : network.Feeds execution session.line pending) (healthy : session.broken = false)
variable {text : String} {parameters : List WireText} {octets : Octets}
variable (encodes : ClientMessage.encodeAll (ClientMessage.ofQuery text parameters) = .ok octets)
variable {said : List Utterance} (wellFormed : ∀ utterance ∈ said, utterance.WellFormed)
variable (unready : ∀ utterance ∈ said, utterance.isReady = false) {status : UInt8} {later : Octets}
variable {world : World} (full : ∀ piece ∈ pending world, piece ≠ [])
variable (stream : session.unread ++ (pending world).flatten =
  Utterance.answer said status ++ later)
variable (patient : (Utterance.answer said status).length < network.patience)

include feeds healthy encodes wellFormed unready full stream patient

/-- A query that can be sent returns the reply to the answer, however the octets of the answer
arrive, and leaves the session where the answer ends.  After the query it sends what the messages of
the answer call for and nothing else. -/
theorem run_query_sends_of_answer :
    ∃ unread after,
      execution.run (session.query network text parameters) world =
        ((.ok (said.foldl Reply.heed .initial).result, { session with unread := unread }), after) ∧
      unread ++ (pending after).flatten = later ∧ pending after <:+ pending world ∧
      network.Sends execution session.line world (octets ++ said.flatMap Reply.retort) after := by
  obtain ⟨pieces, others, rest, split, few, held, follows⟩ := exists_pieces full stream
  have heard := Reply.hear_answer wellFormed unready .initial status rest
  rw [← held] at heard
  rw [split] at full
  obtain ⟨unread, kept, after, ended, pending_after, suffix, unheard, sends⟩ :=
    feeds.run_ask Reply.dialogue heard split
      (fun piece member => full piece (List.mem_append_left _ member))
      (Nat.lt_of_le_of_lt few patient)
  refine ⟨unread, after, ?_, ?_, ?_, sends⟩
  · rw [run_query_of_ok healthy encodes, healthy]
    simp only [ended, breaks]
  · rw [pending_after, List.flatten_append, ← List.append_assoc, unheard, follows]
  · rw [pending_after, split]
    obtain ⟨front, rfl⟩ := suffix
    exact ⟨front, (List.append_assoc ..).symm⟩

theorem run_query_of_answer :
    ∃ unread after,
      execution.run (session.query network text parameters) world =
        ((.ok (said.foldl Reply.heed .initial).result, { session with unread := unread }), after) ∧
      unread ++ (pending after).flatten = later ∧ pending after <:+ pending world := by
  obtain ⟨unread, after, answered, follows, suffix, _⟩ :=
    run_query_sends_of_answer feeds healthy encodes wellFormed unready full stream patient
  exact ⟨unread, after, answered, follows, suffix⟩

end

end Session

end BankLedger.Postgres
