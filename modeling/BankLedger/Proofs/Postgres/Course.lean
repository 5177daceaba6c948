import BankLedger.Proofs.Postgres.Answer
import BankLedger.Proofs.Postgres.Overhearing

/-!
# The course of a reply

A message may settle the status of a reply, describe its columns, start a copy or report an error.
This module says which messages do what, in any reply, and what a session says while it hears a
stream of them.  A dialogue about a reply fails for one cause only, that the transport failed.
-/

namespace BankLedger.Postgres

open BankLedger.Database

/-! ## Kinds of messages -/

namespace ServerMessage

/-- Whether a message reports an error. -/
def isReport : ServerMessage → Bool
  | .report _ => true
  | _ => false

/-- Whether a message describes columns. -/
def describes : ServerMessage → Bool
  | .rowDescription .. => true
  | _ => false

/-- Whether a message starts a copy. -/
def startsCopy : ServerMessage → Bool
  | .copyIn | .copyOut => true
  | _ => false

/-- Whether a message has no place in an answer to a query. -/
def isUnexpected : ServerMessage → Bool
  | .authenticated | .passwordRequest | .md5Request _ | .saslRequest _ | .saslContinue _
  | .saslFinal _ | .otherAuthentication | .keyData | .closeComplete | .portalSuspended
  | .parameterDescription => true
  | _ => false

end ServerMessage

namespace Reply

/-- The status of a reply after a message that does not report an error. -/
def statusAfter (reply : Reply) (message : ServerMessage) : QueryStatus :=
  match message with
  | .commandComplete => reply.complete.status
  | .emptyQuery => .emptyQuery
  | .copyIn => .copyIn
  | .copyOut => .copyOut
  | other => if other.isUnexpected then .badResponse else reply.status

/-- What a message does to a reply, and what is sent for it. -/
structure Follows (reply : Reply) (message : ServerMessage) (next : Reply) (said : Octets) :
    Prop where
  said : said = if message = .copyIn then refusal else []
  described : next.described = (reply.described || message.describes)
  copying : next.copying = (reply.copying || message.startsCopy)
  reported : next.report.isSome = (reply.report.isSome || message.isReport)
  status : message.isReport = false → next.status = reply.statusAfter message

/-- How a reply is answered by a dialogue: it goes on, it ends because the server is ready, or it
fails because a message cannot be read. -/
inductive Answered (reply : Reply) : ServerMessage → Turn Reply QueryResult → Prop
  | goesOn {message : ServerMessage} {next : Reply} {said : Octets}
      (follows : Follows reply message next said) : Answered reply message (.proceed next said)
  | ready : Answered reply .ready (.finish reply.result)
  | unreadable (message : ServerMessage) (cause : String) :
      Answered reply message (.fail (.transport cause))

/-! ## One message -/

theorem complete_eq (reply : Reply) :
    reply.complete = { reply with status := reply.complete.status } := by
  rw [complete]
  split <;> rfl

theorem follows_complete (reply : Reply) : Follows reply .commandComplete reply.complete [] where
  said := rfl
  described := by rw [complete_eq]; exact (Bool.or_false _).symm
  copying := by rw [complete_eq]; exact (Bool.or_false _).symm
  reported := by rw [complete_eq]; exact (Bool.or_false _).symm
  status _ := rfl

/-- A message of none of the kinds above does nothing to a reply but to its rows and its status. -/
theorem Follows.ofPlain {reply next : Reply} {message : ServerMessage}
    (described : message.describes = false) (copying : message.startsCopy = false)
    (reported : message.isReport = false)
    (same : next = { reply with rows := next.rows, status := reply.statusAfter message }) :
    Follows reply message next [] where
  said := by
    have elsewhere : message ≠ .copyIn := by
      rintro rfl
      cases copying
    exact (if_neg elsewhere).symm
  described := by rw [same, described, Bool.or_false]
  copying := by rw [same, copying, Bool.or_false]
  reported := by rw [same, reported, Bool.or_false]
  status _ := by rw [same]

/-- If a reply has no report after a message, it had none before, and the message settles its
status. -/
theorem Follows.unreported {reply next : Reply} {message : ServerMessage} {said : Octets}
    (follows : Follows reply message next said) (nothing : next.report = none) :
    reply.report = none ∧ next.status = reply.statusAfter message := by
  have silent := follows.reported
  rw [nothing, Option.isSome_none, eq_comm, Bool.or_eq_false_iff] at silent
  exact ⟨Option.isNone_iff_eq_none.mp (Option.isSome_eq_false_iff.mp silent.1),
    follows.status silent.2⟩

theorem answered_dialogue (reply : Reply) (message : ServerMessage) :
    Answered reply message (dialogue reply message) := by
  cases message with
  | ready => exact .ready
  | commandComplete => exact .goesOn (follows_complete reply)
  | copyIn =>
      simp only [dialogue, refuseCopy_eq]
      exact .goesOn ⟨rfl, (Bool.or_false _).symm, (Bool.or_true _).symm, (Bool.or_false _).symm,
        fun _ => rfl⟩
  | copyOut =>
      exact .goesOn ⟨rfl, (Bool.or_false _).symm, (Bool.or_true _).symm, (Bool.or_false _).symm,
        fun _ => rfl⟩
  | rowDescription columns body =>
      simp only [dialogue, reading]
      split
      next => exact .unreadable ..
      next => exact .goesOn ⟨rfl, (Bool.or_true _).symm, (Bool.or_false _).symm,
        (Bool.or_false _).symm, fun _ => rfl⟩
  | report fields =>
      simp only [dialogue, reading]
      split
      next => exact .unreadable ..
      next => exact .goesOn ⟨rfl, (Bool.or_false _).symm, (Bool.or_false _).symm,
        (Bool.or_true _).symm, fun silent => by cases silent⟩
  | dataRow cells body =>
      simp only [dialogue, reading]
      split
      next => exact .unreadable ..
      next => exact .goesOn (.ofPlain rfl rfl rfl rfl)
  | notice fields =>
      simp only [dialogue, reading]
      split
      next => exact .unreadable ..
      next => exact .goesOn (.ofPlain rfl rfl rfl rfl)
  | _ => exact .goesOn (.ofPlain rfl rfl rfl rfl)

section

variable {reply next : Reply} {message : ServerMessage}

theorem follows_of_proceed {said : Octets}
    (proceeds : dialogue reply message = .proceed next said) :
    Follows reply message next said := by
  have answered := answered_dialogue reply message
  rw [proceeds] at answered
  cases answered with
  | goesOn follows => exact follows

theorem eq_ready_of_finish {result : QueryResult}
    (finishes : dialogue reply message = .finish result) :
    message = .ready ∧ result = reply.result := by
  have answered := answered_dialogue reply message
  rw [finishes] at answered
  cases answered
  exact ⟨rfl, rfl⟩

theorem exists_cause_of_fail {failure : ConnectionFailure}
    (fails : dialogue reply message = .fail failure) : ∃ cause, failure = .transport cause := by
  have answered := answered_dialogue reply message
  rw [fails] at answered
  cases answered
  exact ⟨_, rfl⟩

end

/-! ## Streams -/

/-- All that a session says while it hears a stream are refusals, at most one for each copy from
the client that the server starts. -/
theorem exists_refusals_of_hear (reply : Reply) (stream : Octets) :
    ∃ refusals, (dialogue.hear reply stream).sent = (List.replicate refusals refusal).flatten ∧
      refusals ≤ (ServerMessage.readAll stream).count .copyIn := by
  cases found : ServerMessage.read stream with
  | incomplete =>
      rw [dialogue.hear_of_incomplete reply found]
      exact ⟨0, rfl, Nat.zero_le _⟩
  | malformed cause =>
      rw [dialogue.hear_of_malformed reply found]
      exact ⟨0, rfl, Nat.zero_le _⟩
  | message message rest =>
      rw [dialogue.hear_of_message reply found]
      cases turn : dialogue reply message with
      | proceed next said =>
          have shorter := ServerMessage.length_of_read found
          obtain ⟨refusals, sends, few⟩ := exists_refusals_of_hear next rest
          rw [ServerMessage.readAll_of_message found, (follows_of_proceed turn).said]
          simp only [sends]
          by_cases copies : message = .copyIn
          · refine ⟨refusals + 1, ?_, ?_⟩
            · rw [if_pos copies, List.replicate_succ, List.flatten_cons]
            · rw [copies, List.count_cons_self]
              exact Nat.succ_le_succ few
          · refine ⟨refusals, ?_, ?_⟩
            · rw [if_neg copies, List.nil_append]
            · rw [List.count_cons_of_ne copies]
              exact few
      | finish result => exact ⟨0, rfl, Nat.zero_le _⟩
      | fail failure => exact ⟨0, rfl, Nat.zero_le _⟩
termination_by stream.length

/-- A dialogue about a reply that fails blames the transport. -/
theorem exists_cause_of_hear {reply : Reply} {stream sent rest : Octets}
    {failure : ConnectionFailure}
    (heard : dialogue.hear reply stream = ⟨sent, .ended (.error failure), rest⟩) :
    ∃ cause, failure = .transport cause := by
  cases found : ServerMessage.read stream with
  | incomplete =>
      rw [dialogue.hear_of_incomplete reply found] at heard
      cases heard
  | malformed cause =>
      rw [dialogue.hear_of_malformed reply found] at heard
      cases heard
      exact ⟨_, rfl⟩
  | message message after =>
      rw [dialogue.hear_of_message reply found] at heard
      cases turn : dialogue reply message with
      | proceed next said =>
          have shorter := ServerMessage.length_of_read found
          simp only [turn] at heard
          cases hearing : dialogue.hear next after with
          | mk others stance unread =>
              simp only [hearing] at heard
              cases heard
              exact exists_cause_of_hear hearing
      | finish result =>
          rw [turn] at heard
          cases heard
      | fail known =>
          rw [turn] at heard
          cases heard
          exact exists_cause_of_fail turn
termination_by stream.length

end Reply

end BankLedger.Postgres
