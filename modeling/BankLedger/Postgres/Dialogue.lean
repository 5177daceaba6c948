import BankLedger.Database.ConnectionFailure
import BankLedger.Postgres.ServerMessage

/-!
# Dialogues

A session is a sequence of dialogues: the login, and one for every query.  A dialogue says for each
message of the server what to send and whether it goes on.  It hears a stream of octets that arrives
in pieces of any size: whatever makes whole messages is heard at once, and the rest is kept unread
until more arrives.
-/

namespace BankLedger.Postgres

open BankLedger.Database

/-- What follows a message of the server. -/
inductive Turn (State Result : Type)
  | proceed (state : State) (reply : Octets)
  | finish (result : Result)
  | fail (failure : ConnectionFailure)

/-- What to do about a message of the server. -/
abbrev Dialogue (State Result : Type) :=
  State → ServerMessage → Turn State Result

/-- Where a dialogue stands when all whole messages are heard. -/
inductive Stance (State Result : Type)
  | listening (state : State)
  | ended (outcome : Except ConnectionFailure Result)

/-- What hearing some octets led to: what was sent, where the dialogue stands, and what is still
unread. -/
structure Hearing (State Result : Type) where
  sent : Octets
  stance : Stance State Result
  unread : Octets

namespace Dialogue

variable {State Result : Type}

/-- Hears the whole messages at the start of a stream. -/
def hear (dialogue : Dialogue State Result) (state : State) (stream : Octets) :
    Hearing State Result :=
  match found : ServerMessage.read stream with
  | .incomplete => ⟨[], .listening state, stream⟩
  | .malformed cause => ⟨[], .ended (.error (.transport cause.message)), stream⟩
  | .message message rest =>
      match dialogue state message with
      | .proceed state reply =>
          have := ServerMessage.length_of_read found
          let hearing := dialogue.hear state rest
          { hearing with sent := reply ++ hearing.sent }
      | .finish result => ⟨[], .ended (.ok result), rest⟩
      | .fail failure => ⟨[], .ended (.error failure), rest⟩
termination_by stream.length

/-- How a dialogue ends if the stream ends. -/
def streamEnded : ConnectionFailure :=
  .transport "the server closed the connection"

end Dialogue

end BankLedger.Postgres
