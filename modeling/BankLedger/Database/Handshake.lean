import BankLedger.Database.Backend

/-!
# Background handshakes

A connection that is opened in the background is looked at until it has an outcome.  The outcome is
given once; afterwards the handshake is spent.
-/

namespace BankLedger.Database

/-- How opening a connection in the background ended: its opener may also be lost. -/
inductive HandshakeOutcome (Connection : Type)
  | opened (connection : Connection)
  | failed (failure : ConnectionFailure)
  | lost

/-- A connection being opened in the background. -/
inductive BackgroundHandshake (Connection : Type)
  | running
  | finished (outcome : HandshakeOutcome Connection)
  | spent

namespace BackgroundHandshake

variable {Connection : Type}

/-- A look at a handshake, which never waits. -/
def poll : BackgroundHandshake Connection → Progress Connection (BackgroundHandshake Connection)
  | .running => .pending .running
  | .finished (.opened connection) => .ready connection
  | .finished (.failed failure) => .failed failure
  | .finished .lost => .failed .handshakeLost
  | .spent => .failed (.protocol "handshake already completed")

/-- The handshake after a look at it. -/
def polled : BackgroundHandshake Connection → BackgroundHandshake Connection
  | .running => .running
  | .finished _ | .spent => .spent

end BackgroundHandshake

end BankLedger.Database
