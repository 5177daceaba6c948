/-!
# Connection failures

Why a connection could not be opened or used.  A failure has a message and, for failures of the
transport below, the message of their cause.
-/

namespace BankLedger.Database

/-- Why a connection could not be opened or used. -/
inductive ConnectionFailure
  | unreachable (address reason : String)
  | authentication (reason : String)
  | protocol (reason : String)
  | server (reason : String)
  | handshakeLost
  | broken
  | transport (reason : String)
deriving DecidableEq

namespace ConnectionFailure

/-- The wording of a failure. -/
def message : ConnectionFailure → String
  | .unreachable address reason => s!"could not connect to {address}: {reason}"
  | .authentication reason => s!"authentication failed: {reason}"
  | .protocol reason => s!"protocol error: {reason}"
  | .server reason => reason
  | .handshakeLost => "the handshake thread panicked"
  | .broken => "connection is broken"
  | .transport reason => s!"i/o error: {reason}"

/-- The messages of the causes of a failure, nearest first. -/
def causes : ConnectionFailure → List String
  | .unreachable _ reason => [reason]
  | .transport reason => [reason]
  | _ => []

end ConnectionFailure

/-- The wording of every result of a query: a summary, the vendor and what the vendor said. -/
def vendorMessage (summary vendor detail : String) : String :=
  if detail.isEmpty then s!"{summary}. ({vendor})" else s!"{summary}. ({vendor}): {detail}"

end BankLedger.Database
