import BankLedger.Database.Handshake
import BankLedger.Postgres.Session

/-!
# Servers as a backend

The backend that talks to servers over a network.  A broken session is a failure of the connection,
any other failure to run a query is fatal.
-/

namespace BankLedger.Postgres

open BankLedger.Database BankLedger.Sql

/-- The vendor of the servers. -/
def vendor : String := "Postgres 15"

/-- The result of a query that failed without a result of the server. -/
def failedResult (failure : ConnectionFailure) : ResultSet :=
  match failure with
  | .transport _ | .broken =>
      .status .connectionError
        (vendorMessage "Connection to the database failed" vendor failure.message)
  | _ => .status .fatal (vendorMessage "Fatal error" vendor failure.message)

/-- The result set of the outcome of a query. -/
def resultSetOf : Except ConnectionFailure QueryResult → ResultSet
  | .ok result => result.toResultSet vendor
  | .error failure => failedResult failure

/-- A handshake whose outcome is known. -/
def finishedHandshake {Line : Type} :
    Except ConnectionFailure (Session Line) → BackgroundHandshake (Session Line)
  | .ok session => .finished (.opened session)
  | .error failure => .finished (.failed failure)

/-- The octets that a session takes in memory: its socket, two buffers and a flag. -/
def sessionSize : Nat := 72

/-- The backend that talks to servers over a network. -/
def backend {m : Type → Type} [Monad m] {Line : Type} (network : Network m Line) :
    Backend m (Session Line) (BackgroundHandshake (Session Line)) where
  vendor := vendor
  connectionSize := sessionSize
  connect := Session.connect network
  startHandshake credentials := do
    return .ok (finishedHandshake (← Session.connect network credentials))
  pollHandshake handshake := return handshake.poll
  execute session text parameters := do
    let (outcome, session) ← session.query network text parameters
    return (session, resultSetOf outcome)
  close := Session.close network

end BankLedger.Postgres
