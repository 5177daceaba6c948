import BankLedger.Database.ConnectionFailure
import BankLedger.Database.Credentials
import BankLedger.Sql.Parameter
import BankLedger.Sql.ResultSet

/-!
# Backends

A backend is what a vendor of databases provides: it opens connections, at once or in the
background, runs queries on them and closes them.  Its effects are those of a monad, so that one
pool serves a real server, a rehearsed one and one that a proof quantifies over.
-/

namespace BankLedger.Database

open BankLedger.Sql

/-- What a look at a handshake finds. -/
inductive Progress (Connection Handshake : Type)
  | pending (handshake : Handshake)
  | ready (connection : Connection)
  | failed (failure : ConnectionFailure)

/-- What a vendor of databases provides. -/
structure Backend (m : Type → Type) (Connection Handshake : Type) where
  vendor : String
  /-- The octets that a connection takes in memory. -/
  connectionSize : Nat
  /-- Opens a connection and waits until it is usable or has failed. -/
  connect : Credentials → m (Except ConnectionFailure Connection)
  /-- Starts to open a connection. -/
  startHandshake : Credentials → m (Except ConnectionFailure Handshake)
  /-- Looks at a handshake without waiting. -/
  pollHandshake : Handshake → m (Progress Connection Handshake)
  /-- Runs a query; a failure is reported in the result. -/
  execute : Connection → String → List WireText → m (Connection × ResultSet)
  close : Connection → m Unit

namespace Backend

variable {m : Type → Type} [Monad m] {Connection Handshake : Type}

/-- Starts some handshakes.  The first that cannot be started ends it, and its failure comes with
those that were started. -/
def startHandshakes (backend : Backend m Connection Handshake) (credentials : Credentials) :
    Nat → m (List Handshake × Option ConnectionFailure)
  | 0 => return ([], none)
  | count + 1 => do
      match ← backend.startHandshake credentials with
      | .error failure => return ([], some failure)
      | .ok handshake =>
          let (others, failure) ← backend.startHandshakes credentials count
          return (handshake :: others, failure)

/-- Closes some connections in order. -/
def closeAll (backend : Backend m Connection Handshake) : List Connection → m Unit
  | [] => return ()
  | connection :: others => do
      backend.close connection
      backend.closeAll others

/-- The same backend among further effects. -/
def lift {n : Type → Type} [MonadLiftT m n] (backend : Backend m Connection Handshake) :
    Backend n Connection Handshake where
  vendor := backend.vendor
  connectionSize := backend.connectionSize
  connect credentials := liftM (backend.connect credentials)
  startHandshake credentials := liftM (backend.startHandshake credentials)
  pollHandshake handshake := liftM (backend.pollHandshake handshake)
  execute connection query parameters := liftM (backend.execute connection query parameters)
  close connection := liftM (backend.close connection)

end Backend

end BankLedger.Database
