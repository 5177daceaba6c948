import BankLedger.Database.Pool.Basic

/-!
# Operations on a pool

The operations of a pool together with the effects of its backend.  A query never fails: whatever
goes wrong is told by the code and the message of its result, and its connection goes back to the
pool before the result is returned.
-/

namespace BankLedger.Database

open BankLedger.Sql

/-- An action on a pool whose backend has the effects of a monad. -/
abbrev PoolAction (m : Type → Type) (Connection Handshake : Type) :=
  StateT (Pool Connection Handshake) m

namespace Pool

variable {m : Type → Type} [Monad m] {Connection Handshake : Type}

/-- Changes the pool and closes the connections that the change gives up. -/
def changing (backend : Backend m Connection Handshake)
    (change : Pool Connection Handshake → List Connection × Pool Connection Handshake) :
    PoolAction m Connection Handshake Unit := do
  let givenUp ← modifyGet change
  liftM (backend.closeAll givenUp)

/-- Connects the pool; the first connection is opened as given.  Other callers may act on the pool
meanwhile. -/
def connectWith (backend : Backend m Connection Handshake)
    (openFirst : PoolAction m Connection Handshake (Except ConnectionFailure Connection)) :
    PoolAction m Connection Handshake (Except PoolFailure Unit) := do
  let pool ← get
  match pool.connectAnswer? with
  | some answer => return answer
  | none =>
      changing backend beginConnect
      match ← openFirst with
      | .error failure =>
          modify failFirst
          return .error (.connection failure)
      | .ok first =>
          let (started, failure) ←
            liftM (backend.startHandshakes pool.credentials (pool.capacity - 1))
          let (givenUp, answer) ← modifyGet (finishConnect first started failure)
          liftM (backend.closeAll givenUp)
          return answer

/-- Connects the pool: opens the first connection and starts the handshakes of the others. -/
def connect (backend : Backend m Connection Handshake) :
    PoolAction m Connection Handshake (Except PoolFailure Unit) :=
  connectWith backend do
    let pool ← get
    liftM (backend.connect pool.credentials)

/-- Looks at every pending handshake and tells how far the pool has got. -/
def poll (backend : Backend m Connection Handshake) :
    PoolAction m Connection Handshake PoolStatus := do
  let pool ← get
  if pool.isPolled then
    let found ← liftM (pool.pending.mapM backend.pollHandshake)
    modify (settle found)
  return (← get).status

/-- Takes an idle connection. -/
def take : PoolAction m Connection Handshake (Option Connection) :=
  modifyGet acquire

/-- Gives a connection back. -/
def giveBack (backend : Backend m Connection Handshake) (connection : Connection) :
    PoolAction m Connection Handshake Unit :=
  changing backend (release connection)

/-- Closes the pool for good. -/
def close (backend : Backend m Connection Handshake) : PoolAction m Connection Handshake Unit :=
  changing backend destroy

/-- The result of a query for which no connection was idle. -/
def exhausted (pool : Pool Connection Handshake) : ResultSet :=
  .status .fatal <| "Could not get connection from connection pool. " ++
    s!"Connection available: [{pool.available}]. Connection count: [{pool.capacity}]"

/-- The result of a query with a parameter that cannot be sent. -/
def unsendable (vendor : String) (failure : ParameterError) : ResultSet :=
  .status .invalidType <|
    vendorMessage "Query has an unsupported parameter" vendor failure.message

/-- Runs a query with parameters on an idle connection. -/
def execute (backend : Backend m Connection Handshake) (query : String)
    (parameters : List Value) : PoolAction m Connection Handshake ResultSet := do
  match ← take with
  | none => return exhausted (← get)
  | some connection =>
      match wireTexts parameters with
      | .error failure =>
          giveBack backend connection
          return unsendable backend.vendor failure
      | .ok texts =>
          let (connection, result) ← liftM (backend.execute connection query texts)
          giveBack backend connection
          modify (mapMetrics (Metrics.countQuery result.code.isError))
          return result

end Pool

end BankLedger.Database
