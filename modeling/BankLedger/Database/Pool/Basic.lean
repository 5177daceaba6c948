import BankLedger.Database.Backend
import BankLedger.Database.Memory
import BankLedger.Database.Metrics

/-!
# The state of a pool

A pool lends a fixed number of connections.  Its first connection is opened while the caller waits,
so that bad credentials fail early; the others are opened by handshakes, which polling advances.
This module has the states of a pool and what every operation does to them, given what the backend
did: connections that an operation gives up are returned to be closed.  While the first connection
is being opened the pool may change under the caller's hands, so connecting has two halves.
-/

namespace BankLedger.Database

open BankLedger.Sql

/-- How far a pool has got.  An invalid pool was destroyed and cannot be connected again. -/
inductive PoolStatus
  | notConnected
  | connecting
  | connected
  | failedConnection
  | invalid
deriving DecidableEq

namespace PoolStatus

/-- The name of a status. -/
def name : PoolStatus → String
  | .notConnected => "NotConnected"
  | .connecting => "Connecting"
  | .connected => "Connected"
  | .failedConnection => "FailedConnection"
  | .invalid => "Invalid"

/-- Whether polling leaves a pool in this status as it is. -/
def isTerminal (status : PoolStatus) : Bool :=
  status != .connecting

end PoolStatus

/-- Why a pool cannot be made or connected. -/
inductive PoolFailure
  | invalidSettings (reason : String)
  | connection (failure : ConnectionFailure)
  | alreadyConnecting
  | destroyed
deriving DecidableEq

namespace PoolFailure

/-- The wording of a failure. -/
def message : PoolFailure → String
  | .invalidSettings reason => s!"invalid pool configuration: {reason}"
  | .connection failure => s!"unable to connect to the database: {failure.message}"
  | .alreadyConnecting => "the pool is already connecting"
  | .destroyed => "the pool has been destroyed"

/-- The messages of the causes of a failure, nearest first. -/
def causes : PoolFailure → List String
  | .connection failure => failure.message :: failure.causes
  | _ => []

/-- The result code of a failure. -/
def code : PoolFailure → Code
  | .invalidSettings _ | .destroyed => .invalidDatabase
  | .connection _ => .connectionError
  | .alreadyConnecting => .processing

end PoolFailure

/-- Why there is no pool after an attempt to make one. -/
inductive CreationFailure
  | refused (failure : PoolFailure)
  | panicked (panic : Panic)
deriving DecidableEq

/-- A pool.  The idle connection that came last is the first of its list and is lent first. -/
structure Pool (Connection Handshake : Type) where
  credentials : Credentials
  capacity : Nat
  status : PoolStatus
  idle : List Connection
  pending : List Handshake
  /-- The first connection is being opened. -/
  openingFirst : Bool
  metrics : Option Metrics

namespace Pool

variable {Connection Handshake : Type}

/-- Checks the settings of a pool. -/
def checkSettings (capacity : Nat) (credentials : Credentials) : Except PoolFailure Unit :=
  if capacity < 1 then .error (.invalidSettings "at least one connection is required")
  else match credentials.missingFields with
    | [] => .ok ()
    | missing =>
        let names := String.intercalate ", " missing
        .error (.invalidSettings s!"missing connection settings: {names}")

/-- A pool without connections, if its settings are usable.  The memory for as many idle
connections of this size as it may have is reserved at once. -/
def create (connectionSize capacity : Nat) (credentials : Credentials) :
    Except CreationFailure (Pool Connection Handshake) := do
  (checkSettings capacity credentials).mapError .refused
  (reserve connectionSize capacity).mapError .panicked
  return ⟨credentials, capacity, .notConnected, [], [], false, none⟩

/-- The number of connections that can be lent at once. -/
def available (pool : Pool Connection Handshake) : Nat :=
  pool.idle.length

/-- A pool with its metrics changed, if it has any. -/
def mapMetrics (change : Metrics → Metrics) (pool : Pool Connection Handshake) :
    Pool Connection Handshake :=
  { pool with metrics := pool.metrics.map change }

/-- The pool with its gauges set. -/
def record (pool : Pool Connection Handshake) : Pool Connection Handshake :=
  pool.mapMetrics (Metrics.record pool.capacity pool.available)

/-- The pool with metrics attached. -/
def withMetrics (metrics : Metrics) (pool : Pool Connection Handshake) :
    Pool Connection Handshake :=
  { pool with metrics := some metrics }.record

/-- The pool for diagnostics. -/
def description (vendor : String) (pool : Pool Connection Handshake) : String :=
  s!"Pool \x7b backend: \"{vendor}\", capacity: {pool.capacity}, " ++
    s!"status: {pool.status.name}, available: {pool.available}, .. \x7d"

/-! ## Connecting -/

/-- The answer to a caller who wants to connect a pool that need not or cannot be connected. -/
def connectAnswer? (pool : Pool Connection Handshake) : Option (Except PoolFailure Unit) :=
  match pool.status with
  | .connected => some (.ok ())
  | .connecting => some (.error .alreadyConnecting)
  | .invalid => some (.error .destroyed)
  | .notConnected | .failedConnection => none

/-- The first half of connecting: the connections left from an earlier attempt are given up. -/
def beginConnect (pool : Pool Connection Handshake) :
    List Connection × Pool Connection Handshake :=
  (pool.idle.reverse, { pool with idle := [], status := .connecting, openingFirst := true })

/-- The second half of connecting after the first connection could not be opened. -/
def failFirst (pool : Pool Connection Handshake) : Pool Connection Handshake :=
  { pool with
    openingFirst := false
    status := if pool.status = .invalid then .invalid else .failedConnection }

/-- The second half of connecting after the first connection was opened and some handshakes were
started, perhaps not all.  A pool destroyed meanwhile gives up the connection. -/
def finishConnect (first : Connection) (started : List Handshake)
    (failure : Option ConnectionFailure) (pool : Pool Connection Handshake) :
    (List Connection × Except PoolFailure Unit) × Pool Connection Handshake :=
  let pool := { pool with openingFirst := false }
  if pool.status = .invalid then (([first], .error .destroyed), pool)
  else
    let pool := { pool with idle := first :: pool.idle }
    match failure with
    | some failure =>
        (([], .error (.connection failure)), { pool with status := .failedConnection }.record)
    | none =>
        let status := if started.isEmpty then PoolStatus.connected else .connecting
        (([], .ok ()), { pool with pending := started, status := status }.record)

/-! ## Polling -/

/-- Whether polling does anything. -/
def isPolled (pool : Pool Connection Handshake) : Bool :=
  pool.status = .connecting && !pool.openingFirst

/-- The connections that some looks at handshakes found, in order. -/
def arrived (found : List (Progress Connection Handshake)) : List Connection :=
  found.filterMap fun
    | .ready connection => some connection
    | _ => none

/-- The handshakes still under way after some looks, in order. -/
def stillPending (found : List (Progress Connection Handshake)) : List Handshake :=
  found.filterMap fun
    | .pending handshake => some handshake
    | _ => none

/-- Whether one of some looks found a failure. -/
def anyFailed (found : List (Progress Connection Handshake)) : Bool :=
  found.any fun
    | .failed _ => true
    | _ => false

/-- The pool after a look at every pending handshake.  One failure abandons those still under
way. -/
def settle (found : List (Progress Connection Handshake)) (pool : Pool Connection Handshake) :
    Pool Connection Handshake :=
  let waiting := stillPending found
  let pool := { pool with idle := (arrived found).reverse ++ pool.idle }
  (if anyFailed found then { pool with pending := [], status := .failedConnection }
    else if waiting.isEmpty then { pool with pending := [], status := .connected }
    else { pool with pending := waiting }).record

/-! ## Lending -/

/-- Takes an idle connection; a caller who finds none is counted. -/
def acquire (pool : Pool Connection Handshake) :
    Option Connection × Pool Connection Handshake :=
  match pool.idle with
  | connection :: others => (some connection, { pool with idle := others }.record)
  | [] => (none, pool.mapMetrics Metrics.countAcquireFailure)

/-- Takes back a connection.  A destroyed or full pool gives it up. -/
def release (connection : Connection) (pool : Pool Connection Handshake) :
    List Connection × Pool Connection Handshake :=
  if pool.status = .invalid then ([connection], pool)
  else if pool.available ≥ pool.capacity then ([connection], pool)
  else ([], { pool with idle := connection :: pool.idle }.record)

/-- Gives up every idle connection and abandons the pending handshakes, for good. -/
def destroy (pool : Pool Connection Handshake) :
    List Connection × Pool Connection Handshake :=
  if pool.status = .invalid then ([], pool)
  else (pool.idle.reverse,
    { pool with idle := [], pending := [], status := .invalid }.record)

end Pool

end BankLedger.Database
