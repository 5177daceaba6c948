import BankLedger.Database.Pool.Operations
import BankLedger.Ledger.Bank
import BankLedger.Settings.Runtime

/-!
# Startup

A service starts in four steps: its metrics are published, a pool is made and connected, the pool is
polled until all its connections have arrived or the time is over, and the accounts are loaded.  A
failing load does not keep the service from starting.
-/

namespace BankLedger.Ledger

open BankLedger.Database BankLedger.Settings BankLedger.Sql

/-- Why a service did not start. -/
inductive StartupFailure
  | pool (cause : PoolFailure)
  | metrics (cause : MetricsFailure)
  | ended (status : PoolStatus)
  | timedOut (milliseconds : Nat)
deriving DecidableEq

namespace StartupFailure

/-- The wording of a failure. -/
def message : StartupFailure → String
  | .pool cause => s!"unable to initialize connection pool: {cause.message}"
  | .metrics cause => s!"error initializing metrics: {cause.message}"
  | .ended status => s!"the connection pool ended in state {status.name}"
  | .timedOut milliseconds =>
      s!"the connection pool was not connected after {milliseconds}ms"

/-- The messages of the causes of a failure, nearest first. -/
def causes : StartupFailure → List String
  | .pool cause => cause.message :: cause.causes
  | _ => []

/-- The result code of a failure. -/
def code : StartupFailure → Code
  | .pool cause => cause.code
  | .metrics _ => .fatal
  | .ended .invalid => .invalidDatabase
  | .ended _ | .timedOut _ => .connectionError

/-- The exit code of a program that could not start: 2 if its configuration cannot work. -/
def exitCode (failure : StartupFailure) : Nat :=
  if failure.code = .invalidDatabase then 2 else 1

end StartupFailure

/-- Why there is no service after an attempt to start one: it failed, with the metrics as it left
them, or the program panicked. -/
inductive Unstarted
  | failed (failure : StartupFailure) (metrics : Metrics)
  | panicked (panic : Panic)

/-- The accounts of a started service and the pool that reaches their storage. -/
structure Service (Connection Handshake : Type) where
  accounts : Accounts
  pool : Pool Connection Handshake

/-- The storage that a pool reaches. -/
def pooledStorage {m : Type → Type} [Monad m] {Connection Handshake : Type}
    (backend : Backend m Connection Handshake) : Storage (PoolAction m Connection Handshake) :=
  fun request => Pool.execute backend request.query request.parameters

namespace Startup

variable {m : Type → Type} [Monad m] {Connection Handshake : Type}

/-- How often a pool is polled until the time is over, if polls follow each other after an interval.
Without an interval a poll is taken to last a microsecond. -/
def pollBudget (intervalMs timeoutMs : Nat) : Nat :=
  let step := if intervalMs = 0 then 1 else intervalMs * 1000
  (timeoutMs * 1000 + (step - 1)) / step + 1

/-- Polls a pool, at most a number of times, until it is connected.  A pool that ends in another
status has failed. -/
def awaitConnections (backend : Backend m Connection Handshake) (pause : m Unit)
    (timeoutMs : Nat) : Nat → PoolAction m Connection Handshake (Except StartupFailure Unit)
  | 0 => return .error (.timedOut timeoutMs)
  | polls + 1 => do
      match ← Pool.poll backend with
      | .connected => return .ok ()
      | .connecting =>
          liftM pause
          awaitConnections backend pause timeoutMs polls
      | status => return .error (.ended status)

/-- Connects a pool and waits until it is connected. -/
def connect (backend : Backend m Connection Handshake) (pause : Nat → m Unit)
    (settings : PoolSettings) : PoolAction m Connection Handshake (Except StartupFailure Unit) := do
  match ← Pool.connect backend with
  | .error failure => return .error (.pool failure)
  | .ok () =>
      let interval := settings.pollIntervalMs.toNat
      let timeout := settings.handshakeTimeoutMs.toNat
      awaitConnections backend (pause interval) timeout (pollBudget interval timeout)

/-- The accounts as they are after an attempt to load them. -/
def loadAccounts (backend : Backend m Connection Handshake) (greatest : Int64) :
    PoolAction m Connection Handshake Accounts := do
  let (_, accounts) ← (Bank.load (pooledStorage backend)).run (.ofGreatest greatest)
  return accounts

/-- Connects a new pool and loads the accounts through it.  A pool that does not connect is
closed. -/
def openPool (backend : Backend m Connection Handshake) (pause : Nat → m Unit)
    (configuration : Runtime) :
    PoolAction m Connection Handshake (Except StartupFailure Accounts) := do
  match ← connect backend pause configuration.pool with
  | .error failure =>
      Pool.close backend
      return .error failure
  | .ok () => .ok <$> loadAccounts backend configuration.ledger.maxAccountId

/-- Starts a service whose metrics are published beside others. -/
def start (backend : Backend m Connection Handshake) (pause : Nat → m Unit)
    (configuration : Runtime) (registry : Registry) :
    m (Except Unstarted (Service Connection Handshake)) := do
  let metrics := Metrics.initial
  let capacity := configuration.pool.connections.toNat
  if registry.clashes metrics.families then return .error (.failed (.metrics .nameTaken) metrics)
  match Pool.create backend.connectionSize capacity configuration.credentials with
  | .error (.refused failure) => return .error (.failed (.pool failure) metrics)
  | .error (.panicked panic) => return .error (.panicked panic)
  | .ok pool =>
      let (outcome, pool) ← (openPool backend pause configuration).run (pool.withMetrics metrics)
      match outcome with
      | .error failure => return .error (.failed failure (pool.metrics.getD metrics))
      | .ok accounts => return .ok ⟨accounts, pool⟩

end Startup

end BankLedger.Ledger
