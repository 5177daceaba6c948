import BankLedger.Ledger.Startup
import BankLedger.Proofs.Database.Footprint
import BankLedger.Proofs.Database.Polling
import BankLedger.Proofs.Ledger.Loading

/-!
# How a service begins

A start is refused, or panics, before anything is done, or it fails to open its pool, or a service
begins with the accounts that it could load.  The pool that is opened was not used before; nobody
destroys it meanwhile, so whatever goes wrong with it is the fault of the database and not of the
configuration.
-/

namespace BankLedger.Ledger

open BankLedger.Database BankLedger.Settings

variable {m : Type → Type} [Monad m] {World View Connection Handshake : Type}

/-! ## Pools that are not destroyed -/

section

variable (backend : Backend m Connection Handshake) (execution : Execution m World)
variable {pool : Pool Connection Handshake} (world : World)

/-- A look at a pool that is not invalid does not make it so. -/
theorem poll_valid (valid : pool.status ≠ .invalid) :
    let outcome := (execution.withState _).run (Pool.poll backend) (pool, world)
    outcome.1 ≠ .invalid ∧ outcome.2.1.status ≠ .invalid := by
  cases polled : pool.isPolled with
  | false =>
      rw [Pool.run_poll_of_unpolled backend execution world polled]
      exact ⟨valid, valid⟩
  | true =>
      rw [Pool.run_poll_of_polled backend execution world polled]
      dsimp only
      generalize (execution.run (pool.pending.mapM backend.pollHandshake) world).1 = found
      have settling := Pool.settling_settle found pool
      generalize Pool.settle found pool = settled at settling ⊢
      cases settling with
      | failed => exact ⟨nofun, nofun⟩
      | connected => exact ⟨nofun, nofun⟩
      | waiting => exact ⟨valid, valid⟩

/-- A pool that has not been used fails to connect only for want of a connection. -/
theorem connect_unused {capacity : Nat} (unused : pool.Unused capacity) :
    let outcome := (execution.withState _).run (Pool.connect backend) (pool, world)
    (∀ failure, outcome.1 = .error failure → failure.code = .connectionError) ∧
      outcome.2.1.status ≠ .invalid := by
  have connecting := Pool.connecting_connect backend execution pool world
  dsimp only
  generalize (execution.withState _).run (Pool.connect backend) (pool, world) = outcome
    at connecting ⊢
  cases connecting with
  | answered known =>
      rw [Pool.connectAnswer?, unused.status_eq] at known
      cases known
  | unopened =>
      constructor
      · intro failure failed
        cases failed
        rfl
      · intro invalid
        cases invalid
  | unstarted =>
      constructor
      · intro failure failed
        cases failed
        rfl
      · intro invalid
        cases invalid
  | @started _ started =>
      constructor
      · intro failure failed
        cases failed
      · rw [Pool.status_record]
        cases started.isEmpty <;> exact PoolStatus.noConfusion

end

namespace StartupFailure

theorem exitCode_of_connectionError {failure : StartupFailure}
    (fault : failure.code = .connectionError) : failure.exitCode = 1 := by
  rw [exitCode, fault]
  rfl

theorem exitCode_eq_one_or_two (failure : StartupFailure) :
    failure.exitCode = 1 ∨ failure.exitCode = 2 := by
  rw [exitCode]
  split
  · exact .inr rfl
  · exact .inl rfl

end StartupFailure

namespace Startup

section

variable {backend : Backend m Connection Handshake} {execution : Execution m World}
variable {pool : Pool Connection Handshake}

/-! ## The code of a failure -/

theorem code_awaitConnections {pause : m Unit} {timeoutMs polls : Nat} {world : World}
    (valid : pool.status ≠ .invalid) {failure : StartupFailure}
    (failed : ((execution.withState _).run (awaitConnections backend pause timeoutMs polls)
      (pool, world)).1 = .error failure) : failure.code = .connectionError := by
  induction polls generalizing pool world with
  | zero =>
      rw [awaitConnections, Execution.run_pure] at failed
      cases failed
      rfl
  | succ polls inductionHypothesis =>
      have looked := poll_valid backend execution world valid
      simp only [awaitConnections, Execution.run_bind] at failed
      generalize (execution.withState _).run (Pool.poll backend) (pool, world) = look
        at looked failed
      obtain ⟨status, left, after⟩ := look
      obtain ⟨statusValid, leftValid⟩ := looked
      cases status with
      | invalid => exact absurd rfl statusValid
      | connected =>
          simp only [Execution.run_pure] at failed
          cases failed
      | connecting =>
          simp only [Execution.run_bind, Execution.run_liftM] at failed
          exact inductionHypothesis leftValid failed
      | notConnected | failedConnection =>
          simp only [Execution.run_pure] at failed
          cases failed
          rfl

theorem code_connect {pause : Nat → m Unit} {settings : PoolSettings} {world : World}
    {capacity : Nat} (unused : pool.Unused capacity) {failure : StartupFailure}
    (failed : ((execution.withState _).run (connect backend pause settings) (pool, world)).1 =
      .error failure) : failure.code = .connectionError := by
  have connected := connect_unused backend execution world unused
  simp only [connect, Execution.run_bind] at failed
  generalize (execution.withState _).run (Pool.connect backend) (pool, world) = outcome
    at connected failed
  obtain ⟨answer, left, after⟩ := outcome
  obtain ⟨faults, valid⟩ := connected
  cases answer with
  | error cause =>
      simp only [Execution.run_pure] at failed
      cases failed
      exact faults cause rfl
  | ok done => exact code_awaitConnections valid failed

/-- A pool that is connected is loaded from; one that is not is closed. -/
theorem run_openPool_eq (backend : Backend m Connection Handshake) (execution : Execution m World)
    (pause : Nat → m Unit) (configuration : Runtime)
    (state : Pool Connection Handshake × World) :
    (execution.withState _).run (openPool backend pause configuration) state =
      let connected := (execution.withState _).run (connect backend pause configuration.pool) state
      match connected.1 with
      | .error failure =>
          (.error failure, ((execution.withState _).run (Pool.close backend) connected.2).2)
      | .ok () =>
          let loaded := (execution.withState _).run
            (loadAccounts backend configuration.ledger.maxAccountId) connected.2
          (.ok loaded.1, loaded.2) := by
  simp only [openPool, Execution.run_bind]
  generalize (execution.withState _).run (connect backend pause configuration.pool) state =
    connected
  obtain ⟨answer, left⟩ := connected
  cases answer with
  | error failure => simp only [Execution.run_bind, Execution.run_pure]
  | ok done => simp only [Execution.run_map]

theorem code_openPool {pause : Nat → m Unit} {configuration : Runtime} {world : World}
    {capacity : Nat} (unused : pool.Unused capacity) {failure : StartupFailure}
    (failed : ((execution.withState _).run (openPool backend pause configuration)
      (pool, world)).1 = .error failure) : failure.code = .connectionError := by
  rw [run_openPool_eq] at failed
  dsimp only at failed
  split at failed
  case h_1 connected =>
    cases failed
    exact code_connect unused connected
  case h_2 => cases failed

/-! ## What a start leaves alone -/

section

variable {view : World → View} (leaves : backend.Leaves execution view)

include leaves

theorem leaves_awaitConnections {pause : m Unit} (pauses : execution.Leaves view pause)
    (timeoutMs polls : Nat) :
    execution.LeavesBeside view (awaitConnections backend pause timeoutMs polls) := by
  induction polls with
  | zero => exact Execution.leaves_pure _
  | succ polls inductionHypothesis =>
      apply Execution.Leaves.bind leaves.poll
      intro status
      cases status with
      | connected => exact Execution.leaves_pure _
      | connecting => exact .bind pauses.liftM fun _ => inductionHypothesis
      | notConnected | failedConnection | invalid => exact Execution.leaves_pure _

theorem leaves_connect {pause : Nat → m Unit}
    (pauses : ∀ milliseconds, execution.Leaves view (pause milliseconds))
    (settings : PoolSettings) :
    execution.LeavesBeside view (connect backend pause settings) := by
  apply Execution.Leaves.bind leaves.connectPool
  intro answer
  cases answer with
  | error failure => exact Execution.leaves_pure _
  | ok connected => exact leaves_awaitConnections leaves (pauses _) _ _

end

/-! ## Loading the accounts -/

theorem run_loadAccounts_eq (greatest : Int64) (world : World) :
    (execution.withState _).run (loadAccounts backend greatest) (pool, world) =
      (((execution.withState (Pool Connection Handshake)).withState Accounts).run
        (Bank.load (pooledStorage backend)) (.ofGreatest greatest, pool, world)).2 := by
  simp only [loadAccounts, Execution.run_bind]
  exact (execution.withState (Pool Connection Handshake)).run_pure _ _

theorem greatest_loadAccounts (greatest : Int64) (world : World) :
    ((execution.withState _).run (loadAccounts backend greatest) (pool, world)).1.greatest =
      greatest := by
  rw [run_loadAccounts_eq, Bank.run_load]
  dsimp only
  split
  · rfl
  · exact Bank.greatest_loadRows _ _

theorem greatest_openPool {pause : Nat → m Unit} {configuration : Runtime} {world : World}
    {accounts : Accounts}
    (opened : ((execution.withState _).run (openPool backend pause configuration)
      (pool, world)).1 = .ok accounts) :
    accounts.greatest = configuration.ledger.maxAccountId := by
  rw [run_openPool_eq] at opened
  dsimp only at opened
  split at opened
  case h_1 => cases opened
  case h_2 =>
    rw [← Except.ok.inj opened]
    exact greatest_loadAccounts _ _

section

variable {view : World → View} (leaves : backend.Leaves execution view)
variable (loads : execution.LeavesBeside view (pooledStorage backend .loadAccounts))

include loads in
theorem leaves_loadAccounts (greatest : Int64) :
    execution.LeavesBeside view (loadAccounts backend greatest) := by
  intro (pool, world)
  rw [run_loadAccounts_eq, Bank.run_load]
  dsimp only
  split <;> exact loads (pool, world)

include leaves loads in
theorem leaves_openPool {pause : Nat → m Unit}
    (pauses : ∀ milliseconds, execution.Leaves view (pause milliseconds))
    (configuration : Runtime) :
    execution.LeavesBeside view (openPool backend pause configuration) := by
  apply Execution.Leaves.bind (leaves_connect leaves pauses configuration.pool)
  intro answer
  cases answer with
  | error failure => exact .bind leaves.closePool fun _ => Execution.leaves_pure _
  | ok connected =>
      intro state
      rw [Execution.run_map]
      exact leaves_loadAccounts loads configuration.ledger.maxAccountId state

end

end

/-! ## Starting -/

section

variable (backend : Backend m Connection Handshake) (execution : Execution m World)
variable (pause : Nat → m Unit) (configuration : Runtime) (registry : Registry) (world : World)

/-- How a start may go: it is refused, or the program panics, before anything is done, or a pool
that was not used before is opened or not. -/
inductive Beginning : Except Unstarted (Service Connection Handshake) × World → Prop
  | refused (failure : StartupFailure) (metrics : Metrics) :
      Beginning (.error (.failed failure metrics), world)
  | panicked (panic : Panic) : Beginning (.error (.panicked panic), world)
  | unopened {pool left : Pool Connection Handshake} {failure : StartupFailure} {after : World}
      (unused : pool.Unused configuration.pool.connections.toNat)
      (opening : (execution.withState _).run (openPool backend pause configuration) (pool, world) =
        (.error failure, left, after))
      (metrics : Metrics) :
      Beginning (.error (.failed failure metrics), after)
  | begun {pool left : Pool Connection Handshake} {accounts : Accounts} {after : World}
      (unused : pool.Unused configuration.pool.connections.toNat)
      (opening : (execution.withState _).run (openPool backend pause configuration) (pool, world) =
        (.ok accounts, left, after)) :
      Beginning (.ok ⟨accounts, left⟩, after)

theorem beginning_start : Beginning backend execution pause configuration world
    (execution.run (start backend pause configuration registry) world) := by
  simp only [start]
  split
  case isTrue =>
    rw [Execution.run_pure]
    exact .refused _ _
  case isFalse =>
    cases created : Pool.create backend.connectionSize configuration.pool.connections.toNat
      configuration.credentials with
    | error failure =>
        cases failure with
        | refused failure =>
            dsimp only
            rw [Execution.run_pure]
            exact .refused _ _
        | panicked panic =>
            dsimp only
            rw [Execution.run_pure]
            exact .panicked panic
    | ok pool =>
        have unused := (Pool.Made.measured .initial (.created created)).unused
        simp only [Execution.run_bind]
        generalize opening : execution.run ((openPool backend pause configuration).run
          (pool.withMetrics .initial)) world = outcome
        have opened := congrArg (fun outcome => (outcome.1.1, outcome.1.2, outcome.2)) opening
        obtain ⟨⟨answer, left⟩, after⟩ := outcome
        cases answer with
        | error failure =>
            dsimp only
            rw [Execution.run_pure]
            exact .unopened unused opened _
        | ok accounts =>
            dsimp only
            rw [Execution.run_pure]
            exact .begun unused opened

end

namespace Beginning

variable {backend : Backend m Connection Handshake} {execution : Execution m World}
variable {pause : Nat → m Unit} {configuration : Runtime} {world after : World}

/-- A start that fails with the exit code of a configuration that cannot work has done nothing. -/
theorem exitCode_of_error {failure : StartupFailure} {metrics : Metrics}
    (beginning : Beginning backend execution pause configuration world
      (.error (.failed failure metrics), after)) :
    failure.exitCode = 1 ∨ failure.exitCode = 2 ∧ after = world := by
  cases beginning with
  | refused =>
      rcases failure.exitCode_eq_one_or_two with one | two
      · exact .inl one
      · exact .inr ⟨two, rfl⟩
  | unopened unused opening =>
      left
      apply StartupFailure.exitCode_of_connectionError
      exact code_openPool unused (congrArg Prod.fst opening)

theorem greatest_of_ok {service : Service Connection Handshake}
    (beginning : Beginning backend execution pause configuration world (.ok service, after)) :
    service.accounts.greatest = configuration.ledger.maxAccountId := by
  cases beginning with
  | begun unused opening => exact greatest_openPool (congrArg Prod.fst opening)

/-- A start that panics has done nothing. -/
theorem undone_of_panicked {panic : Panic}
    (beginning : Beginning backend execution pause configuration world
      (.error (.panicked panic), after)) : after = world := by
  cases beginning with
  | panicked => rfl

/-- A start leaves whatever opening its pool leaves. -/
theorem leaves {view : World → View}
    (opens : execution.LeavesBeside view (openPool backend pause configuration))
    {answer : Except Unstarted (Service Connection Handshake)}
    (beginning : Beginning backend execution pause configuration world (answer, after)) :
    view after = view world := by
  cases beginning with
  | refused | panicked => rfl
  | @unopened pool _ _ _ _ opening =>
      have kept := opens (pool, world)
      rwa [opening] at kept
  | @begun pool _ _ _ _ opening =>
      have kept := opens (pool, world)
      rwa [opening] at kept

end Beginning

end Startup

end BankLedger.Ledger
