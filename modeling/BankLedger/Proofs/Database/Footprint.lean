import BankLedger.Database.Pool.Operations
import BankLedger.Proofs.Execution

/-!
# The footprint of a pool

Opening, watching and closing connections is not meant to touch what a database holds; only queries
do.  If a backend leaves some view of the world in this way, then so do connecting, polling and
closing a pool, and a query on the pool either finds no connection or shows in the view exactly what
the backend did when it ran the query.
-/

namespace BankLedger.Database

open BankLedger.Sql

variable {m : Type → Type} [Monad m] {World View Connection Handshake : Type}

/-- A backend that leaves a view of the world unless it runs a query. -/
structure Backend.Leaves (backend : Backend m Connection Handshake) (execution : Execution m World)
    (view : World → View) : Prop where
  connect : ∀ credentials, execution.Leaves view (backend.connect credentials)
  startHandshake : ∀ credentials, execution.Leaves view (backend.startHandshake credentials)
  pollHandshake : ∀ handshake, execution.Leaves view (backend.pollHandshake handshake)
  close : ∀ connection, execution.Leaves view (backend.close connection)

namespace Backend.Leaves

variable {backend : Backend m Connection Handshake} {execution : Execution m World}
variable {view : World → View} (leaves : backend.Leaves execution view)

include leaves

theorem startHandshakes (credentials : Credentials) (count : Nat) :
    execution.Leaves view (backend.startHandshakes credentials count) := by
  induction count with
  | zero => exact Execution.leaves_pure _
  | succ count inductionHypothesis =>
      apply Execution.Leaves.bind (leaves.startHandshake credentials)
      intro answer
      cases answer with
      | error failure => exact Execution.leaves_pure _
      | ok handshake =>
          apply Execution.Leaves.bind inductionHypothesis
          intro started
          exact Execution.leaves_pure _

theorem closeAll (connections : List Connection) :
    execution.Leaves view (backend.closeAll connections) := by
  induction connections with
  | nil => exact Execution.leaves_pure _
  | cons connection others inductionHypothesis =>
      exact .bind (leaves.close connection) fun _ => inductionHypothesis

theorem pollHandshakes (handshakes : List Handshake) :
    execution.Leaves view (handshakes.mapM backend.pollHandshake) := by
  intro world
  induction handshakes generalizing world with
  | nil => rw [Execution.run_mapM_nil]
  | cons handshake others inductionHypothesis =>
      rw [Execution.run_mapM_cons]
      exact (inductionHypothesis _).trans (leaves.pollHandshake handshake world)

/-! ## Operations of the pool -/

theorem changing
    (change : Pool Connection Handshake → List Connection × Pool Connection Handshake) :
    execution.LeavesBeside view (Pool.changing backend change) := by
  apply Execution.Leaves.bind (Execution.leaves_modifyGet change)
  intro givenUp
  exact (leaves.closeAll givenUp).liftM

theorem connectPool : execution.LeavesBeside view (Pool.connect backend) := by
  apply Execution.Leaves.bind Execution.leaves_get
  intro pool
  cases pool.connectAnswer? with
  | some answer => exact Execution.leaves_pure _
  | none =>
      apply Execution.Leaves.bind (leaves.changing Pool.beginConnect)
      intro _
      have openFirst : execution.LeavesBeside view (do
          let pool ← get
          liftM (backend.connect pool.credentials) :
            PoolAction m Connection Handshake (Except ConnectionFailure Connection)) :=
        .bind Execution.leaves_get fun pool => (leaves.connect pool.credentials).liftM
      apply Execution.Leaves.bind openFirst
      intro opened
      cases opened with
      | error failure => exact .bind (Execution.leaves_modify _) fun _ => Execution.leaves_pure _
      | ok first =>
          apply Execution.Leaves.bind (leaves.startHandshakes _ _).liftM
          intro (started, failure)
          apply Execution.Leaves.bind (Execution.leaves_modifyGet _)
          intro (givenUp, answer)
          exact .bind (leaves.closeAll givenUp).liftM fun _ => Execution.leaves_pure _

theorem poll : execution.LeavesBeside view (Pool.poll backend) := by
  have status : execution.LeavesBeside view
      (do return (← get).status : PoolAction m Connection Handshake PoolStatus) :=
    .bind Execution.leaves_get fun _ => Execution.leaves_pure _
  apply Execution.Leaves.bind Execution.leaves_get
  intro pool
  cases polled : pool.isPolled with
  | false => exact status
  | true =>
      apply Execution.Leaves.bind (leaves.pollHandshakes pool.pending).liftM
      intro found
      exact .bind (Execution.leaves_modify _) fun _ => status

theorem giveBack (connection : Connection) :
    execution.LeavesBeside view (Pool.giveBack backend connection) :=
  leaves.changing (Pool.release connection)

theorem closePool : execution.LeavesBeside view (Pool.close backend) :=
  leaves.changing Pool.destroy

/-- A query whose parameters can be sent finds no connection and changes nothing, or it runs on some
connection, and the view is the one that running it leaves. -/
theorem execute_exhausted_or_executed (query : String) {parameters : List Value}
    {texts : List WireText} (sent : wireTexts parameters = .ok texts)
    (pool : Pool Connection Handshake) (world : World) :
    let outcome := (execution.withState (Pool Connection Handshake)).run
      (Pool.execute backend query parameters) (pool, world)
    (outcome.1 = Pool.exhausted outcome.2.1 ∧ outcome.2.2 = world) ∨
      ∃ connection,
        outcome.1 = (execution.run (backend.execute connection query texts) world).1.2 ∧
        view outcome.2.2 =
          view (execution.run (backend.execute connection query texts) world).2 := by
  intro outcome
  cases idle : pool.idle with
  | nil =>
      left
      simp only [outcome, Pool.execute, Pool.take, Pool.acquire, idle, Execution.run_bind,
        Execution.run_modifyGet, Execution.run_get, Execution.run_pure, and_self]
  | cons connection others =>
      right
      let executed := execution.run (backend.execute connection query texts) world
      let finish : PoolAction m Connection Handshake ResultSet := do
        Pool.giveBack backend executed.1.1
        modify (Pool.mapMetrics (Metrics.countQuery executed.1.2.code.isError))
        return executed.1.2
      have finished : execution.LeavesBeside view finish :=
        .bind (leaves.giveBack _) fun _ => .bind (Execution.leaves_modify _) fun _ =>
          Execution.leaves_pure _
      have ran : outcome = (execution.withState (Pool Connection Handshake)).run finish
          ({ pool with idle := others }.record, executed.2) := by
        simp only [outcome, Pool.execute, Pool.take, Pool.acquire, idle, sent, Execution.run_bind,
          Execution.run_modifyGet, Execution.run_liftM, finish, executed]
      refine ⟨connection, ?_, ?_⟩
      · simp only [ran, finish, Execution.run_bind, Execution.run_pure, executed]
      · rw [ran]
        exact finished _

end Backend.Leaves

end BankLedger.Database
