import BankLedger.Database.Pool.Operations
import BankLedger.Database.Rehearsal
import BankLedger.Proofs.Execution
import BankLedger.Proofs.Database.Traffic
import BankLedger.Proofs.Sql.Sending

/-!
# Accounting for queries

A query on a pool takes a connection and gives it back on every way out, and each way out leaves its
own trace in the counters.  This module sums up those ways and follows runs of queries, acquisitions
and releases over any backend.  The queries that reach the backend are noted beside the world, so
that the counters can be compared with what was noted.
-/

namespace BankLedger.Database

open BankLedger.Sql

variable {m : Type → Type} [Monad m] {World Caller Connection Handshake : Type}

/-! ## Dispatched queries -/

/-- A query that reached a backend, with its result. -/
structure Dispatch where
  query : String
  texts : List WireText
  result : ResultSet

/-- The same backend, with a note of the queries that reach it, oldest first. -/
def Backend.noting (backend : Backend m Connection Handshake) :
    Backend (StateT (List Dispatch) m) Connection Handshake where
  vendor := backend.vendor
  connectionSize := backend.connectionSize
  connect credentials := liftM (backend.connect credentials)
  startHandshake credentials := liftM (backend.startHandshake credentials)
  pollHandshake handshake := liftM (backend.pollHandshake handshake)
  execute connection query texts := do
    let (connection, result) ← liftM (backend.execute connection query texts)
    modify (· ++ [⟨query, texts, result⟩])
    return (connection, result)
  close connection := liftM (backend.close connection)

variable (backend : Backend m Connection Handshake) (execution : Execution m World)

namespace Backend

variable (noted : List Dispatch) (world : World)

theorem run_execute_noting (connection : Connection) (query : String) (texts : List WireText) :
    (execution.withState _).run (backend.noting.execute connection query texts) (noted, world) =
      let executed := execution.run (backend.execute connection query texts) world
      (executed.1, noted ++ [⟨query, texts, executed.1.2⟩], executed.2) := by
  simp only [noting, Execution.run_bind, Execution.run_liftM, Execution.run_modify,
    Execution.run_pure]

theorem run_closeAll_noting (connections : List Connection) :
    (execution.withState _).run (backend.noting.closeAll connections) (noted, world) =
      ((), noted, (execution.run (backend.closeAll connections) world).2) := by
  induction connections generalizing world with
  | nil => simp only [closeAll, Execution.run_pure]
  | cons connection others inductionHypothesis =>
      simp only [closeAll, Execution.run_bind, noting, Execution.run_liftM] at *
      exact inductionHypothesis _

end Backend

/-! ## Queries -/

namespace Pool

/-- Noting queries changes neither the answer to a query nor what the query leaves. -/
theorem run_execute_noting (query : String) (parameters : List Value)
    (pool : Pool Connection Handshake) (noted : List Dispatch) (world : World) :
    let outcome := ((execution.withState _).withState _).run
      (execute backend.noting query parameters) (pool, noted, world)
    (execution.withState _).run (execute backend query parameters) (pool, world) =
      (outcome.1, outcome.2.1, outcome.2.2.2) := by
  intro outcome
  simp only [outcome, execute, take, acquire, Execution.run_bind, Execution.run_modifyGet]
  cases pool.idle with
  | nil => simp only [Execution.run_bind, Execution.run_get, Execution.run_pure]
  | cons connection others =>
      cases wireTexts parameters with
      | error failure =>
          simp only [giveBack, changing, Execution.run_bind, Execution.run_modifyGet,
            Execution.run_liftM, Execution.run_pure, Backend.run_closeAll_noting]
          rfl
      | ok texts =>
          simp only [giveBack, changing, Execution.run_bind, Execution.run_modifyGet,
            Execution.run_liftM, Execution.run_modify, Execution.run_pure,
            Backend.run_execute_noting, Backend.run_closeAll_noting]

theorem run_giveBack_noting (connection : Connection) (pool : Pool Connection Handshake)
    (noted : List Dispatch) (world : World) :
    ((execution.withState _).withState _).run (giveBack backend.noting connection)
        (pool, noted, world) =
      let outcome := (execution.withState _).run (giveBack backend connection) (pool, world)
      (outcome.1, outcome.2.1, noted, outcome.2.2) := by
  simp only [giveBack, changing, Execution.run_bind, Execution.run_modifyGet, Execution.run_liftM,
    Backend.run_closeAll_noting]

/-- A pool that takes back what it lends: it is in use as long as anything is idle, and no more is
idle than there is room for. -/
structure TakesBack (pool : Pool Connection Handshake) : Prop where
  available_le : pool.available ≤ pool.capacity
  idle_of_invalid : pool.status = .invalid → pool.idle = []

theorem TakesBack.mapMetrics {pool : Pool Connection Handshake} (takesBack : pool.TakesBack)
    (change : Metrics → Metrics) : (pool.mapMetrics change).TakesBack :=
  ⟨takesBack.available_le, takesBack.idle_of_invalid⟩

section

variable {pool : Pool Connection Handshake} (takesBack : pool.TakesBack)
variable {connection : Connection} {others : List Connection}
variable (idle : pool.idle = connection :: others)

include takesBack idle

theorem TakesBack.valid : pool.status ≠ .invalid :=
  fun invalid => List.cons_ne_nil connection others
    (idle.symm.trans (takesBack.idle_of_invalid invalid))

theorem TakesBack.room : others.length < pool.capacity := by
  have within := takesBack.available_le
  rwa [available, idle] at within

/-- A connection taken from the pool can be given back, be it in another state. -/
theorem TakesBack.release_eq (left : Connection) :
    release left { pool with idle := others }.record =
      ([], { pool with idle := left :: others }.record) := by
  have returned := return_release left { pool with idle := others }.record
  generalize release left { pool with idle := others }.record = outcome at returned ⊢
  cases returned with
  | destroyed invalid => exact absurd invalid (takesBack.valid idle)
  | full valid full => exact absurd (takesBack.room idle) (Nat.not_lt_of_le full)
  | kept valid _ =>
      obtain ⟨credentials, capacity, status, idle, pending, openingFirst, metrics⟩ := pool
      cases metrics <;> rfl

end

/-- How a query on a pool goes that takes back what it lends. -/
inductive QueryCourse (query : String) (parameters : List Value)
    (pool : Pool Connection Handshake) (world : World) :
    ResultSet × Pool Connection Handshake × World → Prop
  | exhausted (idle : pool.idle = []) :
      QueryCourse query parameters pool world
        (pool.exhausted, pool.mapMetrics Metrics.countAcquireFailure, world)
  | rejected {connection : Connection} {others : List Connection} {failure : ParameterError}
      (idle : pool.idle = connection :: others) (unsent : wireTexts parameters = .error failure) :
      QueryCourse query parameters pool world
        (unsendable backend.vendor failure, pool.record, world)
  | dispatched {connection left : Connection} {others : List Connection} {texts : List WireText}
      {result : ResultSet} {after : World} (idle : pool.idle = connection :: others)
      (sent : wireTexts parameters = .ok texts)
      (executed : execution.run (backend.execute connection query texts) world =
        ((left, result), after)) :
      QueryCourse query parameters pool world
        (result, { pool with idle := left :: others }.record.mapMetrics
          (Metrics.countQuery result.code.isError), after)

theorem queryCourse_execute (query : String) (parameters : List Value)
    {pool : Pool Connection Handshake} (takesBack : pool.TakesBack) (world : World) :
    QueryCourse backend execution query parameters pool world
      ((execution.withState _).run (execute backend query parameters) (pool, world)) := by
  have givesBack {connection : Connection} {others : List Connection}
      (idle : pool.idle = connection :: others) (left : Connection) (world : World) :
      (execution.withState _).run (giveBack backend left)
        ({ pool with idle := others }.record, world) =
          ((), { pool with idle := left :: others }.record, world) := by
    simp only [giveBack, changing, Execution.run_bind, Execution.run_modifyGet,
      takesBack.release_eq idle, Backend.closeAll, Execution.run_liftM, Execution.run_pure]
  have acquisition := acquisition_acquire pool
  rw [execute, Execution.run_bind, take, Execution.run_modifyGet]
  generalize pool.acquire = acquired at acquisition ⊢
  cases acquisition with
  | exhausted idle =>
      simp only [Execution.run_bind, Execution.run_get, Execution.run_pure]
      exact .exhausted idle
  | @taken connection others idle =>
      cases sent : wireTexts parameters with
      | error failure =>
          have same : { pool with idle := connection :: others } = pool := by rw [← idle]
          simp only [Execution.run_bind, givesBack idle, Execution.run_pure, same]
          exact .rejected idle sent
      | ok texts =>
          simp only [Execution.run_bind, Execution.run_liftM, givesBack idle, Execution.run_modify,
            Execution.run_pure]
          exact .dispatched idle sent rfl

/-- How a query is accounted for, from the pool, the note and the world that it finds: what it
answers, what is idle afterwards, and what is noted then. -/
structure QueryAccounted (query : String) (parameters : List Value)
    (pool : Pool Connection Handshake) (noted : List Dispatch) (world : World)
    (answer : ResultSet) (idle : List Connection) (log : List Dispatch) : Prop where
  /-- With a connection idle and every parameter sendable, one query is dispatched: its own text
  with the texts of the parameters in order. -/
  dispatched : ∀ {connection : Connection} {others : List Connection},
    pool.idle = connection :: others → (∀ value ∈ parameters, value.Sendable) →
    ∃ texts, List.Forall₂ Spelled parameters texts ∧
      let executed := (execution.run (backend.execute connection query texts) world).1
      answer = executed.2 ∧ idle = executed.1 :: others ∧
        log = noted ++ [⟨query, texts, executed.2⟩]
  undispatched : pool.idle = [] ∨ (∃ value ∈ parameters, ¬value.Sendable) →
    idle = pool.idle ∧ log = noted
  exhausted : pool.idle = [] → answer.code = .fatal
  /-- The answer names the position of the first parameter that cannot be sent. -/
  rejected : pool.idle ≠ [] → ∀ {before after : List Value} {value : Value},
    parameters = before ++ value :: after → (∀ other ∈ before, other.Sendable) →
    ¬value.Sendable → ∃ reason, answer = .status .invalidType
      (vendorMessage "Query has an unsupported parameter" backend.vendor
        (s!"parameter ${before.length + 1} " ++ reason))
  /-- The idle connections stay the same and in their order, by whatever of a connection its queries
  leave alone. -/
  same : ∀ {Identity : Type} (identity : Connection → Identity),
    (∀ connection query texts world,
      identity (execution.run (backend.execute connection query texts) world).1.1 =
        identity connection) →
    idle.map identity = pool.idle.map identity

theorem queryAccounted_execute (query : String) (parameters : List Value)
    {pool : Pool Connection Handshake} (takesBack : pool.TakesBack) (noted : List Dispatch)
    (world : World) :
    let outcome := ((execution.withState _).withState _).run
      (execute backend.noting query parameters) (pool, noted, world)
    QueryAccounted backend execution query parameters pool noted world outcome.1 outcome.2.1.idle
      outcome.2.2.1 := by
  intro outcome
  have course := queryCourse_execute backend.noting (execution.withState _) query parameters
    takesBack (noted, world)
  change QueryCourse _ _ _ _ _ _ outcome at course
  generalize outcome = outcome at course ⊢
  cases course with
  | exhausted idle =>
      constructor
      case dispatched => exact fun some => by cases idle.symm.trans some
      case undispatched => exact fun _ => ⟨rfl, rfl⟩
      case exhausted => exact fun _ => rfl
      case rejected => exact fun some => absurd idle some
      case same => exact fun _ _ => rfl
  | @rejected connection others failure idle unsent =>
      constructor
      case dispatched =>
        intro _ _ _ sendable
        obtain ⟨texts, sent, _⟩ := exists_wireTexts sendable
        cases unsent.symm.trans sent
      case undispatched => exact fun _ => ⟨rfl, rfl⟩
      case exhausted => exact fun none => by cases idle.symm.trans none
      case rejected =>
        rintro _ before after value rfl sendable bad
        obtain ⟨first, failed, position⟩ := exists_wireTexts_error after sendable bad
        cases unsent.symm.trans failed
        obtain ⟨reason, message⟩ := failure.exists_message_eq
        refine ⟨reason, ?_⟩
        rw [unsendable, message, position]
        rfl
      case same => exact fun _ _ => rfl
  | @dispatched connection left others texts result after idle sent executed =>
      rw [Backend.run_execute_noting] at executed
      constructor
      case dispatched =>
        intro _ _ some sendable
        cases idle.symm.trans some
        obtain ⟨spelled, known, each⟩ := exists_wireTexts sendable
        cases sent.symm.trans known
        refine ⟨texts, each, ?_⟩
        generalize execution.run (backend.execute connection query texts) world = ran at executed ⊢
        obtain ⟨⟨still, answer⟩, later⟩ := ran
        cases executed
        exact ⟨rfl, rfl, rfl⟩
      case undispatched =>
        rintro (none | unsendable)
        · cases idle.symm.trans none
        · obtain ⟨value, member, bad⟩ := unsendable
          exact absurd (sendable_of_wireTexts sent value member) bad
      case exhausted => exact fun none => by cases idle.symm.trans none
      case rejected =>
        rintro _ before after value rfl _ unsendable
        exact absurd (sendable_of_wireTexts sent value (by simp)) unsendable
      case same =>
        intro Identity identity steady
        have kept := steady connection query texts world
        generalize execution.run (backend.execute connection query texts) world = ran at *
        obtain ⟨⟨still, answer⟩, later⟩ := ran
        cases executed
        change identity left :: others.map identity = _
        rw [kept, idle, List.map_cons]

end Pool

/-! ## Runs of calls -/

/-- A call of a client of a pool. -/
inductive PoolCall (Connection : Type)
  | execute (query : String) (parameters : List Value)
  | acquire
  | release (connection : Connection)

namespace PoolCall

/-- Whether a call looks for an idle connection and finds none. -/
def misses (pool : Pool Connection Handshake) : PoolCall Connection → Bool
  | .execute _ _ | .acquire => pool.idle.isEmpty
  | .release _ => false

/-- The pool and the world that a call leaves. -/
def leave : PoolCall Connection → Pool Connection Handshake × World →
    Pool Connection Handshake × World
  | .execute query parameters, state =>
      ((execution.withState _).run (Pool.execute backend query parameters) state).2
  | .acquire, state =>
      ((execution.withState _).run (Pool.take : PoolAction m _ _ _) state).2
  | .release connection, state =>
      ((execution.withState _).run (Pool.giveBack backend connection) state).2

/-- The pool and the world that some calls leave, the first of the list first. -/
def leaveAll : List (PoolCall Connection) → Pool Connection Handshake × World →
    Pool Connection Handshake × World
  | [], state => state
  | call :: calls, state => leaveAll calls (call.leave backend execution state)

/-- Some calls, each with the pool and the world that it finds. -/
def moments : List (PoolCall Connection) → Pool Connection Handshake × World →
    List (PoolCall Connection × Pool Connection Handshake × World)
  | [], _ => []
  | call :: calls, state => (call, state) :: moments calls (call.leave backend execution state)

variable (call : PoolCall Connection) {pool : Pool Connection Handshake}

/-- What a pool with its metrics has counted since some metrics were taken: the dispatched queries,
those of them that failed, and a number of misses. -/
structure Counted (before : Metrics) (dispatched : List Dispatch) (misses : Nat)
    (pool : Pool Connection Handshake) : Prop where
  takesBack : pool.TakesBack
  counted : ∃ metrics, pool.metrics = some metrics ∧
    metrics.queries = before.queries + dispatched.length ∧
    metrics.queryFailures =
      before.queryFailures + dispatched.countP (·.result.code.isError) ∧
    metrics.acquireFailures = before.acquireFailures + misses

namespace Counted

variable {before : Metrics} {dispatched : List Dispatch} {misses : Nat}

/-- Setting the gauges counts nothing. -/
theorem record (counted : Counted before dispatched misses pool) {idle : List Connection}
    (within : idle.length ≤ pool.capacity) (valid : pool.status = .invalid → idle = []) :
    Counted before dispatched misses { pool with idle := idle }.record := by
  obtain ⟨_, metrics, attached, queries, failures, missed⟩ := counted
  exact ⟨⟨within, valid⟩, _, congrArg (Option.map _) attached, queries, failures, missed⟩

theorem countAcquireFailure (counted : Counted before dispatched misses pool) :
    Counted before dispatched (misses + 1) (pool.mapMetrics Metrics.countAcquireFailure) := by
  obtain ⟨takesBack, metrics, attached, queries, failures, missed⟩ := counted
  exact ⟨takesBack.mapMetrics _, _, congrArg (Option.map _) attached, queries, failures,
    congrArg (· + 1) missed⟩

theorem countQuery (counted : Counted before dispatched misses pool) (dispatch : Dispatch) :
    Counted before (dispatched ++ [dispatch]) misses
      (pool.mapMetrics (Metrics.countQuery dispatch.result.code.isError)) := by
  obtain ⟨takesBack, metrics, attached, queries, failures, missed⟩ := counted
  refine ⟨takesBack.mapMetrics _, _, congrArg (Option.map _) attached, ?_, ?_, missed⟩
  · simp only [Metrics.countQuery, queries, List.length_append, List.length_singleton]
    rfl
  · simp only [Metrics.countQuery, failures, List.countP_append, List.countP_singleton]
    cases dispatch.result.code.isError <;> rfl

/-- A call counts what it does. -/
theorem leave (counted : Counted before dispatched misses pool) (world : World) :
    let after := call.leave backend.noting (execution.withState _) (pool, dispatched, world)
    Counted before after.2.1 (misses + (call.misses pool).toNat) after.1 := by
  have takesBack := counted.takesBack
  cases call with
  | execute query parameters =>
      have course := Pool.queryCourse_execute backend.noting (execution.withState _) query
        parameters counted.takesBack (dispatched, world)
      simp only [PoolCall.leave]
      generalize ((execution.withState _).withState _).run
        (Pool.execute backend.noting query parameters) (pool, dispatched, world) = outcome
        at course ⊢
      cases course with
      | exhausted idle =>
          simp only [PoolCall.misses, idle]
          exact counted.countAcquireFailure
      | rejected idle unsent =>
          simp only [PoolCall.misses, idle]
          exact counted.record takesBack.available_le takesBack.idle_of_invalid
      | @dispatched connection left others texts result after idle sent executed =>
          rw [Backend.run_execute_noting] at executed
          generalize execution.run (backend.execute connection query texts) world = ran at executed
          obtain ⟨⟨still, answer⟩, later⟩ := ran
          cases executed
          simp only [PoolCall.misses, idle]
          have room : (left :: others).length ≤ pool.capacity := takesBack.room idle
          exact (counted.record room (absurd · (takesBack.valid idle))).countQuery
            ⟨query, texts, result⟩
  | acquire =>
      have acquisition := Pool.acquisition_acquire pool
      simp only [PoolCall.leave, Pool.take, Execution.run_modifyGet]
      generalize pool.acquire = acquired at acquisition ⊢
      cases acquisition with
      | exhausted idle =>
          simp only [PoolCall.misses, idle]
          exact counted.countAcquireFailure
      | @taken connection others idle =>
          simp only [PoolCall.misses, idle]
          exact counted.record (Nat.le_of_lt (takesBack.room idle))
            (absurd · (takesBack.valid idle))
  | release connection =>
      have returned := Pool.return_release connection pool
      simp only [PoolCall.leave, Pool.giveBack, Pool.changing, Execution.run_bind,
        Execution.run_modifyGet, Execution.run_liftM, Backend.run_closeAll_noting]
      generalize pool.release connection = outcome at returned ⊢
      cases returned with
      | destroyed invalid => exact counted
      | full valid full => exact counted
      | kept valid room => exact counted.record room fun invalid => absurd invalid valid

end Counted

/-! ## Whole runs -/

theorem counted_leaveAll {before : Metrics} {dispatched : List Dispatch} {misses : Nat}
    (counted : Counted before dispatched misses pool) (calls : List (PoolCall Connection))
    (world : World) :
    let noting := execution.withState (List Dispatch)
    let moments := moments backend.noting noting calls (pool, dispatched, world)
    let last := leaveAll backend.noting noting calls (pool, dispatched, world)
    (∀ moment ∈ moments, moment.2.1.TakesBack) ∧
      Counted before last.2.1 (misses + moments.countP fun moment => moment.1.misses moment.2.1)
        last.1 := by
  induction calls generalizing pool dispatched misses world with
  | nil => exact ⟨List.forall_mem_nil _, counted⟩
  | cons call calls inductionHypothesis =>
      have next := counted.leave backend execution call world
      obtain ⟨others, last⟩ := inductionHypothesis next
        (call.leave backend.noting (execution.withState _) (pool, dispatched, world)).2.2
      refine ⟨List.forall_mem_cons.mpr ⟨counted.takesBack, others⟩, ?_⟩
      have count : (moments backend.noting (execution.withState _) (call :: calls)
          (pool, dispatched, world)).countP (fun moment => moment.1.misses moment.2.1) =
          (call.misses pool).toNat + (moments backend.noting (execution.withState _) calls
            (call.leave backend.noting (execution.withState _) (pool, dispatched, world))).countP
              fun moment => moment.1.misses moment.2.1 := by
        rw [moments, List.countP_cons, Nat.add_comm]
        cases call.misses pool <;> rfl
      simp only [count, ← Nat.add_assoc]
      exact last

/-- Noting queries does not change what calls leave. -/
theorem leaveAll_noting (calls : List (PoolCall Connection)) (pool : Pool Connection Handshake)
    (noted : List Dispatch) (world : World) :
    let last := leaveAll backend.noting (execution.withState _) calls (pool, noted, world)
    leaveAll backend execution calls (pool, world) = (last.1, last.2.2) := by
  induction calls generalizing pool noted world with
  | nil => rfl
  | cons call calls inductionHypothesis =>
      have next : call.leave backend execution (pool, world) =
          let after := call.leave backend.noting (execution.withState _) (pool, noted, world)
          (after.1, after.2.2) := by
        cases call with
        | execute query parameters =>
            exact congrArg Prod.snd
              (Pool.run_execute_noting backend execution query parameters pool noted world)
        | acquire =>
            simp only [leave, Pool.take, Execution.run_modifyGet]
        | release connection =>
            simp only [leave, Pool.run_giveBack_noting]
      intro last
      rw [leaveAll, next]
      exact inductionHypothesis ..

end PoolCall

namespace Pool

/-- Every call is accounted for.  Take any pool that came to a scene with metrics and no more idle
than its capacity, and any calls on it, over any backend.  Every query among them is accounted for
as it should be, and the counters agree with what was noted: so many queries were dispatched, so
many of these failed, and so many calls found nothing idle. -/
theorem execute_accounts_for_every_call {capacity : Nat} {start : Pool Connection Handshake}
    {history : Scene.History Caller Connection Handshake}
    {scene : Scene Caller Connection Handshake} {before : Metrics} (made : start.Made capacity)
    (run : Scene.Run (.initial start) history scene)
    (attached : scene.pool.metrics = some before) (within : scene.pool.available ≤ capacity)
    (calls : List (PoolCall Connection)) (world : World) :
    let noting := execution.withState (List Dispatch)
    let moments := PoolCall.moments backend.noting noting calls (scene.pool, [], world)
    let last := PoolCall.leaveAll backend execution calls (scene.pool, world)
    (∀ {query parameters pool noted world},
      (.execute query parameters, pool, noted, world) ∈ moments →
      let outcome := (execution.withState _).run (execute backend query parameters) (pool, world)
      ∃ log, PoolCall.leave backend.noting noting (.execute query parameters) (pool, noted, world) =
          (outcome.2.1, log, outcome.2.2) ∧
        QueryAccounted backend execution query parameters pool noted world outcome.1
          outcome.2.1.idle log) ∧
    ∃ dispatched after,
      PoolCall.leaveAll backend.noting noting calls (scene.pool, [], world) =
        (last.1, dispatched, last.2) ∧
      last.1.metrics = some after ∧
      after.queries = before.queries + dispatched.length ∧
      after.queryFailures =
        before.queryFailures + dispatched.countP (·.result.code.isError) ∧
      after.acquireFailures =
        before.acquireFailures + moments.countP fun moment => moment.1.misses moment.2.1 := by
  intro noting moments last
  have orderly := run.orderly made
  have takesBack : scene.pool.TakesBack :=
    ⟨orderly.capacity_eq.symm ▸ within, orderly.idle_of_invalid⟩
  have counted : PoolCall.Counted before [] 0 scene.pool :=
    ⟨takesBack, before, attached, rfl, rfl, rfl⟩
  obtain ⟨always, final⟩ := PoolCall.counted_leaveAll backend execution counted calls world
  have forgotten := PoolCall.leaveAll_noting backend execution calls scene.pool [] world
  constructor
  · intro query parameters pool noted world member outcome
    have forgotten := run_execute_noting backend execution query parameters pool noted world
    have accounted := queryAccounted_execute backend execution query parameters (always _ member)
      noted world
    simp only [outcome, forgotten]
    exact ⟨_, rfl, accounted⟩
  · obtain ⟨_, after, metrics, queries, failures, missed⟩ := final
    simp only [last, forgotten]
    rw [Nat.zero_add] at missed
    exact ⟨_, after, rfl, metrics, queries, failures, missed⟩

/-- A pool for one rehearsed connection. -/
def single : Pool Nat RehearsedHandshake :=
  ⟨⟨"localhost", 5432, "ledger", "clerk", "", "", none⟩, 1, .notConnected, [], [], false, none⟩

/-- Of a query that is dispatched, one that cannot be sent and one that finds nothing idle, the
counters tell. -/
theorem execute_accounts_for_every_call_of_three_kinds :
    let calls := [.execute "select $1" [.null], .execute "select $1" [.blob []], .acquire,
      .execute "select $1" [.null]]
    ∃ (history : Scene.History Nat Nat RehearsedHandshake)
      (scene : Scene Nat Nat RehearsedHandshake) (after : Metrics),
      (single.withMetrics .initial).Made 1 ∧
        Scene.Run (.initial (single.withMetrics .initial)) history scene ∧
        scene.pool.metrics = some ⟨0, 0, 0, 1, 1⟩ ∧ scene.pool.available ≤ 1 ∧
        (PoolCall.leaveAll Rehearsal.backend .direct calls (scene.pool, .initial)).1.metrics =
          some after ∧
        after.queries = 1 ∧ after.queryFailures = 0 ∧ after.acquireFailures = 1 := by
  intro calls
  have made : (single.withMetrics .initial).Made 1 :=
    .measured .initial (.of_complete (Nat.le_refl 1) rfl)
  obtain ⟨history, scene, run, pool⟩ :
      ∃ (history : Scene.History Nat Nat RehearsedHandshake) (scene : Scene Nat Nat _),
        Scene.Run (.initial (single.withMetrics .initial)) history scene ∧
          scene.pool =
            { single with status := .connected, idle := [10], metrics := some ⟨0, 0, 0, 1, 1⟩ } :=
    ⟨_, _, .cons (.begin rfl) <| .cons (.openFirst 10 (.refl _)) <|
      .cons (.finish [] none (.refl _) ⟨Nat.le_refl 0, iff_of_true rfl rfl⟩ rfl) <| .nil _, rfl⟩
  have attached : scene.pool.metrics = some ⟨0, 0, 0, 1, 1⟩ := congrArg Pool.metrics pool
  have within : scene.pool.available ≤ 1 := Nat.le_of_eq (congrArg Pool.available pool)
  obtain ⟨_, dispatched, after, noted, metrics, queries, failures, missed⟩ :=
    execute_accounts_for_every_call Rehearsal.backend .direct made run attached within calls
      .initial
  refine ⟨history, scene, after, made, run, attached, within, metrics, ?_⟩
  rw [pool] at noted missed
  obtain rfl : [_] = dispatched := congrArg (fun state => state.2.1) noted
  exact ⟨queries, failures, missed⟩

end Pool

end BankLedger.Database
