import BankLedger.Database.Pool.Operations
import BankLedger.Proofs.Execution
import BankLedger.Proofs.Database.Traffic

/-!
# Operations enact the traffic

The steps of the traffic at a pool are made of the changes of a pool.  Here the operations that
callers run are taken, over any backend and with any effects, and each turns out to be steps of that
traffic with the same answer.  The backend is watched for that: what it hands over and closes is
noted beside the pool.  Connecting leaves a gap in which other callers act, and whatever steps they
take in it are steps of the whole.
-/

namespace BankLedger.Database

variable {m : Type → Type} [Monad m] {World Caller Connection Handshake : Type}

/-- The connections that a backend handed over and closed, oldest first. -/
structure Custody (Connection : Type) where
  handed : List Connection
  closed : List Connection

namespace Custody

variable (custody : Custody Connection) (connections : List Connection)

/-- The note of connections that were handed over. -/
def hand : Custody Connection :=
  { custody with handed := custody.handed ++ connections }

/-- The note of connections that were closed. -/
def close : Custody Connection :=
  { custody with closed := custody.closed ++ connections }

@[simp] theorem hand_nil : custody.hand [] = custody := by
  rw [hand, List.append_nil]

@[simp] theorem hand_hand (others : List Connection) :
    (custody.hand connections).hand others = custody.hand (connections ++ others) := by
  rw [hand, hand, hand, List.append_assoc]

@[simp] theorem close_nil : custody.close [] = custody := by
  rw [close, List.append_nil]

@[simp] theorem close_close (others : List Connection) :
    (custody.close connections).close others = custody.close (connections ++ others) := by
  rw [close, close, close, List.append_assoc]

end Custody

namespace Backend

/-- The same backend, with a note of the connections that it hands over and closes. -/
def watched (backend : Backend m Connection Handshake) :
    Backend (StateT (Custody Connection) m) Connection Handshake where
  vendor := backend.vendor
  connectionSize := backend.connectionSize
  connect credentials := do
    let opened ← liftM (backend.connect credentials)
    modify fun custody => custody.hand opened.toOption.toList
    return opened
  startHandshake credentials := liftM (backend.startHandshake credentials)
  pollHandshake handshake := do
    let progress ← liftM (backend.pollHandshake handshake)
    modify fun custody => custody.hand (Pool.arrived [progress])
    return progress
  execute connection query parameters := liftM (backend.execute connection query parameters)
  close connection := do
    liftM (backend.close connection)
    modify fun custody => custody.close [connection]

/-! ## What is noted of a backend -/

variable (backend : Backend m Connection Handshake) (execution : Execution m World)

variable (custody : Custody Connection) (world : World)

theorem run_connect (credentials : Credentials) :
    (execution.withState _).run (backend.watched.connect credentials) (custody, world) =
      let opened := execution.run (backend.connect credentials) world
      (opened.1, custody.hand opened.1.toOption.toList, opened.2) := by
  simp only [watched, Execution.run_bind, Execution.run_liftM, Execution.run_modify,
    Execution.run_pure]

theorem run_startHandshake (credentials : Credentials) :
    (execution.withState _).run (backend.watched.startHandshake credentials) (custody, world) =
      let started := execution.run (backend.startHandshake credentials) world
      (started.1, custody, started.2) :=
  execution.run_liftM ..

theorem run_pollHandshake (handshake : Handshake) :
    (execution.withState _).run (backend.watched.pollHandshake handshake) (custody, world) =
      let progress := execution.run (backend.pollHandshake handshake) world
      (progress.1, custody.hand (Pool.arrived [progress.1]), progress.2) := by
  simp only [watched, Execution.run_bind, Execution.run_liftM, Execution.run_modify,
    Execution.run_pure]

theorem run_close (connection : Connection) :
    (execution.withState _).run (backend.watched.close connection) (custody, world) =
      ((), custody.close [connection], (execution.run (backend.close connection) world).2) := by
  simp only [watched, Execution.run_bind, Execution.run_liftM, Execution.run_modify]

theorem custody_closeAll (connections : List Connection) :
    ((execution.withState _).run (backend.watched.closeAll connections) (custody, world)).2.1 =
      custody.close connections := by
  induction connections generalizing custody world with
  | nil => rw [closeAll, Execution.run_pure, Custody.close_nil]
  | cons connection others inductionHypothesis =>
      rw [closeAll, Execution.run_bind, run_close, inductionHypothesis, Custody.close_close]
      rfl

theorem startable_startHandshakes (credentials : Credentials) (count : Nat) :
    let outcome := (execution.withState _).run
      (backend.watched.startHandshakes credentials count) (custody, world)
    outcome.2.1 = custody ∧ Startable count outcome.1.1 outcome.1.2 := by
  induction count generalizing world with
  | zero =>
      rw [startHandshakes, Execution.run_pure]
      exact ⟨rfl, Nat.le_refl 0, by simp⟩
  | succ count inductionHypothesis =>
      rw [startHandshakes, Execution.run_bind, run_startHandshake]
      cases (execution.run (backend.startHandshake credentials) world).1 with
      | error failure =>
          simp only [Execution.run_pure]
          exact ⟨trivial, Nat.zero_le _, by simp⟩
      | ok handshake =>
          simp only [Execution.run_bind, Execution.run_pure]
          obtain ⟨still, atMost, complete⟩ := inductionHypothesis
            (execution.run (backend.startHandshake credentials) world).2
          exact ⟨still, Nat.succ_le_succ atMost, by simpa using complete⟩

theorem custody_pollHandshakes (handshakes : List Handshake) :
    let outcome := (execution.withState _).run
      (handshakes.mapM backend.watched.pollHandshake) (custody, world)
    outcome.1.length = handshakes.length ∧
      outcome.2.1 = custody.hand (Pool.arrived outcome.1) := by
  induction handshakes generalizing custody world with
  | nil =>
      rw [Execution.run_mapM_nil]
      exact ⟨rfl, custody.hand_nil.symm⟩
  | cons handshake others inductionHypothesis =>
      rw [Execution.run_mapM_cons, run_pollHandshake]
      obtain ⟨length, noted⟩ := inductionHypothesis
        (custody.hand (Pool.arrived [(execution.run (backend.pollHandshake handshake) world).1]))
        (execution.run (backend.pollHandshake handshake) world).2
      refine ⟨congrArg Nat.succ length, ?_⟩
      rw [Pool.arrived_cons, ← Custody.hand_hand]
      exact noted

end Backend

/-- Whether an event answers a caller who connects the pool. -/
def Event.Answers (answer : Except PoolFailure Unit) :
    Event Caller Connection Handshake → Prop
  | .connect known => known = some answer
  | .firstFails failure => .error (.connection failure) = answer
  | .finish told => told = answer
  | _ => False

namespace Scene

variable (backend : Backend m Connection Handshake) (execution : Execution m World)

/-- The connections that were handed over and closed so far. -/
def custody (scene : Scene Caller Connection Handshake) : Custody Connection :=
  ⟨scene.handed, scene.closed⟩

/-- The scene after an operation that left a pool and a note of connections. -/
def leave (scene : Scene Caller Connection Handshake)
    (state : Pool Connection Handshake × Custody Connection × World) :
    Scene Caller Connection Handshake :=
  { scene with pool := state.1, handed := state.2.1.handed, closed := state.2.1.closed }

/-- What an operation on a pool with a watched backend answers and leaves. -/
def perform {α : Type} (execution : Execution m World)
    (operation : PoolAction (StateT (Custody Connection) m) Connection Handshake α)
    (scene : Scene Caller Connection Handshake) (world : World) :
    α × Pool Connection Handshake × Custody Connection × World :=
  ((execution.withState _).withState _).run operation (scene.pool, scene.custody, world)

variable (scene : Scene Caller Connection Handshake) (world : World)

theorem take_enacts (caller : Caller) :
    let outcome := scene.perform execution Pool.take world
    Step scene (.acquire caller outcome.1)
      { scene.leave outcome.2 with lent := outcome.1.toList.map (caller, ·) ++ scene.lent } := by
  intro outcome
  have taken : outcome = (scene.pool.acquire.1, scene.pool.acquire.2, scene.custody, world) :=
    Execution.run_modifyGet ..
  rw [taken]
  exact .acquire caller rfl

/-- Polling is one step that gives the answer. -/
theorem poll_enacts :
    let outcome := scene.perform execution (Pool.poll backend.watched) world
    ∃ found, Step scene (.poll found outcome.1) (scene.leave outcome.2) := by
  intro outcome
  cases polled : scene.pool.isPolled with
  | false =>
      have left : outcome = (scene.pool.status, scene.pool, scene.custody, world) := by
        simp only [outcome, perform, Pool.poll, Execution.run_bind, Execution.run_get, polled,
          Bool.false_eq_true, if_false, Execution.run_pure]
      rw [left]
      exact ⟨[], .pollNothing polled⟩
  | true =>
      obtain ⟨looked, noted⟩ :=
        backend.custody_pollHandshakes execution scene.custody world scene.pool.pending
      generalize found : (execution.withState _).run
        (scene.pool.pending.mapM backend.watched.pollHandshake) (scene.custody, world) = looks
        at looked noted
      have settled : outcome = ((Pool.settle looks.1 scene.pool).status,
          Pool.settle looks.1 scene.pool, looks.2) := by
        simp only [outcome, perform, Pool.poll, Execution.run_bind, Execution.run_get, polled,
          if_true, Execution.run_liftM, found, Execution.run_modify, Execution.run_pure]
      rw [settled]
      refine ⟨looks.1, ?_⟩
      simp only [leave, noted]
      exact .poll _ polled looked

/-- Changing the pool closes what the change gives up. -/
theorem perform_changing
    (change : Pool Connection Handshake → List Connection × Pool Connection Handshake) :
    ∃ after, scene.perform execution (Pool.changing backend.watched change) world =
      ((), (change scene.pool).2, scene.custody.close (change scene.pool).1, after) := by
  have closed := backend.custody_closeAll execution scene.custody world (change scene.pool).1
  generalize closing : (execution.withState _).run
    (backend.watched.closeAll (change scene.pool).1) (scene.custody, world) = outcome at closed
  refine ⟨outcome.2.2, ?_⟩
  simp only [perform, Pool.changing, Execution.run_bind, Execution.run_modifyGet,
    Execution.run_liftM, closing, ← closed]

theorem close_enacts :
    let outcome := scene.perform execution (Pool.close backend.watched) world
    Step scene .destroy (scene.leave outcome.2) := by
  intro outcome
  obtain ⟨after, closed⟩ := scene.perform_changing backend execution world Pool.destroy
  have left : scene.leave outcome.2 = scene.destroyed := congrArg (scene.leave ·.2) closed
  rw [left]
  exact .destroy

/-- Giving a connection back is one step, or two if the pool does not take it. -/
theorem giveBack_enacts {others : List (Caller × Connection)} {caller : Caller}
    {connection : Connection} (lent : scene.lent.Perm ((caller, connection) :: others)) :
    let outcome := scene.perform execution (Pool.giveBack backend.watched connection) world
    ∃ history, Run scene history { scene.leave outcome.2 with lent := others } := by
  intro outcome
  obtain ⟨after, closed⟩ := scene.perform_changing backend execution world
    (Pool.release connection)
  have released : Step scene (.release caller connection) { scene with
      pool := (scene.pool.release connection).2
      lent := others
      refused := (scene.pool.release connection).1.map (caller, ·) ++ scene.refused } :=
    .release lent rfl
  have left : scene.leave outcome.2 = { scene with
      pool := (scene.pool.release connection).2
      closed := scene.closed ++ (scene.pool.release connection).1 } :=
    congrArg (scene.leave ·.2) closed
  have returned := Pool.return_release connection scene.pool
  rw [left]
  generalize scene.pool.release connection = back at released returned
  cases returned with
  | destroyed invalid => exact ⟨_, .cons released <| .cons (.discard (.refl _)) <| .nil _⟩
  | full valid full => exact ⟨_, .cons released <| .cons (.discard (.refl _)) <| .nil _⟩
  | kept valid room =>
      rw [List.append_nil]
      exact ⟨_, .cons released <| .nil _⟩

/-! ## Connecting -/

/-- Whether a scene has the pool and the note of connections that an operation left. -/
def Shows (scene : Scene Caller Connection Handshake)
    (state : Pool Connection Handshake × Custody Connection × World) : Prop :=
  state.1 = scene.pool ∧ state.2.1 = scene.custody

/-- Opening the first connection, during which other callers may act on the pool: their steps, and
then the first connection is handed over unless that failed. -/
def OpensFirst (Caller : Type) (execution : Execution m World)
    (openFirst : PoolAction (StateT (Custody Connection) m) Connection Handshake
      (Except ConnectionFailure Connection)) : Prop :=
  ∀ (scene : Scene Caller Connection Handshake) (others : List (Attempt Connection))
    (world : World), scene.attempts.Perm (.opening :: others) →
    let outcome := scene.perform execution openFirst world
    ∃ history next others, Run scene history next ∧ next.Shows outcome.2 ∧
      match outcome.1 with
      | .error _ => next.attempts.Perm (.opening :: others)
      | .ok first => next.attempts.Perm (.starting first :: others)

theorem opensFirst_connect : OpensFirst Caller execution (do
    let pool ← get
    liftM (backend.watched.connect pool.credentials) :
      PoolAction (StateT (Custody Connection) m) Connection Handshake
        (Except ConnectionFailure Connection)) := by
  intro scene others world opening outcome
  have opened : outcome = ((execution.run (backend.connect scene.pool.credentials) world).1,
      scene.pool, scene.custody.hand
        (execution.run (backend.connect scene.pool.credentials) world).1.toOption.toList,
      (execution.run (backend.connect scene.pool.credentials) world).2) := by
    simp only [outcome, perform, Execution.run_bind, Execution.run_get, Execution.run_liftM,
      Backend.run_connect]
  rw [opened]
  cases (execution.run (backend.connect scene.pool.credentials) world).1 with
  | error failure =>
      exact ⟨[], scene, others, .nil _, ⟨rfl, scene.custody.hand_nil⟩, opening⟩
  | ok first =>
      exact ⟨_, _, others, .cons (.openFirst first opening) <| .nil _, ⟨rfl, rfl⟩, .refl _⟩

/-- What another caller may do in that gap: steps that leave alone who is connecting. -/
def Intervenes {α : Type} (Caller : Type) (execution : Execution m World)
    (operation : PoolAction (StateT (Custody Connection) m) Connection Handshake α) : Prop :=
  ∀ (scene : Scene Caller Connection Handshake) (world : World),
    ∃ history next, Run scene history next ∧
      next.Shows (scene.perform execution operation world).2 ∧ next.attempts = scene.attempts

theorem intervenes_take (caller : Caller) :
    Intervenes Caller execution (Pool.take : PoolAction _ Connection Handshake _) :=
  fun scene world =>
    ⟨_, _, .cons (scene.take_enacts execution world caller) <| .nil _, ⟨rfl, rfl⟩, rfl⟩

theorem intervenes_poll : Intervenes Caller execution (Pool.poll backend.watched) := by
  intro scene world
  obtain ⟨found, polled⟩ := scene.poll_enacts backend execution world
  exact ⟨_, _, .cons polled <| .nil _, ⟨rfl, rfl⟩, rfl⟩

theorem intervenes_close : Intervenes Caller execution (Pool.close backend.watched) :=
  fun scene world =>
    ⟨_, _, .cons (scene.close_enacts backend execution world) <| .nil _, ⟨rfl, rfl⟩, rfl⟩

/-- The first connection may be opened after other callers have acted. -/
theorem OpensFirst.after {α : Type}
    {operation : PoolAction (StateT (Custody Connection) m) Connection Handshake α}
    {openFirst : PoolAction (StateT (Custody Connection) m) Connection Handshake
      (Except ConnectionFailure Connection)} (intervenes : Intervenes Caller execution operation)
    (opens : OpensFirst Caller execution openFirst) :
    OpensFirst Caller execution (operation >>= fun _ => openFirst) := by
  intro scene others world opening outcome
  obtain ⟨before, middle, run, shows, attempts_eq⟩ := intervenes scene world
  generalize performed : scene.perform execution operation world = first at shows
  obtain ⟨answer, pool, custody, later⟩ := first
  obtain ⟨rfl, rfl⟩ := shows
  obtain ⟨history, next, rest, others, shows, opened⟩ :=
    opens middle others later (attempts_eq ▸ opening)
  have left : outcome = middle.perform execution openFirst later := by
    rw [perform] at performed
    simp only [outcome, perform, Execution.run_bind, performed]
  rw [left]
  exact ⟨_, next, rest, run.append others, shows, opened⟩

/-- The second half of connecting, once the first connection is open. -/
def finishing (backend : Backend m Connection Handshake) (credentials : Credentials) (count : Nat)
    (first : Connection) : PoolAction m Connection Handshake (Except PoolFailure Unit) := do
  let (started, failure) ← liftM (backend.startHandshakes credentials count)
  let (givenUp, answer) ← modifyGet (Pool.finishConnect first started failure)
  liftM (backend.closeAll givenUp)
  return answer

theorem finishing_enacts {first : Connection} {others : List (Attempt Connection)}
    (starting : scene.attempts.Perm (.starting first :: others)) (credentials : Credentials)
    {count : Nat} (enough : scene.pool.capacity - 1 = count) :
    let outcome := scene.perform execution (finishing backend.watched credentials count first) world
    ∃ history next, Run scene history next ∧ next.Shows outcome.2 ∧
      ∃ entry ∈ history, entry.2.Answers outcome.1 := by
  intro outcome
  obtain ⟨still, startable⟩ :=
    backend.startable_startHandshakes execution scene.custody world credentials count
  generalize starts : (execution.withState _).run
    (backend.watched.startHandshakes credentials count) (scene.custody, world) = started
    at still startable
  obtain ⟨⟨started, failure⟩, custody, after⟩ := started
  have finish := Pool.finish_finishConnect scene.pool first started failure
  generalize finished : scene.pool.finishConnect first started failure = result at finish
  obtain ⟨⟨givenUp, answer⟩, pool⟩ := result
  have closed := backend.custody_closeAll execution scene.custody after givenUp
  generalize closing : (execution.withState _).run
    (backend.watched.closeAll givenUp) (scene.custody, after) = last at closed
  have left : outcome = (answer, pool, last.2) := by
    simp only at still
    simp only [outcome, perform, finishing, Execution.run_bind, Execution.run_liftM, starts, still,
      Execution.run_modifyGet, finished, closing, Execution.run_pure]
  have step := Step.finish started failure starting (enough ▸ startable) finished
  rw [left]
  cases finish with
  | destroyed invalid =>
      exact ⟨_, _, .cons step <| .cons (.abandon (.refl _)) <| .nil _, ⟨rfl, closed⟩, _,
        List.mem_cons_self, rfl⟩
  | failed valid =>
      rw [Custody.close_nil] at closed
      exact ⟨_, _, .cons step <| .nil _, ⟨rfl, closed⟩, _, List.mem_cons_self, rfl⟩
  | started valid =>
      rw [Custody.close_nil] at closed
      exact ⟨_, _, .cons step <| .nil _, ⟨rfl, closed⟩, _, List.mem_cons_self, rfl⟩

/-- Connecting is steps of the traffic together with those of the callers who act in the gap, and one
of its events gives the answer. -/
theorem connectWith_enacts {capacity : Nat} (orderly : Orderly capacity scene)
    {openFirst : PoolAction (StateT (Custody Connection) m) Connection Handshake
      (Except ConnectionFailure Connection)} (opens : OpensFirst Caller execution openFirst) :
    let outcome := scene.perform execution (Pool.connectWith backend.watched openFirst) world
    ∃ history next, Run scene history next ∧ next.Shows outcome.2 ∧
      ∃ entry ∈ history, entry.2.Answers outcome.1 := by
  intro outcome
  cases known : scene.pool.connectAnswer? with
  | some answer =>
      have left : outcome = (answer, scene.pool, scene.custody, world) := by
        simp only [outcome, perform, Pool.connectWith, Execution.run_bind, Execution.run_get, known,
          Execution.run_pure]
      rw [left]
      exact ⟨_, scene, .cons (.answer known) <| .nil _, ⟨rfl, rfl⟩, _, List.mem_cons_self, rfl⟩
  | none =>
      obtain ⟨after, beginning⟩ := scene.perform_changing backend execution world
        Pool.beginConnect
      obtain ⟨begun, began, pool_eq, custody_eq, attempts_eq⟩ : ∃ begun,
          Step scene (.connect none) begun ∧ begun.pool = scene.pool.beginConnect.2 ∧
            begun.custody = scene.custody.close scene.pool.beginConnect.1 ∧
            begun.attempts = .opening :: scene.attempts := ⟨_, .begin known, rfl, rfl, rfl⟩
      obtain ⟨history, next, others, run, shows, opened⟩ :=
        opens begun scene.attempts after (attempts_eq ▸ .refl _)
      have whole : Run scene ((scene, .connect none) :: history) next := .cons began run
      have capacity_eq : next.pool.capacity = scene.pool.capacity := by
        rw [(orderly.run whole).capacity_eq, orderly.capacity_eq]
      generalize opening : begun.perform execution openFirst after = result at shows opened
      obtain ⟨result, pool, custody, later⟩ := result
      obtain ⟨rfl, rfl⟩ := shows
      rw [perform, pool_eq, custody_eq] at opening
      cases result with
      | error failure =>
          have left : outcome =
              (.error (.connection failure), next.pool.failFirst, next.custody, later) := by
            rw [perform] at beginning
            simp only [outcome, perform, Pool.connectWith, Execution.run_bind, Execution.run_get,
              known, beginning, opening, Execution.run_modify, Execution.run_pure]
          rw [left]
          exact ⟨_, _, whole.append <| .cons (.failFirst failure opened) <| .nil _, ⟨rfl, rfl⟩, _,
            List.mem_append_right _ List.mem_cons_self, rfl⟩
      | ok first =>
          have finished := next.finishing_enacts backend execution later opened
            scene.pool.credentials (congrArg (· - 1) capacity_eq)
          have left : outcome = next.perform execution (finishing backend.watched
              scene.pool.credentials (scene.pool.capacity - 1) first) later := by
            rw [perform] at beginning
            simp only [outcome, perform, Pool.connectWith, Execution.run_bind, Execution.run_get,
              known, beginning, opening, finishing]
          obtain ⟨more, last, others, shows, entry, member, answers⟩ := left ▸ finished
          exact ⟨_, last, whole.append others, shows, entry, List.mem_append_right _ member,
            answers⟩

theorem connect_enacts {capacity : Nat} (orderly : Orderly capacity scene) :
    let outcome := scene.perform execution (Pool.connect backend.watched) world
    ∃ history next, Run scene history next ∧ next.Shows outcome.2 ∧
      ∃ entry ∈ history, entry.2.Answers outcome.1 :=
  scene.connectWith_enacts backend execution world orderly (opensFirst_connect backend execution)

end Scene

end BankLedger.Database
