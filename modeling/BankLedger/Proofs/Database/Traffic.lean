import Mathlib.Data.List.Count
import BankLedger.Proofs.Database.Transition

/-!
# Traffic at a pool

Any number of callers use one pool at the same time.  Its lock lets one of them in after the other,
and what a caller does while it holds the lock is one step.  Outside the lock, callers only wait for
the backend and close connections that the pool did not take, which are steps of their own.  Nothing
is known of the order of the steps or of the outcomes that the backend gives.

A scene is the pool together with what its callers hold.  It also notes every connection that the
backend handed over, be it opened at once or found ready by a look at a handshake, and every
connection that was closed.
-/

namespace BankLedger.Database

/-- How far a caller has got with connecting a pool. -/
inductive Attempt (Connection : Type)
  /-- The first connection is being opened. -/
  | opening
  /-- The first connection is open, and the handshakes of the others are being started. -/
  | starting (first : Connection)
  /-- The pool was destroyed meanwhile, so the first connection is to be closed. -/
  | abandoning (first : Connection)

namespace Attempt

variable {Connection : Type}

/-- The connection that a caller holds who connects the pool. -/
def held? : Attempt Connection → Option Connection
  | .opening => none
  | .starting first | .abandoning first => some first

/-- Whether the second half of connecting is still to come. -/
def isUnderway : Attempt Connection → Bool
  | .opening | .starting _ => true
  | .abandoning _ => false

end Attempt

/-- A pool, what its callers hold, and the connections handed over and closed so far, oldest
first. -/
structure Scene (Caller Connection Handshake : Type) where
  pool : Pool Connection Handshake
  /-- The callers who are connecting the pool. -/
  attempts : List (Attempt Connection)
  lent : List (Caller × Connection)
  /-- Connections given back that the pool did not take, and that their callers are to close. -/
  refused : List (Caller × Connection)
  handed : List Connection
  closed : List Connection
  /-- How many connections had been handed over when the latest attempt to connect began. -/
  earlier : Nat

/-- What the callers of a pool and its backend do, with the answers that callers get. -/
inductive Event (Caller Connection Handshake : Type)
  /-- A caller asks to connect.  Without an answer the caller begins an attempt. -/
  | connect (answer : Option (Except PoolFailure Unit))
  /-- The first connection could not be opened, which is the answer to the caller. -/
  | firstFails (failure : ConnectionFailure)
  | firstOpens (connection : Connection)
  /-- The second half of connecting, with its answer. -/
  | finish (answer : Except PoolFailure Unit)
  /-- The first connection for a pool that was destroyed is closed. -/
  | abandon
  | poll (found : List (Progress Connection Handshake)) (answer : PoolStatus)
  /-- A caller looks for an idle connection.  Who looks several times is answered by the last. -/
  | acquire (caller : Caller) (answer : Option Connection)
  | release (caller : Caller) (connection : Connection)
  /-- A connection that the pool did not take back is closed. -/
  | discard (caller : Caller) (connection : Connection)
  | destroy
  /-- The pool goes out of use. -/
  | drop

/-- Whether an event ends a pool for good. -/
def Event.Ends {Caller Connection Handshake : Type} :
    Event Caller Connection Handshake → Prop
  | .destroy | .drop => True
  | _ => False

/-- What can come of starting a number of handshakes: the first failure ends it. -/
structure Startable (count : Nat) {Handshake : Type} (started : List Handshake)
    (failure : Option ConnectionFailure) : Prop where
  atMost : started.length ≤ count
  complete_iff : failure = none ↔ started.length = count

namespace Scene

variable {Caller Connection Handshake : Type}

/-- A pool that nobody has used. -/
def initial (pool : Pool Connection Handshake) : Scene Caller Connection Handshake :=
  ⟨pool, [], [], [], [], [], 0⟩

/-- The connections held by callers who connect the pool. -/
def held (scene : Scene Caller Connection Handshake) : List Connection :=
  scene.attempts.filterMap Attempt.held?

/-- The scene after the pool was destroyed. -/
def destroyed (scene : Scene Caller Connection Handshake) : Scene Caller Connection Handshake :=
  { scene with
    pool := scene.pool.destroy.2
    closed := scene.closed ++ scene.pool.destroy.1 }

/-- The steps of the callers of a pool.  Of the lists of attempts and of connections that are out,
only the members count and not the order. -/
inductive Step : Scene Caller Connection Handshake → Event Caller Connection Handshake →
    Scene Caller Connection Handshake → Prop
  | answer {scene : Scene Caller Connection Handshake} {answer : Except PoolFailure Unit}
      (known : scene.pool.connectAnswer? = some answer) :
      Step scene (.connect (some answer)) scene
  /-- The first half of connecting, after which the lock is given up. -/
  | begin {scene : Scene Caller Connection Handshake}
      (unanswered : scene.pool.connectAnswer? = none) :
      Step scene (.connect none)
        { scene with
          pool := scene.pool.beginConnect.2
          attempts := .opening :: scene.attempts
          closed := scene.closed ++ scene.pool.beginConnect.1
          earlier := scene.handed.length }
  | failFirst {scene : Scene Caller Connection Handshake} {others : List (Attempt Connection)}
      (failure : ConnectionFailure) (opening : scene.attempts.Perm (.opening :: others)) :
      Step scene (.firstFails failure)
        { scene with pool := scene.pool.failFirst, attempts := others }
  /-- The backend hands over the first connection; the pool does not have it yet. -/
  | openFirst {scene : Scene Caller Connection Handshake} {others : List (Attempt Connection)}
      (first : Connection) (opening : scene.attempts.Perm (.opening :: others)) :
      Step scene (.firstOpens first)
        { scene with
          attempts := .starting first :: others
          handed := scene.handed ++ [first] }
  /-- The second half of connecting.  A connection that it gives up is closed outside the lock. -/
  | finish {scene : Scene Caller Connection Handshake} {others : List (Attempt Connection)}
      {first : Connection} (started : List Handshake) (failure : Option ConnectionFailure)
      {givenUp : List Connection} {answer : Except PoolFailure Unit}
      {after : Pool Connection Handshake}
      (starting : scene.attempts.Perm (.starting first :: others))
      (startable : Startable (scene.pool.capacity - 1) started failure)
      (finished : scene.pool.finishConnect first started failure = ((givenUp, answer), after)) :
      Step scene (.finish answer)
        { scene with pool := after, attempts := givenUp.map .abandoning ++ others }
  | abandon {scene : Scene Caller Connection Handshake} {others : List (Attempt Connection)}
      {first : Connection} (abandoning : scene.attempts.Perm (.abandoning first :: others)) :
      Step scene .abandon { scene with attempts := others, closed := scene.closed ++ [first] }
  /-- Polling looks at every pending handshake while it holds the lock. -/
  | poll {scene : Scene Caller Connection Handshake}
      (found : List (Progress Connection Handshake)) (polled : scene.pool.isPolled = true)
      (looked : found.length = scene.pool.pending.length) :
      Step scene (.poll found (Pool.settle found scene.pool).status)
        { scene with
          pool := Pool.settle found scene.pool
          handed := scene.handed ++ Pool.arrived found }
  | pollNothing {scene : Scene Caller Connection Handshake}
      (unpolled : scene.pool.isPolled = false) :
      Step scene (.poll [] scene.pool.status) scene
  | acquire {scene : Scene Caller Connection Handshake} (caller : Caller)
      {answer : Option Connection} {after : Pool Connection Handshake}
      (acquired : scene.pool.acquire = (answer, after)) :
      Step scene (.acquire caller answer)
        { scene with pool := after, lent := answer.toList.map (caller, ·) ++ scene.lent }
  /-- A caller gives back a connection that it was lent.  If the pool gives it up, it is closed
  outside the lock. -/
  | release {scene : Scene Caller Connection Handshake} {others : List (Caller × Connection)}
      {caller : Caller} {connection : Connection} {givenUp : List Connection}
      {after : Pool Connection Handshake}
      (lent : scene.lent.Perm ((caller, connection) :: others))
      (released : scene.pool.release connection = (givenUp, after)) :
      Step scene (.release caller connection)
        { scene with
          pool := after
          lent := others
          refused := givenUp.map (caller, ·) ++ scene.refused }
  | discard {scene : Scene Caller Connection Handshake} {others : List (Caller × Connection)}
      {caller : Caller} {connection : Connection}
      (refused : scene.refused.Perm ((caller, connection) :: others)) :
      Step scene (.discard caller connection)
        { scene with refused := others, closed := scene.closed ++ [connection] }
  | destroy {scene : Scene Caller Connection Handshake} : Step scene .destroy scene.destroyed
  | drop {scene : Scene Caller Connection Handshake} : Step scene .drop scene.destroyed

theorem status_destroyed (scene : Scene Caller Connection Handshake) :
    scene.destroyed.pool.status = .invalid := by
  have destruction := Pool.destruction_destroy scene.pool
  rw [destroyed]
  generalize scene.pool.destroy = outcome at destruction ⊢
  cases destruction with
  | repeated invalid => exact invalid
  | first => rfl

theorem Step.status_of_ends {scene next : Scene Caller Connection Handshake}
    {event : Event Caller Connection Handshake} (step : Step scene event next)
    (ends : event.Ends) : next.pool.status = .invalid := by
  cases step with
  | destroy => exact scene.status_destroyed
  | drop => exact scene.status_destroyed
  | _ => cases ends

/-- The events of a run, each with the scene in which it came about. -/
abbrev History (Caller Connection Handshake : Type) :=
  List (Scene Caller Connection Handshake × Event Caller Connection Handshake)

/-- Steps one after the other. -/
inductive Run : Scene Caller Connection Handshake → History Caller Connection Handshake →
    Scene Caller Connection Handshake → Prop
  | nil (scene : Scene Caller Connection Handshake) : Run scene [] scene
  | cons {scene next last : Scene Caller Connection Handshake}
      {event : Event Caller Connection Handshake} {history : History Caller Connection Handshake}
      (step : Step scene event next) (others : Run next history last) :
      Run scene ((scene, event) :: history) last

namespace Run

variable {first last : Scene Caller Connection Handshake}
variable {history : History Caller Connection Handshake}

theorem append {middle : Scene Caller Connection Handshake}
    {more : History Caller Connection Handshake} (run : Run first history middle)
    (others : Run middle more last) : Run first (history ++ more) last := by
  induction run with
  | nil => exact others
  | cons step _ inductionHypothesis => exact .cons step (inductionHypothesis others)

/-- A run keeps what each of its steps keeps. -/
theorem keeps (run : Run first history last)
    (property : Scene Caller Connection Handshake → Prop)
    (kept : ∀ {scene next : Scene Caller Connection Handshake}
      {event : Event Caller Connection Handshake},
      (scene, event) ∈ history → Step scene event next → property scene → property next)
    (start : property first) : property last := by
  induction run with
  | nil => exact start
  | cons step _ inductionHypothesis =>
      apply inductionHypothesis
      · intro scene next event member
        exact kept (List.mem_cons_of_mem _ member)
      · exact kept List.mem_cons_self step start

end Run

/-! ## What holds in every scene -/

/-- A caller who is to close a connection is not connecting the pool any more. -/
theorem countP_abandoning (givenUp : List Connection) (others : List (Attempt Connection)) :
    (givenUp.map Attempt.abandoning ++ others).countP Attempt.isUnderway =
      others.countP Attempt.isUnderway := by
  rw [List.countP_append, List.countP_map, Nat.add_eq_right]
  exact congrFun List.countP_false givenUp

/-- What keeps connecting in order.  At most one attempt is under way, and meanwhile the pool is
connecting or was destroyed; handshakes are pending only while they are polled; and a destroyed pool
is empty. -/
structure Orderly (capacity : Nat) (scene : Scene Caller Connection Handshake) : Prop where
  capacity_eq : scene.pool.capacity = capacity
  capacity_pos : 1 ≤ capacity
  underway_eq : scene.attempts.countP Attempt.isUnderway = scene.pool.openingFirst.toNat
  status_of_opening : scene.pool.openingFirst = true →
    scene.pool.status = .connecting ∨ scene.pool.status = .invalid
  polled_of_pending : scene.pool.pending ≠ [] →
    scene.pool.status = .connecting ∧ scene.pool.openingFirst = false
  idle_of_invalid : scene.pool.status = .invalid → scene.pool.idle = []

namespace Orderly

variable {capacity : Nat} {scene next : Scene Caller Connection Handshake}
variable {event : Event Caller Connection Handshake}

theorem initial {pool : Pool Connection Handshake} (made : pool.Made capacity) :
    Orderly capacity (initial pool : Scene Caller Connection Handshake) := by
  obtain ⟨capacity_eq, capacity_pos, status_eq, idle_eq, pending_eq, openingFirst_eq⟩ :=
    made.unused
  refine ⟨capacity_eq, capacity_pos, ?_, ?_, ?_, fun _ => idle_eq⟩
  · change 0 = pool.openingFirst.toNat
    rw [openingFirst_eq]
    rfl
  · intro opening
    exact absurd (openingFirst_eq.symm.trans opening) Bool.false_ne_true
  · intro pending
    exact absurd pending_eq pending

/-- An attempt that is under way is the only one, and the pool knows of it. -/
theorem of_underway (orderly : Orderly capacity scene) {attempt : Attempt Connection}
    {others : List (Attempt Connection)} (member : scene.attempts.Perm (attempt :: others))
    (underway : attempt.isUnderway = true) :
    others.countP Attempt.isUnderway = 0 ∧ scene.pool.openingFirst = true ∧
      scene.pool.pending = [] := by
  have count := member.countP_eq Attempt.isUnderway
  rw [orderly.underway_eq, List.countP_cons_of_pos underway] at count
  cases opening : scene.pool.openingFirst with
  | false =>
      rw [opening] at count
      cases count
  | true =>
      rw [opening] at count
      refine ⟨(Nat.succ.inj count).symm, rfl, ?_⟩
      by_contra pending
      exact absurd ((orderly.polled_of_pending pending).2.symm.trans opening)
        Bool.false_ne_true

/-- Nobody is connecting a pool that has no answer at once. -/
theorem of_unanswered (orderly : Orderly capacity scene)
    (unanswered : scene.pool.connectAnswer? = none) :
    scene.attempts.countP Attempt.isUnderway = 0 ∧ scene.pool.pending = [] := by
  have status := Pool.status_of_unanswered unanswered
  constructor
  · rw [orderly.underway_eq]
    cases opening : scene.pool.openingFirst with
    | false => rfl
    | true =>
        rcases status with status | status <;>
          rcases orderly.status_of_opening opening with other | other <;>
          exact absurd (status.symm.trans other) (by decide)
  · by_contra pending
    obtain ⟨connecting, _⟩ := orderly.polled_of_pending pending
    rcases status with status | status <;>
      exact absurd (status.symm.trans connecting) (by decide)

theorem destroyed (orderly : Orderly capacity scene) : Orderly capacity scene.destroyed := by
  obtain ⟨capacity_eq, capacity_pos, underway_eq, _, _, _⟩ := id orderly
  have destruction := Pool.destruction_destroy scene.pool
  cases outcome : scene.pool.destroy with
  | mk givenUp after =>
      rw [outcome] at destruction
      rw [Scene.destroyed, outcome]
      cases destruction with
      | repeated invalid => exact ⟨capacity_eq, capacity_pos, underway_eq, fun _ => .inr invalid,
          orderly.polled_of_pending, orderly.idle_of_invalid⟩
      | first valid => exact ⟨capacity_eq, capacity_pos, underway_eq, fun _ => .inr rfl,
          fun nonempty => absurd rfl nonempty, fun _ => rfl⟩

/-- Every step keeps order. -/
theorem step (orderly : Orderly capacity scene) (step : Step scene event next) :
    Orderly capacity next := by
  obtain ⟨capacity_eq, capacity_pos, underway_eq, status_of_opening, polled_of_pending,
    idle_of_invalid⟩ := id orderly
  cases step with
  | answer => exact orderly
  | begin unanswered =>
      obtain ⟨none, pending⟩ := orderly.of_unanswered unanswered
      refine ⟨capacity_eq, capacity_pos, ?_, fun _ => .inl rfl, ?_, fun _ => rfl⟩
      · exact (List.countP_cons_of_pos rfl).trans (congrArg Nat.succ none)
      · exact fun nonempty => absurd pending nonempty
  | failFirst failure opening =>
      obtain ⟨none, _, pending⟩ := orderly.of_underway opening rfl
      refine ⟨capacity_eq, capacity_pos, none, ?_, ?_, ?_⟩
      · exact nofun
      · exact fun nonempty => absurd pending nonempty
      · intro invalid
        apply idle_of_invalid
        by_contra valid
        simp [Pool.failFirst, valid] at invalid
  | @openFirst others first opening =>
      obtain ⟨none, flag, _⟩ := orderly.of_underway opening rfl
      refine ⟨capacity_eq, capacity_pos, ?_, status_of_opening, polled_of_pending,
        idle_of_invalid⟩
      change List.countP _ (Attempt.starting first :: others) = scene.pool.openingFirst.toNat
      rw [List.countP_cons_of_pos rfl, none, flag]
      rfl
  | @finish others first started failure givenUp answer after starting startable finished =>
      obtain ⟨none, flag, pending⟩ := orderly.of_underway starting rfl
      have finish := Pool.finish_finishConnect scene.pool first started failure
      rw [finished] at finish
      have still := (countP_abandoning givenUp others).trans none
      cases finish with
      | destroyed invalid =>
          exact ⟨capacity_eq, capacity_pos, still, nofun,
            fun nonempty => absurd pending nonempty, fun _ => idle_of_invalid invalid⟩
      | failed valid =>
          exact ⟨capacity_eq, capacity_pos, still, nofun,
            fun nonempty => absurd pending nonempty, nofun⟩
      | started valid =>
          refine ⟨capacity_eq, capacity_pos, still, nofun, ?_, ?_⟩
          · intro nonempty
            refine ⟨if_neg ?_, rfl⟩
            exact fun empty => nonempty (List.isEmpty_iff.mp empty)
          · intro invalid
            change (if started.isEmpty then PoolStatus.connected else .connecting) = .invalid
              at invalid
            split at invalid <;> cases invalid
  | abandon abandoning =>
      refine ⟨capacity_eq, capacity_pos, ?_, status_of_opening, polled_of_pending,
        idle_of_invalid⟩
      exact (abandoning.countP_eq _).symm.trans underway_eq
  | @poll found polled looked =>
      obtain ⟨connecting, flag⟩ := (Pool.isPolled_iff _).mp polled
      have settling := Pool.settling_settle found scene.pool
      generalize Pool.settle found scene.pool = settled at settling ⊢
      cases settling with
      | failed failed => exact ⟨capacity_eq, capacity_pos, underway_eq,
          fun opening => absurd (flag.symm.trans opening) Bool.false_ne_true,
          fun nonempty => absurd rfl nonempty, nofun⟩
      | connected unfailed complete => exact ⟨capacity_eq, capacity_pos, underway_eq,
          fun opening => absurd (flag.symm.trans opening) Bool.false_ne_true,
          fun nonempty => absurd rfl nonempty, nofun⟩
      | waiting unfailed incomplete => exact ⟨capacity_eq, capacity_pos, underway_eq,
          fun _ => .inl connecting, fun _ => ⟨connecting, flag⟩,
          fun invalid => by cases connecting.symm.trans invalid⟩
  | pollNothing => exact orderly
  | acquire caller acquired =>
      have acquisition := Pool.acquisition_acquire scene.pool
      rw [acquired] at acquisition
      cases acquisition with
      | taken idle =>
          refine ⟨capacity_eq, capacity_pos, underway_eq, status_of_opening, polled_of_pending, ?_⟩
          intro invalid
          rw [idle_of_invalid invalid] at idle
          cases idle
      | exhausted idle => exact ⟨capacity_eq, capacity_pos, underway_eq, status_of_opening,
          polled_of_pending, idle_of_invalid⟩
  | @release others caller connection givenUp after lent released =>
      have returned := Pool.return_release connection scene.pool
      rw [released] at returned
      cases returned with
      | destroyed invalid => exact ⟨capacity_eq, capacity_pos, underway_eq, status_of_opening,
          polled_of_pending, idle_of_invalid⟩
      | full valid full => exact ⟨capacity_eq, capacity_pos, underway_eq, status_of_opening,
          polled_of_pending, idle_of_invalid⟩
      | kept valid room => exact ⟨capacity_eq, capacity_pos, underway_eq, status_of_opening,
          polled_of_pending, fun invalid => absurd invalid valid⟩
  | discard refused => exact ⟨capacity_eq, capacity_pos, underway_eq, status_of_opening,
      polled_of_pending, idle_of_invalid⟩
  | destroy => exact orderly.destroyed
  | drop => exact orderly.destroyed

/-- Order is kept in every run. -/
theorem run {last : Scene Caller Connection Handshake}
    {history : History Caller Connection Handshake} (orderly : Orderly capacity scene)
    (run : Run scene history last) : Orderly capacity last :=
  run.keeps (Orderly capacity) (fun _ step before => before.step step) orderly

end Orderly

theorem Run.orderly {capacity : Nat} {pool : Pool Connection Handshake}
    {history : History Caller Connection Handshake} {scene : Scene Caller Connection Handshake}
    (run : Run (initial pool) history scene) (made : pool.Made capacity) :
    Orderly capacity scene :=
  (Orderly.initial made).run run

/-- A run of a pool that nobody had used keeps what each of its steps keeps in order. -/
theorem Run.keeps_of_made {capacity : Nat} {pool : Pool Connection Handshake}
    {history : History Caller Connection Handshake} {scene : Scene Caller Connection Handshake}
    (run : Run (initial pool) history scene) (made : pool.Made capacity)
    (property : Scene Caller Connection Handshake → Prop)
    (kept : ∀ {scene next : Scene Caller Connection Handshake}
      {event : Event Caller Connection Handshake}, (scene, event) ∈ history →
      Orderly capacity scene → Step scene event next → property scene → property next)
    (start : property (initial pool)) : property scene := by
  have both : Orderly capacity scene ∧ property scene := by
    apply run.keeps (fun scene => Orderly capacity scene ∧ property scene)
    · intro scene next event member step before
      exact ⟨before.1.step step, kept member before.1 step before.2⟩
    · exact ⟨.initial made, start⟩
  exact both.2

/-! ## A pool for two connections -/

/-- A pool for two connections that nobody has used. -/
def poolForTwo : Pool Nat Unit :=
  ⟨⟨"localhost", 5432, "ledger", "clerk", "", "", none⟩, 2, .notConnected, [], [], false, none⟩

theorem poolForTwo_made : poolForTwo.Made 2 :=
  .of_complete (by decide) (by decide)

/-- An attempt can fail while its first connection is lent. -/
theorem exists_run_failed : ∃ history : History Nat Nat Unit, Run (initial poolForTwo) history
    ⟨{ poolForTwo with status := .failedConnection }, [], [(7, 10)], [], [10], [], 0⟩ :=
  ⟨_, .cons (.begin rfl) <| .cons (.openFirst 10 (.refl _)) <|
    .cons (.finish [()] none (.refl _) ⟨by decide, by decide⟩ rfl) <| .cons (.acquire 7 rfl) <|
    .cons (.poll [.failed .broken] rfl rfl) <| .nil _⟩

/-- The next attempt can wait for its handshake while that connection is still lent. -/
theorem exists_run_waiting : ∃ history : History Nat Nat Unit, Run (initial poolForTwo) history
    ⟨{ poolForTwo with status := .connecting, idle := [11], pending := [()] }, [], [(7, 10)], [],
      [10, 11], [], 1⟩ := by
  obtain ⟨history, run⟩ := exists_run_failed
  exact ⟨_, run.append <| .cons (.begin rfl) <| .cons (.openFirst 11 (.refl _)) <|
    .cons (.finish [()] none (.refl _) ⟨by decide, by decide⟩ rfl) <| .nil _⟩

end Scene

end BankLedger.Database
