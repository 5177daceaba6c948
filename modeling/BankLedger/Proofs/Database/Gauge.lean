import BankLedger.Database.Pool.Operations
import BankLedger.Database.Rehearsal
import BankLedger.Proofs.Database.Traffic

/-!
# The gauge of available connections

The gauge is set by hand wherever the idle connections of a pool change, except where an attempt to
connect begins: there the idle connections of an earlier attempt are given up, and the gauge keeps
what it showed.  It is set again when the first connection is open.  When the first connection
cannot be opened it is not, and then it shows connections that are closed, until something else sets
it.  This module says exactly when the gauge is right.
-/

namespace BankLedger.Database

@[simp] theorem Metrics.available_countAcquireFailure (metrics : Metrics) :
    metrics.countAcquireFailure.available = metrics.available := rfl

namespace Pool

variable {Connection Handshake : Type}

/-- Whether the pool has metrics whose gauge does not show the available connections.  A gauge goes
no further than its limit. -/
def Stale (pool : Pool Connection Handshake) : Prop :=
  ∃ shown, pool.metrics = some shown ∧ shown.available ≠ min pool.available Metrics.gaugeLimit

theorem not_stale_record (pool : Pool Connection Handshake) : ¬pool.record.Stale := by
  rintro ⟨shown, attached, different⟩
  obtain ⟨metrics, _, rfl⟩ := Option.map_eq_some_iff.mp attached
  exact different rfl

/-- Counting something leaves the gauge as it is. -/
theorem stale_mapMetrics_iff (pool : Pool Connection Handshake) {change : Metrics → Metrics}
    (same : ∀ metrics, (change metrics).available = metrics.available) :
    (pool.mapMetrics change).Stale ↔ pool.Stale := by
  constructor
  · rintro ⟨shown, attached, different⟩
    obtain ⟨metrics, before, rfl⟩ := Option.map_eq_some_iff.mp attached
    rw [same] at different
    exact ⟨metrics, before, different⟩
  · rintro ⟨shown, attached, different⟩
    refine ⟨change shown, congrArg (Option.map change) attached, ?_⟩
    rw [same]
    exact different

/-- Giving up idle connections makes a right gauge wrong. -/
theorem stale_beginConnect_iff {pool : Pool Connection Handshake} (attached : pool.metrics.isSome)
    (empty : pool.Stale → pool.idle = []) :
    pool.beginConnect.2.Stale ↔ pool.idle ≠ [] ∨ pool.Stale := by
  obtain ⟨metrics, attached⟩ := Option.isSome_iff_exists.mp attached
  have before : pool.Stale ↔ metrics.available ≠ min pool.available Metrics.gaugeLimit := by
    simp only [Stale, attached, Option.some.injEq, exists_eq_left']
  have after : pool.beginConnect.2.Stale ↔ metrics.available ≠ 0 := by
    simp only [Stale, beginConnect, attached, Option.some.injEq, exists_eq_left', available,
      List.length_nil, Nat.zero_min]
  have limit : 0 < Metrics.gaugeLimit := by decide
  rw [after, before]
  by_cases idle : pool.idle = []
  case pos =>
    rw [available, idle, List.length_nil, Nat.zero_min]
    simp only [ne_eq, not_true_eq_false, false_or]
  case neg =>
    have current : metrics.available = min pool.available Metrics.gaugeLimit := by
      by_contra different
      exact idle (empty (before.mpr different))
    have some : 0 < pool.available := List.length_pos_iff.mpr idle
    simp only [idle, ne_eq, not_false_eq_true, true_or, iff_true]
    omega

end Pool

namespace Scene

variable {Caller Connection Handshake : Type}
variable {scene next first last : Scene Caller Connection Handshake}
variable {event : Event Caller Connection Handshake}
variable {history : History Caller Connection Handshake}

/-! ## Steps -/

/-- Whether an event in a scene begins an attempt that gives up idle connections. -/
def GivesUp (scene : Scene Caller Connection Handshake) :
    Event Caller Connection Handshake → Prop
  | .connect none => scene.pool.idle ≠ []
  | _ => False

/-- Whether an event in a scene sets the gauge. -/
def Refreshes (scene : Scene Caller Connection Handshake) :
    Event Caller Connection Handshake → Prop
  | .finish _ | .destroy | .drop => scene.pool.status ≠ .invalid
  | .poll .. => scene.pool.isPolled = true
  | .acquire _ answer => answer ≠ none
  | .release .. => scene.pool.status ≠ .invalid ∧ scene.pool.available < scene.pool.capacity
  | .connect _ | .firstFails _ | .firstOpens _ | .abandon | .discard .. => False

/-- A pool whose gauge is wrong has nothing idle, and its first connection is being opened or could
not be opened at one of some events. -/
structure Neglected (history : History Caller Connection Handshake)
    (scene : Scene Caller Connection Handshake) : Prop where
  idle_eq : scene.pool.idle = []
  unopened : (scene.pool.openingFirst = true ∧ scene.pool.status = .connecting) ∨
    (scene.pool.status = .failedConnection ∧
      ∃ entry ∈ history, ∃ failure, entry.2 = .firstFails failure)

/-- The metrics of a pool are attached, and a gauge that is wrong has been neglected. -/
structure Gauged (history : History Caller Connection Handshake)
    (scene : Scene Caller Connection Handshake) : Prop where
  attached : scene.pool.metrics.isSome
  neglected : scene.pool.Stale → scene.Neglected history

theorem Neglected.valid (neglected : scene.Neglected history) :
    scene.pool.status ≠ .invalid := by
  intro invalid
  rcases neglected.unopened with ⟨_, status⟩ | ⟨status, _⟩ <;> cases status.symm.trans invalid

/-- A gauge that was just set is right. -/
theorem Gauged.of_record {pool : Pool Connection Handshake} (same : scene.pool = pool.record)
    (attached : pool.metrics.isSome) : scene.Gauged history := by
  constructor
  · rw [same]
    exact Option.isSome_map.trans attached
  · intro stale
    rw [same] at stale
    exact absurd stale pool.not_stale_record

theorem Gauged.destroyed (gauged : scene.Gauged history) : scene.destroyed.Gauged history := by
  have destruction := Pool.destruction_destroy scene.pool
  generalize left : scene.pool.destroy = outcome at destruction
  cases destruction with
  | repeated invalid =>
      have same : scene.destroyed.pool = scene.pool := congrArg Prod.snd left
      constructor
      · rw [same]
        exact gauged.attached
      · intro stale
        rw [same] at stale
        exact absurd invalid (gauged.neglected stale).valid
  | first valid => exact .of_record (congrArg Prod.snd left) gauged.attached

theorem stale_destroyed_iff (scene : Scene Caller Connection Handshake) :
    scene.destroyed.pool.Stale ↔ scene.pool.Stale ∧ ¬scene.pool.status ≠ .invalid := by
  have destruction := Pool.destruction_destroy scene.pool
  rw [Scene.destroyed]
  generalize scene.pool.destroy = outcome at destruction ⊢
  cases destruction with
  | repeated invalid => simp only [invalid, ne_eq, not_true_eq_false, not_false_eq_true, and_true]
  | first valid =>
      simp only [Pool.not_stale_record, valid, ne_eq, not_false_eq_true, not_true_eq_false,
        and_false]

/-- A gauge is wrong after a step if the step gave up idle connections, or if it was wrong before
and the step did not set it. -/
theorem Step.stale_iff (step : Step scene event next) (gauged : scene.Gauged history) :
    next.pool.Stale ↔ scene.GivesUp event ∨ (scene.pool.Stale ∧ ¬scene.Refreshes event) := by
  have unchanged (kept : next.pool.Stale ↔ scene.pool.Stale) (unset : ¬scene.Refreshes event)
      (keeps : ¬scene.GivesUp event) :
      next.pool.Stale ↔ scene.GivesUp event ∨ (scene.pool.Stale ∧ ¬scene.Refreshes event) := by
    simp only [kept, unset, keeps, not_false_eq_true, and_true, false_or]
  have set {pool : Pool Connection Handshake} (same : next.pool = pool.record)
      (sets : scene.Refreshes event) (keeps : ¬scene.GivesUp event) :
      next.pool.Stale ↔ scene.GivesUp event ∨ (scene.pool.Stale ∧ ¬scene.Refreshes event) := by
    simp only [same, pool.not_stale_record, sets, keeps, not_true_eq_false, and_false, or_false]
  cases step with
  | answer => exact unchanged .rfl id id
  | begin =>
      have given := Pool.stale_beginConnect_iff gauged.attached
        fun stale => (gauged.neglected stale).idle_eq
      simpa only [GivesUp, Refreshes, not_false_eq_true, and_true] using given
  | failFirst => exact unchanged .rfl id id
  | openFirst => exact unchanged .rfl id id
  | @finish others first started failure givenUp answer after starting startable finished =>
      have finish := Pool.finish_finishConnect scene.pool first started failure
      rw [finished] at finish
      cases finish with
      | destroyed invalid => exact unchanged .rfl (fun valid => valid invalid) id
      | failed valid => exact set rfl valid id
      | started valid => exact set rfl valid id
  | abandon => exact unchanged .rfl id id
  | @poll found polled looked =>
      have settling := Pool.settling_settle found scene.pool
      generalize Pool.settle found scene.pool = settled at settling set ⊢
      cases settling <;> exact set rfl polled id
  | pollNothing unpolled =>
      exact unchanged .rfl (fun polled => Bool.false_ne_true (unpolled.symm.trans polled)) id
  | acquire caller acquired =>
      have acquisition := Pool.acquisition_acquire scene.pool
      rw [acquired] at acquisition
      cases acquisition with
      | taken idle => exact set rfl (Option.some_ne_none _) id
      | exhausted idle =>
          exact unchanged (scene.pool.stale_mapMetrics_iff Metrics.available_countAcquireFailure)
            (fun some => some rfl) id
  | @release others caller connection givenUp after lent released =>
      have returned := Pool.return_release connection scene.pool
      rw [released] at returned
      cases returned with
      | destroyed invalid => exact unchanged .rfl (fun kept => kept.1 invalid) id
      | full valid full => exact unchanged .rfl (fun kept => Nat.not_lt_of_le full kept.2) id
      | kept valid room => exact set rfl ⟨valid, room⟩ id
  | discard => exact unchanged .rfl id id
  | destroy =>
      rw [stale_destroyed_iff]
      simp only [GivesUp, Refreshes, false_or]
  | drop =>
      rw [stale_destroyed_iff]
      simp only [GivesUp, Refreshes, false_or]

theorem Gauged.step (gauged : scene.Gauged history) (step : Step scene event next)
    (member : (scene, event) ∈ history) : next.Gauged history := by
  have unchanged {next : Scene Caller Connection Handshake} (same : next.pool = scene.pool) :
      next.Gauged history := by
    refine ⟨same ▸ gauged.attached, fun stale => ?_⟩
    obtain ⟨idle_eq, unopened⟩ := gauged.neglected (same ▸ stale)
    exact ⟨same ▸ idle_eq, same ▸ unopened⟩
  cases step with
  | answer => exact gauged
  | begin => exact ⟨gauged.attached, fun _ => ⟨rfl, .inl ⟨rfl, rfl⟩⟩⟩
  | failFirst failure opening =>
      refine ⟨gauged.attached, fun stale => ?_⟩
      have neglected := gauged.neglected stale
      exact ⟨neglected.idle_eq, .inr ⟨if_neg neglected.valid, _, member, failure, rfl⟩⟩
  | openFirst => exact unchanged rfl
  | @finish others first started failure givenUp answer after starting startable finished =>
      have finish := Pool.finish_finishConnect scene.pool first started failure
      rw [finished] at finish
      cases finish with
      | destroyed invalid =>
          refine ⟨gauged.attached, fun stale => ?_⟩
          exact absurd invalid (gauged.neglected stale).valid
      | failed valid => exact .of_record rfl gauged.attached
      | started valid => exact .of_record rfl gauged.attached
  | abandon => exact unchanged rfl
  | @poll found polled looked =>
      have settling := Pool.settling_settle found scene.pool
      generalize Pool.settle found scene.pool = settled at settling ⊢
      cases settling <;> exact .of_record rfl gauged.attached
  | pollNothing => exact gauged
  | acquire caller acquired =>
      have acquisition := Pool.acquisition_acquire scene.pool
      rw [acquired] at acquisition
      cases acquisition with
      | taken idle => exact .of_record rfl gauged.attached
      | exhausted idle =>
          refine ⟨Option.isSome_map.trans gauged.attached, fun stale => ?_⟩
          have before : scene.pool.Stale :=
            (scene.pool.stale_mapMetrics_iff Metrics.available_countAcquireFailure).mp stale
          obtain ⟨idle_eq, unopened⟩ := gauged.neglected before
          exact ⟨idle_eq, unopened⟩
  | @release others caller connection givenUp after lent released =>
      have returned := Pool.return_release connection scene.pool
      rw [released] at returned
      cases returned with
      | destroyed invalid => exact unchanged rfl
      | full valid full => exact unchanged rfl
      | kept valid room => exact .of_record rfl gauged.attached
  | discard => exact unchanged rfl
  | destroy => exact gauged.destroyed
  | drop => exact gauged.destroyed

/-! ## Runs -/

/-- Whether an attempt among some events gave up idle connections and nothing has set the gauge
since. -/
def GaveUpUnnoticed (history : History Caller Connection Handshake) : Prop :=
  ∃ before entry after, history = before ++ entry :: after ∧ entry.1.GivesUp entry.2 ∧
    ∀ later ∈ after, ¬later.1.Refreshes later.2

theorem gaveUpUnnoticed_cons_iff (entry : Scene Caller Connection Handshake × Event _ _ _)
    (others : History Caller Connection Handshake) :
    GaveUpUnnoticed (entry :: others) ↔ GaveUpUnnoticed others ∨
      (entry.1.GivesUp entry.2 ∧ ∀ later ∈ others, ¬later.1.Refreshes later.2) := by
  constructor
  · rintro ⟨before, given, after, split, gives, unset⟩
    cases before with
    | nil =>
        obtain ⟨rfl, rfl⟩ := List.cons.inj split
        exact .inr ⟨gives, unset⟩
    | cons earlier before =>
        obtain ⟨rfl, rfl⟩ := List.cons.inj split
        exact .inl ⟨before, given, after, rfl, gives, unset⟩
  · rintro (⟨before, given, after, rfl, gives, unset⟩ | ⟨gives, unset⟩)
    · exact ⟨entry :: before, given, after, rfl, gives, unset⟩
    · exact ⟨[], entry, others, rfl, gives, unset⟩

/-- A gauge is wrong after a run if idle connections were given up in it unnoticed, or if it was
wrong before and never set. -/
theorem Run.stale_iff {past : History Caller Connection Handshake} (run : Run first history last)
    (gauged : first.Gauged past) (noted : history ⊆ past) :
    last.Gauged past ∧ (last.pool.Stale ↔ GaveUpUnnoticed history ∨
      (first.pool.Stale ∧ ∀ entry ∈ history, ¬entry.1.Refreshes entry.2)) := by
  induction run with
  | nil scene =>
      have none : ¬GaveUpUnnoticed ([] : History Caller Connection Handshake) := by
        rintro ⟨before, entry, after, split, _⟩
        exact absurd split.symm (List.append_ne_nil_of_right_ne_nil _ (List.cons_ne_nil _ _))
      refine ⟨gauged, ?_⟩
      simp only [none, List.not_mem_nil, false_imp_iff, implies_true, and_true, false_or]
  | @cons scene next last event history step _ inductionHypothesis =>
      obtain ⟨member, others⟩ := List.cons_subset.mp noted
      obtain ⟨after, rest⟩ := inductionHypothesis (gauged.step step member) others
      refine ⟨after, ?_⟩
      rw [rest, step.stale_iff gauged, gaveUpUnnoticed_cons_iff]
      simp only [List.forall_mem_cons, or_and_right, or_assoc, and_assoc]

/-- When the gauge is right.  In every scene that a pool can come to since its metrics were
attached, the gauge shows the available connections, as far as a gauge goes, exactly if no attempt
gave up idle connections without anything setting the gauge since.  Otherwise nothing is available,
and the first connection of the pool is still being opened or some attempt could not open it. -/
theorem gauge_is_right_iff_nothing_was_given_up_unnoticed {pool : Pool Connection Handshake}
    (metrics : Metrics) (run : Run (initial (pool.withMetrics metrics)) history scene) :
    ∃ shown, scene.pool.metrics = some shown ∧
      (shown.available = min scene.pool.available Metrics.gaugeLimit ↔
        ¬GaveUpUnnoticed history) ∧
      (GaveUpUnnoticed history → scene.pool.available = 0 ∧
        (scene.pool.openingFirst = true ∨ (scene.pool.status = .failedConnection ∧
          ∃ entry ∈ history, ∃ failure, entry.2 = .firstFails failure))) := by
  have start : ¬(pool.withMetrics metrics).Stale := Pool.not_stale_record _
  obtain ⟨gauged, whole⟩ := run.stale_iff (.of_record rfl rfl) (List.Subset.refl history)
  have stale : scene.pool.Stale ↔ GaveUpUnnoticed history := by
    simpa only [initial, start, false_and, or_false] using whole
  obtain ⟨shown, attached⟩ := Option.isSome_iff_exists.mp gauged.attached
  refine ⟨shown, attached, ?_, ?_⟩
  · rw [← stale, Pool.Stale, attached]
    simp only [Option.some.injEq, exists_eq_left', ne_eq, not_not]
  · intro unnoticed
    obtain ⟨idle_eq, unopened⟩ := gauged.neglected (stale.mpr unnoticed)
    refine ⟨congrArg List.length idle_eq, ?_⟩
    exact unopened.imp_left And.left

/-- An attempt can fail with one connection idle, which the gauge then shows. -/
theorem exists_run_failed_idle : ∃ history : History Nat Nat Unit,
    Run (initial (poolForTwo.withMetrics .initial)) history
      ⟨{ poolForTwo with
          status := .failedConnection, idle := [10], metrics := some ⟨0, 0, 0, 2, 1⟩ },
        [], [], [], [10], [], 0⟩ :=
  ⟨_, .cons (.begin rfl) <| .cons (.openFirst 10 (.refl _)) <|
    .cons (.finish [()] none (.refl _) ⟨by decide, by decide⟩ rfl) <|
    .cons (.poll [.failed .broken] rfl rfl) <| .nil _⟩

/-- The next attempt gives that connection up and opens another one, which sets the gauge. -/
theorem gauge_is_right_after_reconnecting :
    ∃ (history : History Nat Nat Unit) (scene : Scene Nat Nat Unit) (shown : Metrics),
      Run (initial (poolForTwo.withMetrics .initial)) history scene ∧ scene.closed = [10] ∧
        scene.pool.metrics = some shown ∧ ¬GaveUpUnnoticed history ∧
        shown.available = min scene.pool.available Metrics.gaugeLimit := by
  obtain ⟨history, failed⟩ := exists_run_failed_idle
  obtain ⟨more, scene, run, closed, opening, status⟩ : ∃ more scene,
      Run (initial (poolForTwo.withMetrics .initial)) (history ++ more) scene ∧
        scene.closed = [10] ∧ scene.pool.openingFirst = false ∧
        scene.pool.status = .connecting :=
    ⟨_, _, failed.append <| .cons (.begin rfl) <| .cons (.openFirst 11 (.refl _)) <|
      .cons (.finish [()] none (.refl _) ⟨Nat.le_refl 1, iff_of_true rfl rfl⟩ rfl) <| .nil _,
      rfl, rfl, rfl⟩
  obtain ⟨shown, attached, right, unnoticed⟩ :=
    gauge_is_right_iff_nothing_was_given_up_unnoticed _ run
  have noticed : ¬GaveUpUnnoticed (history ++ more) := by
    intro given
    rcases (unnoticed given).2 with opens | ⟨failed, _⟩
    · cases opening.symm.trans opens
    · cases status.symm.trans failed
  exact ⟨_, scene, shown, run, closed, attached, noticed, right.mpr noticed⟩

end Scene

/-- A gauge can show a connection that is closed.  A pool for two connects, its handshake fails, and
it connects again, but the first connection cannot be opened. -/
theorem gauge_shows_a_closed_connection :
    let attempt : PoolAction (StateM Rehearsal) Nat RehearsedHandshake Unit := do
      let _ ← Pool.connect Rehearsal.backend
      let _ ← Pool.poll Rehearsal.backend
      let _ ← Pool.connect Rehearsal.backend
    let pool : Pool Nat RehearsedHandshake :=
      ⟨Scene.poolForTwo.credentials, 2, .notConnected, [], [], false, some .initial⟩
    let script := { Rehearsal.initial with
      handshakes := [.failAfter 0]
      connectFailures := [none, some .broken] }
    let ((_, after), rehearsal) := (attempt.run pool).run script
    rehearsal.openCount = 0 ∧ after.available = 0 ∧
      after.metrics.map Metrics.available = some 1 :=
  ⟨rfl, rfl, rfl⟩

end BankLedger.Database
