import BankLedger.Proofs.Database.Traffic

/-!
# Wholeness of a connected pool

From the time an attempt has opened the first connection of a pool, the idle, lent and pending
connections make up the capacity, however many connections of earlier attempts are still out.  The
attempt starts a handshake for every other connection, and a connection that comes back is given up
only when as many are idle.  In a connected pool nothing is pending, and only its destruction ends
that.
-/

namespace BankLedger.Database

namespace Scene

variable {Caller Connection Handshake : Type}
variable {capacity : Nat} {scene next last : Scene Caller Connection Handshake}
variable {event : Event Caller Connection Handshake}
variable {history : History Caller Connection Handshake}

/-- Idle, lent and pending connections make up the capacity of a pool that has its first connection
and is connecting or connected. -/
def Whole (capacity : Nat) (scene : Scene Caller Connection Handshake) : Prop :=
  scene.pool.status = .connecting ∨ scene.pool.status = .connected →
    scene.pool.openingFirst = false →
      capacity ≤ scene.pool.idle.length + scene.lent.length + scene.pool.pending.length

theorem Whole.step (whole : scene.Whole capacity) (orderly : Orderly capacity scene)
    (step : Step scene event next) : next.Whole capacity := by
  intro connects opened
  cases step with
  | answer => exact whole connects opened
  | begin => cases opened
  | failFirst failure opening =>
      simp only [Pool.failFirst] at connects
      split at connects <;> simp at connects
  | openFirst => exact whole connects opened
  | @finish others first started failure givenUp answer after starting startable finished =>
      have finish := Pool.finish_finishConnect scene.pool first started failure
      rw [finished] at finish
      cases finish with
      | destroyed invalid => simp [invalid] at connects
      | failed valid => simp at connects
      | started valid =>
          have all : started.length = capacity - 1 := by
            rw [← orderly.capacity_eq]
            exact startable.complete_iff.mp rfl
          have positive := orderly.capacity_pos
          simp only [Pool.idle_record, Pool.pending_record, List.length_cons, all]
          omega
  | abandon => exact whole connects opened
  | @poll found polled looked =>
      obtain ⟨connecting, flag⟩ := (Pool.isPolled_iff _).mp polled
      have before := whole (.inl connecting) flag
      obtain ⟨_, everything⟩ := Pool.length_found found
      have settling := Pool.settling_settle found scene.pool
      generalize Pool.settle found scene.pool = settled at settling connects ⊢
      cases settling with
      | failed failed => simp at connects
      | connected unfailed complete =>
          have sum := everything unfailed
          simp only [Pool.idle_record, Pool.pending_record, List.length_append,
            List.length_reverse, List.length_nil, complete] at sum ⊢
          omega
      | waiting unfailed incomplete =>
          have sum := everything unfailed
          simp only [Pool.idle_record, Pool.pending_record, List.length_append,
            List.length_reverse]
          omega
  | pollNothing => exact whole connects opened
  | acquire caller acquired =>
      have acquisition := Pool.acquisition_acquire scene.pool
      rw [acquired] at acquisition
      cases acquisition with
      | taken idle =>
          have before := whole connects opened
          rw [idle, List.length_cons] at before
          simp only [Pool.idle_record, Pool.pending_record, Option.toList_some, List.map_cons,
            List.map_nil, List.length_append, List.length_cons, List.length_nil]
          omega
      | exhausted idle => exact whole connects opened
  | @release others caller connection givenUp after lent released =>
      have returned := Pool.return_release connection scene.pool
      rw [released] at returned
      have out := lent.length_eq
      rw [List.length_cons] at out
      cases returned with
      | destroyed invalid => simp [invalid] at connects
      | full valid full =>
          -- One connection is given up, and yet the idle ones alone make up the capacity.
          rw [orderly.capacity_eq] at full
          simp only
          omega
      | kept valid room =>
          have before := whole connects opened
          simp only [Pool.idle_record, Pool.pending_record, List.length_cons]
          omega
  | discard => exact whole connects opened
  | destroy => simp [status_destroyed] at connects
  | drop => simp [status_destroyed] at connects

theorem Run.whole {pool : Pool Connection Handshake} (run : Run (initial pool) history scene)
    (made : pool.Made capacity) : scene.Whole capacity := by
  apply run.keeps_of_made made (Whole capacity)
  · intro scene next event _ orderly step whole
    exact whole.step orderly step
  · intro connects _
    rw [initial, made.unused.status_eq] at connects
    rcases connects with connects | connects <;> cases connects

/-- Nobody is connecting a connected pool. -/
theorem Orderly.openingFirst_of_connected (orderly : Orderly capacity scene)
    (connected : scene.pool.status = .connected) : scene.pool.openingFirst = false := by
  cases opening : scene.pool.openingFirst with
  | false => rfl
  | true =>
      rcases orderly.status_of_opening opening with status | status <;>
        cases connected.symm.trans status

theorem Orderly.pending_of_connected (orderly : Orderly capacity scene)
    (connected : scene.pool.status = .connected) : scene.pool.pending = [] := by
  by_contra pending
  cases connected.symm.trans (orderly.polled_of_pending pending).1

/-- A connected pool stays connected unless a step destroys it. -/
theorem Step.of_connected (step : Step scene event next) (orderly : Orderly capacity scene)
    (connected : scene.pool.status = .connected) :
    next.pool.status = .connected ∨ next.pool.status = .invalid ∧ event.Ends := by
  have flag := orderly.openingFirst_of_connected connected
  cases step with
  | answer => exact .inl connected
  | begin unanswered =>
      rcases Pool.status_of_unanswered unanswered with status | status <;>
        cases connected.symm.trans status
  | failFirst failure opening =>
      cases flag.symm.trans (orderly.of_underway opening rfl).2.1
  | openFirst => exact .inl connected
  | finish started failure starting => cases flag.symm.trans (orderly.of_underway starting rfl).2.1
  | abandon => exact .inl connected
  | poll found polled => cases connected.symm.trans ((Pool.isPolled_iff _).mp polled).1
  | pollNothing => exact .inl connected
  | acquire caller acquired =>
      have acquisition := Pool.acquisition_acquire scene.pool
      rw [acquired] at acquisition
      cases acquisition <;> exact .inl connected
  | @release others caller connection givenUp after lent released =>
      have returned := Pool.return_release connection scene.pool
      rw [released] at returned
      cases returned <;> exact .inl connected
  | discard => exact .inl connected
  | destroy => exact .inr ⟨scene.status_destroyed, trivial⟩
  | drop => exact .inr ⟨scene.status_destroyed, trivial⟩

theorem Run.of_connected (run : Run scene history last) (orderly : Orderly capacity scene)
    (connected : scene.pool.status = .connected) (unended : ∀ entry ∈ history, ¬entry.2.Ends) :
    last.pool.status = .connected := by
  induction run with
  | nil => exact connected
  | cons step _ inductionHypothesis =>
      rcases step.of_connected orderly connected with still | ⟨_, ends⟩
      · apply inductionHypothesis (orderly.step step) still
        intro entry member
        exact unended entry (List.mem_cons_of_mem _ member)
      · exact absurd ends (unended _ List.mem_cons_self)

/-- A connected pool is whole and stays so.  In every scene in which a pool is connected, whatever
attempts failed before and whatever they left lent, no handshake is pending, and the idle
connections and the lent ones are at least as many as the capacity.  No step but its destruction
changes its status, which then is that of a destroyed pool. -/
theorem connected_pool_is_whole {pool : Pool Connection Handshake} (made : pool.Made capacity)
    (run : Run (initial pool) history scene) (connected : scene.pool.status = .connected) :
    scene.pool.pending = [] ∧ capacity ≤ scene.pool.available + scene.lent.length ∧
      (∀ {event next}, Step scene event next →
        next.pool.status = .connected ∨ next.pool.status = .invalid ∧ event.Ends) ∧
      (∀ {more later}, Run scene more later → (∀ entry ∈ more, ¬entry.2.Ends) →
        later.pool.status = .connected) := by
  have orderly := run.orderly made
  have pending := orderly.pending_of_connected connected
  have whole := run.whole made (.inr connected) (orderly.openingFirst_of_connected connected)
  rw [pending, List.length_nil, Nat.add_zero] at whole
  exact ⟨pending, whole, fun step => step.of_connected orderly connected,
    fun others => others.of_connected orderly connected⟩

/-- A connection left from a failed attempt comes back while the next attempt waits.  The connected
pool then has more connections idle than its capacity. -/
theorem connected_pool_is_whole_with_a_stray_idle :
    ∃ (history : History Nat Nat Unit) (scene : Scene Nat Nat Unit),
      poolForTwo.Made 2 ∧ Run (initial poolForTwo) history scene ∧
        scene.pool.status = .connected ∧ scene.pool.idle = [12, 10, 11] ∧
        scene.pool.pending = [] ∧ 2 ≤ scene.pool.available + scene.lent.length := by
  obtain ⟨history, waiting⟩ := exists_run_waiting
  obtain ⟨more, scene, run, connected, idle⟩ : ∃ more scene,
      Run (initial poolForTwo) (history ++ more) scene ∧
        scene.pool.status = .connected ∧ scene.pool.idle = [12, 10, 11] :=
    ⟨_, _, waiting.append <| .cons (.release (.refl _) rfl) <|
      .cons (.poll [.ready 12] rfl rfl) <| .nil _, rfl, rfl⟩
  obtain ⟨pending, whole, _⟩ := connected_pool_is_whole poolForTwo_made run connected
  exact ⟨_, scene, poolForTwo_made, run, connected, idle, pending, whole⟩

end Scene

end BankLedger.Database
