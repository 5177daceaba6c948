import BankLedger.Proofs.Database.Custody

/-!
# Destruction of a pool

A destroyed pool stays destroyed and empty, whatever its callers were about to do when it ended.  It
refuses everyone who asks for something, and what its callers still hold is closed as soon as they
let go of it, so that in the end the connections that were closed are the ones handed over.
-/

namespace BankLedger.Database

variable {Caller Connection Handshake : Type}

/-- What a destroyed pool answers, if the event has an answer.  Who is opening the first connection
may still fail to, and is told of that failure instead. -/
def Event.Refused : Event Caller Connection Handshake → Prop
  | .connect answer => answer = some (.error .destroyed)
  | .finish answer => answer = .error .destroyed
  | .poll _ answer => answer = .invalid
  | .acquire _ answer => answer = none
  | .firstFails _ | .firstOpens _ | .abandon | .release .. | .discard .. | .destroy | .drop => True

namespace Scene

/-- Whether nothing is out and nobody is connecting any more. -/
structure Settled (scene : Scene Caller Connection Handshake) : Prop where
  attempts_eq : scene.attempts = []
  lent_eq : scene.lent = []
  refused_eq : scene.refused = []

variable {capacity : Nat} {scene next last : Scene Caller Connection Handshake}
variable {event : Event Caller Connection Handshake}
variable {history : History Caller Connection Handshake}

/-- No step brings a destroyed pool back, and none gets anything from it. -/
theorem Step.of_invalid (step : Step scene event next) (invalid : scene.pool.status = .invalid)
    (empty : scene.pool.idle = []) : next.pool.status = .invalid ∧ event.Refused := by
  have unpolled : scene.pool.isPolled = false := by
    rw [Pool.isPolled, invalid]
    rfl
  cases step with
  | answer known =>
      rw [Pool.connectAnswer?_of_invalid invalid] at known
      exact ⟨invalid, known.symm⟩
  | begin unanswered =>
      rw [Pool.connectAnswer?_of_invalid invalid] at unanswered
      cases unanswered
  | failFirst failure opening => exact ⟨if_pos invalid, trivial⟩
  | openFirst => exact ⟨invalid, trivial⟩
  | @finish others first started failure givenUp answer after starting startable finished =>
      have finish := Pool.finish_finishConnect scene.pool first started failure
      rw [finished] at finish
      cases finish with
      | destroyed => exact ⟨invalid, rfl⟩
      | failed valid => exact absurd invalid valid
      | started valid => exact absurd invalid valid
  | abandon => exact ⟨invalid, trivial⟩
  | poll found polled => exact absurd (unpolled.symm.trans polled) Bool.false_ne_true
  | pollNothing => exact ⟨invalid, invalid⟩
  | acquire caller acquired =>
      have acquisition := Pool.acquisition_acquire scene.pool
      rw [acquired] at acquisition
      cases acquisition with
      | taken idle =>
          rw [empty] at idle
          cases idle
      | exhausted => exact ⟨invalid, rfl⟩
  | @release others caller connection givenUp after lent released =>
      have returned := Pool.return_release connection scene.pool
      rw [released] at returned
      cases returned with
      | destroyed => exact ⟨invalid, trivial⟩
      | full valid => exact absurd invalid valid
      | kept valid => exact absurd invalid valid
  | discard => exact ⟨invalid, trivial⟩
  | destroy => exact ⟨scene.status_destroyed, trivial⟩
  | drop => exact ⟨scene.status_destroyed, trivial⟩

theorem Run.of_invalid (run : Run scene history last) (orderly : Orderly capacity scene)
    (invalid : scene.pool.status = .invalid) :
    last.pool.status = .invalid ∧ ∀ entry ∈ history, entry.2.Refused := by
  induction run with
  | nil => exact ⟨invalid, fun entry member => by cases member⟩
  | cons step _ inductionHypothesis =>
      obtain ⟨still, refused⟩ := step.of_invalid invalid (orderly.idle_of_invalid invalid)
      obtain ⟨destroyed, others⟩ := inductionHypothesis (orderly.step step) still
      refine ⟨destroyed, ?_⟩
      intro entry member
      cases member with
      | head => exact refused
      | tail _ member => exact others entry member

/-- When an empty pool has been left by everyone, all that was handed over is closed. -/
theorem Conserved.closed_of_settled (conserved : scene.Conserved) (settled : scene.Settled)
    (empty : scene.pool.idle = []) : scene.closed.Perm scene.handed := by
  rw [Conserved, placed_eq, held, settled.attempts_eq, empty, settled.lent_eq,
    settled.refused_eq] at conserved
  exact conserved

/-- Destruction wins and leaks nothing.  From the moment a pool is destroyed or dropped, whatever
was going on, it stays destroyed with no connection idle.  Every caller who asks it for something is
refused, also one who was connecting it.  As soon as nobody is connecting and all that was lent is
given back, the connections closed are the connections handed over, each as often as it was handed
over. -/
theorem destruction_wins_and_leaks_nothing {pool : Pool Connection Handshake}
    {before after : History Caller Connection Handshake} (made : pool.Made capacity)
    (run : Run (initial pool) before scene) (step : Step scene event next) (ends : event.Ends)
    (others : Run next after last) :
    last.pool.status = .invalid ∧ last.pool.available = 0 ∧
      last.pool.acquire.1 = none ∧ last.pool.connectAnswer? = some (.error .destroyed) ∧
      (∀ first started failure,
        (last.pool.finishConnect first started failure).1 = ([first], .error .destroyed)) ∧
      (∀ entry ∈ after, entry.2.Refused) ∧
      (last.Settled → last.closed.Perm last.handed) := by
  have orderly : Orderly capacity next := (run.orderly made).step step
  have whole : Run (initial pool) (before ++ (scene, event) :: after) last :=
    run.append (.cons step others)
  obtain ⟨invalid, refused⟩ := others.of_invalid orderly (step.status_of_ends ends)
  have empty : last.pool.idle = [] := (whole.orderly made).idle_of_invalid invalid
  refine ⟨invalid, congrArg List.length empty, ?_, Pool.connectAnswer?_of_invalid invalid, ?_,
    refused, ?_⟩
  · rw [Pool.acquire, empty]
  · intro first started failure
    rw [Pool.finishConnect, if_pos invalid]
  · intro settled
    exact (whole.conserved made).closed_of_settled settled empty

/-- The pool is destroyed while its first connection is being opened and one of an earlier attempt
is lent.  The attempt is answered that it is destroyed and closes its connection, another
destruction does nothing, and the lent connection is closed when it comes back. -/
theorem destruction_wins_and_leaks_nothing_amid_connecting :
    ∃ (before : History Nat Nat Unit) (scene next : Scene Nat Nat Unit)
      (after : History Nat Nat Unit) (last : Scene Nat Nat Unit),
      poolForTwo.Made 2 ∧ Run (initial poolForTwo) before scene ∧ scene.attempts = [.opening] ∧
        Step scene .destroy next ∧ Run next after last ∧ (∀ entry ∈ after, entry.2.Refused) ∧
        last.handed = [10, 11] ∧ last.closed.Perm [10, 11] := by
  obtain ⟨history, failed⟩ := exists_run_failed
  obtain ⟨more, scene, run, state⟩ : ∃ more scene,
      Run (initial poolForTwo) (history ++ more) scene ∧
        scene = ⟨{ poolForTwo with status := .connecting, openingFirst := true }, [.opening],
          [(7, 10)], [], [10], [], 1⟩ :=
    ⟨_, _, failed.append <| .cons (.begin rfl) <| .nil _, rfl⟩
  obtain ⟨after, last, others, settled, handed⟩ : ∃ after last, Run scene.destroyed after last ∧
      last.Settled ∧ last.handed = [10, 11] := by
    rw [state]
    exact ⟨_, _, .cons (.openFirst 11 (.refl _)) <|
      .cons (.finish [()] none (.refl _) ⟨by decide, by decide⟩ rfl) <|
      .cons .destroy <| .cons (.abandon (.refl _)) <| .cons (.release (.refl _) rfl) <|
      .cons (.discard (.refl _)) <| .nil _, ⟨rfl, rfl, rfl⟩, rfl⟩
  obtain ⟨_, _, _, _, _, refused, closed⟩ :=
    destruction_wins_and_leaks_nothing poolForTwo_made run .destroy trivial others
  refine ⟨_, scene, scene.destroyed, after, last, poolForTwo_made, run, ?_, .destroy, others,
    refused, handed, ?_⟩
  · rw [state]
  · rw [← handed]
    exact closed settled

end Scene

end BankLedger.Database
