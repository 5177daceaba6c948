import Mathlib.Data.List.Nodup
import BankLedger.Proofs.Database.Traffic

/-!
# Custody of connections

A connection that the backend handed over is held by a caller who connects the pool, or is idle, or
is out with a caller, or was closed.  Every step moves connections between these places, and none is
lost or doubled on the way, whatever the order of the steps and the outcomes of the backend.  So as
long as the backend hands over every connection once, each is in exactly one place, and a closed
connection stays closed.
-/

namespace BankLedger.Database

/-- Where a connection can be that was handed over. -/
inductive Place (Caller : Type)
  /-- Held by a caller who connects the pool. -/
  | connecting
  | idle
  /-- Out with a caller to whom it was lent, and who has not given it back or got rid of it. -/
  | out (caller : Caller)
  | closed

namespace Scene

variable {Caller Connection Handshake : Type}

/-- All places with the connections that are there. -/
def places (scene : Scene Caller Connection Handshake) : List (Place Caller × Connection) :=
  scene.held.map (.connecting, ·) ++ scene.pool.idle.map (.idle, ·) ++
    (scene.lent ++ scene.refused).map (fun (caller, connection) => (.out caller, connection)) ++
    scene.closed.map (.closed, ·)

/-- The connections in all places. -/
def placed (scene : Scene Caller Connection Handshake) : List Connection :=
  scene.places.map Prod.snd

section

variable {scene : Scene Caller Connection Handshake} {connection : Connection}

@[simp] theorem mem_places_idle :
    (.idle, connection) ∈ scene.places ↔ connection ∈ scene.pool.idle := by
  simp [places]

@[simp] theorem mem_places_out {caller : Caller} : (.out caller, connection) ∈ scene.places ↔
    (caller, connection) ∈ scene.lent ∨ (caller, connection) ∈ scene.refused := by
  simp [places]

@[simp] theorem mem_places_closed :
    (.closed, connection) ∈ scene.places ↔ connection ∈ scene.closed := by
  simp [places]

theorem mem_placed : connection ∈ scene.placed ↔ ∃ place, (place, connection) ∈ scene.places := by
  simp [placed]

/-- The connections in all places, one place after the other. -/
theorem placed_eq (scene : Scene Caller Connection Handshake) :
    scene.placed = scene.held ++ scene.pool.idle ++
      (scene.lent.map Prod.snd ++ scene.refused.map Prod.snd) ++ scene.closed := by
  simp [placed, places, Function.comp_def]

end

/-- What is in all places together is what was handed over. -/
def Conserved (scene : Scene Caller Connection Handshake) : Prop :=
  scene.placed.Perm scene.handed

/-! ## Counting a connection -/

section

variable [DecidableEq Connection] (connection : Connection)

theorem count_placed (scene : Scene Caller Connection Handshake) :
    scene.placed.count connection =
      (scene.attempts.filterMap Attempt.held?).count connection +
        scene.pool.idle.count connection + (scene.lent.map Prod.snd).count connection +
        (scene.refused.map Prod.snd).count connection + scene.closed.count connection := by
  simp only [placed_eq, held, List.count_append, Nat.add_assoc]

theorem count_held {attempts others : List (Attempt Connection)} {attempt : Attempt Connection}
    (member : attempts.Perm (attempt :: others)) :
    (attempts.filterMap Attempt.held?).count connection =
      attempt.held?.toList.count connection +
        (others.filterMap Attempt.held?).count connection := by
  rw [(member.filterMap Attempt.held?).count_eq connection, ← List.count_append]
  cases attempt <;> rfl

theorem count_abandoning (givenUp : List Connection) (others : List (Attempt Connection)) :
    ((givenUp.map Attempt.abandoning ++ others).filterMap Attempt.held?).count connection =
      givenUp.count connection + (others.filterMap Attempt.held?).count connection := by
  rw [List.filterMap_append, List.filterMap_map, List.count_append]
  congr
  exact List.filterMap_some

theorem count_out {pairs others : List (Caller × Connection)} {caller : Caller}
    {lent : Connection} (member : pairs.Perm ((caller, lent) :: others)) :
    (pairs.map Prod.snd).count connection =
      [lent].count connection + (others.map Prod.snd).count connection := by
  rw [(member.map Prod.snd).count_eq connection, ← List.count_append]
  rfl

theorem count_pairs (caller : Caller) (added : List Connection)
    (pairs : List (Caller × Connection)) :
    ((added.map (caller, ·) ++ pairs).map Prod.snd).count connection =
      added.count connection + (pairs.map Prod.snd).count connection := by
  rw [List.map_append, List.map_map, List.count_append]
  congr
  exact List.map_id _

end

/-! ## Conservation -/

namespace Conserved

theorem initial {capacity : Nat} {pool : Pool Connection Handshake}
    (made : pool.Made capacity) :
    Conserved (initial pool : Scene Caller Connection Handshake) := by
  rw [Conserved, placed_eq]
  change ([] ++ pool.idle ++ [] ++ []).Perm []
  rw [made.unused.idle_eq]
  exact .refl _

variable {scene next : Scene Caller Connection Handshake}

theorem destroyed (conserved : scene.Conserved) : scene.destroyed.Conserved := by
  classical
  apply List.perm_iff_count.mpr
  intro connection
  have before := conserved.count_eq connection
  have destruction := Pool.destruction_destroy scene.pool
  simp only [count_placed, Scene.destroyed, List.count_append] at before ⊢
  generalize scene.pool.destroy = outcome at destruction ⊢
  cases destruction with
  | repeated invalid => exact before
  | first valid =>
      simp only [Pool.idle_record, List.count_reverse, List.count_nil]
      omega

/-- Every step moves connections from place to place and loses none. -/
theorem step {event : Event Caller Connection Handshake} (conserved : scene.Conserved)
    (step : Step scene event next) : next.Conserved := by
  -- Connections are counted one at a time: a step takes as many from a place as it puts elsewhere.
  classical
  apply List.perm_iff_count.mpr
  intro connection
  have before := conserved.count_eq connection
  rw [count_placed] at before ⊢
  cases step with
  | answer => exact before
  | begin unanswered =>
      simp only [Pool.beginConnect, count_held _ (.refl (.opening :: _)), Attempt.held?,
        Option.toList_none, List.count_append, List.count_reverse, List.count_nil]
      omega
  | failFirst failure opening =>
      rw [count_held _ opening, Attempt.held?, Option.toList_none, List.count_nil] at before
      simp only [Pool.failFirst]
      omega
  | openFirst first opening =>
      rw [count_held _ opening, Attempt.held?, Option.toList_none, List.count_nil] at before
      simp only [count_held _ (.refl (.starting first :: _)), Attempt.held?, Option.toList_some,
        List.count_append]
      omega
  | @finish others first started failure givenUp answer after starting startable finished =>
      have finish := Pool.finish_finishConnect scene.pool first started failure
      rw [finished] at finish
      rw [count_held _ starting, Attempt.held?, Option.toList_some] at before
      simp only [count_abandoning]
      cases finish with
      | destroyed invalid => omega
      | failed valid =>
          rw [Pool.idle_record, ← List.singleton_append, List.count_append, List.count_nil]
          omega
      | started valid =>
          rw [Pool.idle_record, ← List.singleton_append, List.count_append, List.count_nil]
          omega
  | abandon abandoning =>
      rw [count_held _ abandoning, Attempt.held?, Option.toList_some] at before
      simp only [List.count_append]
      omega
  | @poll found polled looked =>
      simp only [Pool.idle_settle, List.count_append, List.count_reverse]
      omega
  | pollNothing => exact before
  | acquire caller acquired =>
      have acquisition := Pool.acquisition_acquire scene.pool
      rw [acquired] at acquisition
      simp only [count_pairs]
      cases acquisition with
      | taken idle =>
          rw [idle, ← List.singleton_append, List.count_append] at before
          simp only [Pool.idle_record, Option.toList_some]
          omega
      | exhausted idle =>
          rw [Pool.idle_mapMetrics, Option.toList_none, List.count_nil]
          omega
  | @release others caller connection givenUp after lent released =>
      have returned := Pool.return_release connection scene.pool
      rw [released] at returned
      rw [count_out _ lent] at before
      simp only [count_pairs]
      cases returned with
      | destroyed invalid => omega
      | full valid full => omega
      | kept valid room =>
          rw [Pool.idle_record, ← List.singleton_append, List.count_append, List.count_nil]
          omega
  | discard refused =>
      rw [count_out _ refused] at before
      simp only [List.count_append]
      omega
  | destroy =>
      rw [← count_placed]
      exact conserved.destroyed.count_eq connection
  | drop =>
      rw [← count_placed]
      exact conserved.destroyed.count_eq connection

end Conserved

namespace Run

variable {first last : Scene Caller Connection Handshake}
variable {history : History Caller Connection Handshake}

theorem conserved {capacity : Nat} {pool : Pool Connection Handshake}
    (run : Run (initial pool) history last) (made : pool.Made capacity) : last.Conserved :=
  run.keeps Conserved (fun _ step conserved => conserved.step step) (.initial made)

/-- What was closed stays closed. -/
theorem closed_subset (run : Run first history last) : first.closed ⊆ last.closed := by
  apply run.keeps (fun scene => first.closed ⊆ scene.closed) _ (List.Subset.refl _)
  intro scene next event _ step closed
  apply List.Subset.trans closed
  cases step <;> first | exact List.Subset.refl _ | exact List.subset_append_left ..

end Run

/-- If nothing is placed twice, a connection is in one place only. -/
theorem place_unique {scene : Scene Caller Connection Handshake} (distinct : scene.placed.Nodup)
    {connection : Connection} {place other : Place Caller}
    (here : (place, connection) ∈ scene.places) (there : (other, connection) ∈ scene.places) :
    place = other :=
  congrArg Prod.fst (List.inj_on_of_nodup_map distinct here there rfl)

/-- Connections are neither lost nor shared.  In every scene that a pool can come to, in whatever
order its callers connect, poll, take, give back and destroy, every connection that the backend
handed over is in exactly one place: held by a caller who connects, idle, out with one caller, or
closed.  None is idle or closed twice, and none that is closed is ever idle or out again. -/
theorem each_connection_is_in_one_place {capacity : Nat} {pool : Pool Connection Handshake}
    {history : History Caller Connection Handshake} {scene : Scene Caller Connection Handshake}
    (made : pool.Made capacity) (run : Run (initial pool) history scene)
    (distinct : scene.handed.Nodup) :
    (∀ connection, connection ∈ scene.handed ↔ ∃ place, (place, connection) ∈ scene.places) ∧
    (∀ connection ∈ scene.handed, ∃! place, (place, connection) ∈ scene.places) ∧
    scene.pool.idle.Nodup ∧ scene.closed.Nodup ∧
    ∀ {more : History Caller Connection Handshake} {later : Scene Caller Connection Handshake},
      Run scene more later → later.handed.Nodup → ∀ connection ∈ scene.closed,
        ∀ place, (place, connection) ∈ later.places ↔ place = .closed := by
  have conserved := run.conserved made
  have placed : scene.placed.Nodup := conserved.nodup_iff.mpr distinct
  have handed : ∀ connection,
      connection ∈ scene.handed ↔ ∃ place, (place, connection) ∈ scene.places := by
    intro connection
    rw [← conserved.mem_iff, mem_placed]
  refine ⟨handed, ?_, ?_, ?_, ?_⟩
  · intro connection member
    obtain ⟨place, here⟩ := (handed connection).mp member
    exact ⟨place, here, fun other there => place_unique placed there here⟩
  · rw [placed_eq] at placed
    exact placed.of_append_left.of_append_left.of_append_right
  · rw [placed_eq] at placed
    exact placed.of_append_right
  · intro more later others laterDistinct connection closed place
    have laterConserved := (run.append others).conserved made
    have laterPlaced : later.placed.Nodup := laterConserved.nodup_iff.mpr laterDistinct
    have here : (.closed, connection) ∈ later.places :=
      mem_places_closed.mpr (others.closed_subset closed)
    constructor
    · exact fun there => place_unique laterPlaced there here
    · rintro rfl
      exact here

/-- A caller keeps a connection of an attempt that failed.  A second attempt is cut off by the end
of the pool, so that its first connection is closed, and the caller then gives the other one
back. -/
theorem each_connection_is_in_one_place_amid_destruction :
    ∃ (history : History Nat Nat Unit) (scene : Scene Nat Nat Unit),
      poolForTwo.Made 2 ∧ Run (initial poolForTwo) history scene ∧ scene.handed.Nodup ∧
        scene.handed = [10, 11] ∧
        (∀ connection ∈ scene.handed, ∃! place, (place, connection) ∈ scene.places) ∧
        (.out 7, 10) ∈ scene.places ∧ (.closed, 11) ∈ scene.places := by
  obtain ⟨history, failed⟩ := exists_run_failed
  obtain ⟨more, scene, run, handed, refused, closed⟩ : ∃ more scene,
      Run (initial poolForTwo) (history ++ more) scene ∧
        scene.handed = [10, 11] ∧ scene.refused = [(7, 10)] ∧ scene.closed = [11] :=
    ⟨_, _, failed.append <| .cons (.begin rfl) <| .cons (.openFirst 11 (.refl _)) <|
      .cons .destroy <|
      .cons (.finish [] (some .broken) (.refl _) ⟨by decide, by decide⟩ rfl) <|
      .cons (.abandon (.refl _)) <| .cons (.release (.refl _) rfl) <| .nil _, rfl, rfl, rfl⟩
  have distinct : scene.handed.Nodup := by
    rw [handed]
    decide
  obtain ⟨_, once, _⟩ := each_connection_is_in_one_place poolForTwo_made run distinct
  refine ⟨_, scene, poolForTwo_made, run, distinct, handed, once, ?_, ?_⟩
  · rw [mem_places_out, refused]
    exact .inr List.mem_cons_self
  · rw [mem_places_closed, closed]
    exact List.mem_cons_self

end Scene

end BankLedger.Database
