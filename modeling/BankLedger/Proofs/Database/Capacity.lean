import Mathlib.Algebra.BigOperators.Group.List.Basic
import Mathlib.Algebra.GroupWithZero.Nat
import BankLedger.Proofs.Database.Custody

/-!
# Connections in excess of the capacity

An attempt to connect brings at most as many connections as the pool has capacity, and giving a
connection back is refused when as many are idle.  Still a pool can have more idle connections than
its capacity: a connection that is left from an earlier attempt and comes back during a later one
takes room that the later one counts on, and neither its first connection nor those found by polling
are measured against the capacity.  How many there can be, and which returns are to blame, is the
matter of this module.
-/

namespace BankLedger.Database

/-- How many connections an attempt is still to bring, without its handshakes. -/
def Attempt.due {Connection : Type} (capacity : Nat) : Attempt Connection → Nat
  | .opening => capacity
  | .starting _ => capacity - 1
  | .abandoning _ => 0

namespace Scene

variable {Caller Connection Handshake : Type}

/-- The connections that were handed over before the latest attempt began. -/
def former (scene : Scene Caller Connection Handshake) : List Connection :=
  scene.handed.take scene.earlier

/-- The connections that were handed over since the latest attempt began. -/
def latest (scene : Scene Caller Connection Handshake) : List Connection :=
  scene.handed.drop scene.earlier

/-- How many connections may still be handed over in the latest attempt. -/
def awaited (scene : Scene Caller Connection Handshake) : Nat :=
  (scene.attempts.map (Attempt.due scene.pool.capacity)).sum + scene.pool.pending.length

theorem former_append_latest (scene : Scene Caller Connection Handshake) :
    scene.former ++ scene.latest = scene.handed :=
  List.take_append_drop _ _

theorem latest_append {scene : Scene Caller Connection Handshake}
    (earlier_le : scene.earlier ≤ scene.handed.length) (added : List Connection) :
    (scene.handed ++ added).drop scene.earlier = scene.latest ++ added :=
  List.drop_append_of_le_length earlier_le

variable {capacity : Nat} {scene next last : Scene Caller Connection Handshake}
variable {event : Event Caller Connection Handshake}
variable {history : History Caller Connection Handshake}

theorem sum_due {attempts others : List (Attempt Connection)} {attempt : Attempt Connection}
    (member : attempts.Perm (attempt :: others)) (capacity : Nat) :
    (attempts.map (Attempt.due capacity)).sum =
      attempt.due capacity + (others.map (Attempt.due capacity)).sum := by
  rw [(member.map _).sum_eq, List.map_cons, List.sum_cons]

theorem sum_due_eq_zero {attempts : List (Attempt Connection)}
    (none : attempts.countP Attempt.isUnderway = 0) (capacity : Nat) :
    (attempts.map (Attempt.due capacity)).sum = 0 := by
  apply List.sum_eq_zero
  intro due member
  obtain ⟨attempt, found, rfl⟩ := List.mem_map.mp member
  have ended := List.countP_eq_zero.mp none attempt found
  cases attempt with
  | opening => exact absurd rfl ended
  | starting first => exact absurd rfl ended
  | abandoning first => rfl

theorem starting_not_mem {attempts : List (Attempt Connection)}
    (none : attempts.countP Attempt.isUnderway = 0) (first : Connection) :
    .starting first ∉ attempts :=
  fun member => List.countP_eq_zero.mp none _ member rfl

/-! ## What an attempt can bring -/

/-- An attempt brings no more connections than the capacity, its first connection among them, to a
pool that has no more idle when its first connection comes. -/
structure Rationed (scene : Scene Caller Connection Handshake) : Prop where
  earlier_le : scene.earlier ≤ scene.handed.length
  latest_le : scene.latest.length + scene.awaited ≤ scene.pool.capacity
  opening_le : scene.pool.openingFirst = true → scene.pool.available ≤ scene.pool.capacity
  available_le : scene.pool.available + scene.pool.pending.length ≤ 2 * scene.pool.capacity
  first_mem : ∀ first, .starting first ∈ scene.attempts → first ∈ scene.latest

namespace Rationed

theorem initial {pool : Pool Connection Handshake} (made : pool.Made capacity) :
    Rationed (initial pool : Scene Caller Connection Handshake) := by
  obtain ⟨_, _, _, idle_eq, pending_eq, _⟩ := made.unused
  refine ⟨Nat.le_refl 0, ?_, ?_, ?_, fun first member => by cases member⟩
  · simp [Scene.initial, latest, awaited, pending_eq]
  · simp [Scene.initial, Pool.available, idle_eq]
  · simp [Scene.initial, Pool.available, idle_eq, pending_eq]

theorem destroyed (rationed : scene.Rationed) : scene.destroyed.Rationed := by
  obtain ⟨earlier_le, latest_le, opening_le, available_le, first_mem⟩ := rationed
  have destruction := Pool.destruction_destroy scene.pool
  rw [Scene.destroyed]
  generalize scene.pool.destroy = outcome at destruction ⊢
  cases destruction with
  | repeated invalid => exact ⟨earlier_le, latest_le, opening_le, available_le, first_mem⟩
  | first valid =>
      refine ⟨earlier_le, ?_, fun _ => Nat.zero_le _, Nat.zero_le _, first_mem⟩
      simp only [latest, awaited, Pool.pending_record, Pool.capacity_record,
        List.length_nil] at latest_le ⊢
      omega

theorem step (rationed : scene.Rationed) (orderly : Orderly capacity scene)
    (step : Step scene event next) : next.Rationed := by
  obtain ⟨earlier_le, latest_le, opening_le, available_le, first_mem⟩ := id rationed
  simp only [latest, awaited, Pool.available, List.length_drop]
    at latest_le opening_le available_le
  have positive : 1 ≤ scene.pool.capacity := by
    rw [orderly.capacity_eq]
    exact orderly.capacity_pos
  cases step with
  | answer => exact rationed
  | begin unanswered =>
      obtain ⟨none, pending⟩ := orderly.of_unanswered unanswered
      refine ⟨Nat.le_refl _, ?_, fun _ => Nat.zero_le _, ?_, ?_⟩
      · simp [latest, awaited, Pool.beginConnect, pending, sum_due_eq_zero none, Attempt.due]
      · simp [Pool.available, Pool.beginConnect, pending]
      · intro first member
        simp only [List.mem_cons, reduceCtorEq, false_or] at member
        exact absurd member (starting_not_mem none first)
  | @failFirst others failure opening =>
      rw [sum_due opening] at latest_le
      refine ⟨earlier_le, ?_, fun opening => absurd opening Bool.false_ne_true, available_le, ?_⟩
      · simp only [latest, awaited, Pool.failFirst, List.length_drop]
        omega
      · intro first member
        exact first_mem first (opening.symm.subset (List.mem_cons_of_mem _ member))
  | @openFirst others first opening =>
      rw [sum_due opening, Attempt.due] at latest_le
      refine ⟨?_, ?_, opening_le, available_le, ?_⟩
      · simp only [List.length_append]
        omega
      · simp only [latest, awaited, List.length_drop, List.length_append, List.map_cons,
          List.sum_cons, Attempt.due, List.length_cons, List.length_nil]
        omega
      · intro other member
        simp only [latest]
        rw [latest_append earlier_le, List.mem_append]
        cases member with
        | head => exact .inr List.mem_cons_self
        | tail _ member =>
            exact .inl (first_mem other (opening.symm.subset (List.mem_cons_of_mem _ member)))
  | @finish others first started failure givenUp answer after starting startable finished =>
      obtain ⟨none, flag, pending⟩ := orderly.of_underway starting rfl
      have room := opening_le flag
      have fewer := startable.atMost
      have still := (countP_abandoning givenUp others).trans none
      have absent : ∀ first, .starting first ∈ givenUp.map Attempt.abandoning ++ others →
          first ∈ scene.latest := fun first member => absurd member (starting_not_mem still first)
      rw [sum_due starting, Attempt.due] at latest_le
      have finish := Pool.finish_finishConnect scene.pool first started failure
      rw [finished] at finish
      cases finish with
      | destroyed invalid =>
          refine ⟨earlier_le, ?_, fun opening => absurd opening Bool.false_ne_true, available_le,
            absent⟩
          simp only [latest, awaited, sum_due_eq_zero still, List.length_drop]
          omega
      | failed valid =>
          refine ⟨earlier_le, ?_, fun opening => absurd opening Bool.false_ne_true, ?_, absent⟩
          · simp only [latest, awaited, sum_due_eq_zero still, List.length_drop,
              Pool.pending_record, Pool.capacity_record]
            omega
          · simp only [Pool.available, Pool.idle_record, Pool.pending_record,
              Pool.capacity_record, pending, List.length_cons, List.length_nil]
            omega
      | started valid =>
          refine ⟨earlier_le, ?_, fun opening => absurd opening Bool.false_ne_true, ?_, absent⟩
          · simp only [latest, awaited, sum_due_eq_zero still, List.length_drop,
              Pool.pending_record, Pool.capacity_record]
            omega
          · simp only [Pool.available, Pool.idle_record, Pool.pending_record,
              Pool.capacity_record, List.length_cons]
            omega
  | abandon abandoning =>
      rw [sum_due abandoning] at latest_le
      refine ⟨earlier_le, ?_, opening_le, available_le, ?_⟩
      · simp only [latest, awaited, List.length_drop]
        omega
      · intro first member
        exact first_mem first (abandoning.symm.subset (List.mem_cons_of_mem _ member))
  | @poll found polled looked =>
      have fewer := Pool.length_pending_settle looked
      have idle := congrArg List.length (Pool.idle_settle found scene.pool)
      rw [List.length_append, List.length_reverse] at idle
      refine ⟨?_, ?_, ?_, ?_, ?_⟩
      · simp only [List.length_append]
        omega
      · simp only [latest, awaited, List.length_drop, List.length_append, Pool.capacity_settle]
        omega
      · intro opening
        rw [Pool.openingFirst_settle, ((Pool.isPolled_iff _).mp polled).2] at opening
        cases opening
      · simp only [Pool.available, idle, Pool.capacity_settle]
        omega
      · intro first member
        simp only [latest]
        rw [latest_append earlier_le]
        exact List.mem_append_left _ (first_mem first member)
  | pollNothing => exact rationed
  | acquire caller acquired =>
      have acquisition := Pool.acquisition_acquire scene.pool
      rw [acquired] at acquisition
      cases acquisition with
      | taken idle =>
          rw [idle, List.length_cons] at opening_le available_le
          refine ⟨earlier_le, rationed.latest_le, ?_, ?_, first_mem⟩
          · intro opening
            exact Nat.le_of_succ_le (opening_le opening)
          · simp only [Pool.available, Pool.idle_record, Pool.pending_record,
              Pool.capacity_record]
            omega
      | exhausted idle =>
          exact ⟨earlier_le, rationed.latest_le, opening_le, available_le, first_mem⟩
  | @release others caller connection givenUp after lent released =>
      have returned := Pool.return_release connection scene.pool
      rw [released] at returned
      cases returned with
      | destroyed invalid =>
          exact ⟨earlier_le, rationed.latest_le, opening_le, available_le, first_mem⟩
      | full valid full =>
          exact ⟨earlier_le, rationed.latest_le, opening_le, available_le, first_mem⟩
      | kept valid room =>
          -- The room is checked, and what is pending is bounded by the ration alone.
          refine ⟨earlier_le, rationed.latest_le, fun _ => room, ?_, first_mem⟩
          simp only [Pool.available, Pool.idle_record, Pool.pending_record, Pool.capacity_record,
            List.length_cons]
          omega
  | discard => exact ⟨earlier_le, rationed.latest_le, opening_le, available_le, first_mem⟩
  | destroy => exact rationed.destroyed
  | drop => exact rationed.destroyed

end Rationed

theorem Run.rationed {pool : Pool Connection Handshake} (run : Run (initial pool) history scene)
    (made : pool.Made capacity) : scene.Rationed :=
  run.keeps_of_made made Rationed (fun _ orderly step rationed => rationed.step orderly step)
    (.initial made)

/-! ## Returns that are to blame -/

/-- Whether an event gives back a connection of an earlier attempt while a later one goes on. -/
def StrayReturn (scene : Scene Caller Connection Handshake) :
    Event Caller Connection Handshake → Prop
  | .release _ connection => scene.pool.status = .connecting ∧ connection ∈ scene.former
  | _ => False

/-- What is idle came of the latest attempt, or no attempt goes on and the capacity is kept. -/
def Timely (capacity : Nat) (scene : Scene Caller Connection Handshake) : Prop :=
  scene.pool.idle ⊆ scene.latest ∨
    scene.pool.status ≠ .connecting ∧ scene.pool.available ≤ capacity

/-- A scene is as timely as the one before if nothing came to the idle connections. -/
theorem Timely.of_fewer (timely : scene.Timely capacity)
    (idle : next.pool.idle.Sublist scene.pool.idle) (latest : scene.latest ⊆ next.latest)
    (status : next.pool.status = .connecting → scene.pool.status = .connecting) :
    next.Timely capacity := by
  rcases timely with own | ⟨still, bounded⟩
  · exact .inl (List.Subset.trans (List.Subset.trans idle.subset own) latest)
  · exact .inr ⟨fun connecting => still (status connecting),
      Nat.le_trans idle.length_le bounded⟩

theorem Timely.idle_subset (timely : scene.Timely capacity)
    (connecting : scene.pool.status = .connecting) : scene.pool.idle ⊆ scene.latest := by
  rcases timely with own | ⟨still, _⟩
  · exact own
  · exact absurd connecting still

theorem Timely.destroyed (timely : scene.Timely capacity) :
    scene.destroyed.Timely capacity := by
  have destruction := Pool.destruction_destroy scene.pool
  rw [Scene.destroyed]
  generalize scene.pool.destroy = outcome at destruction ⊢
  cases destruction with
  | repeated invalid => exact timely
  | first valid => exact .inl (List.nil_subset _)

theorem Timely.step (timely : scene.Timely capacity) (orderly : Orderly capacity scene)
    (rationed : scene.Rationed) (conserved : scene.Conserved) (step : Step scene event next)
    (unstray : ¬scene.StrayReturn event) : next.Timely capacity := by
  have kept (next : Scene Caller Connection Handshake) (idle : next.pool.idle = scene.pool.idle)
      (status : next.pool.status = scene.pool.status) (latest : next.latest = scene.latest) :
      next.Timely capacity :=
    timely.of_fewer (idle ▸ .refl _) (latest ▸ List.Subset.refl _) (status ▸ id)
  cases step with
  | answer => exact timely
  | begin => exact .inl (List.nil_subset _)
  | failFirst failure opening =>
      refine timely.of_fewer (.refl _) (List.Subset.refl _) ?_
      intro connecting
      simp only [Pool.failFirst] at connecting
      split at connecting <;> cases connecting
  | openFirst first opening =>
      refine timely.of_fewer (.refl _) ?_ id
      change scene.latest ⊆ (scene.handed ++ [first]).drop scene.earlier
      rw [latest_append rationed.earlier_le]
      exact List.subset_append_left ..
  | @finish others first started failure givenUp answer after starting startable finished =>
      have finish := Pool.finish_finishConnect scene.pool first started failure
      rw [finished] at finish
      have opening := (orderly.of_underway starting rfl).2.1
      have brought : scene.pool.status ≠ .invalid → first :: scene.pool.idle ⊆ scene.latest := by
        intro valid
        have connecting := (orderly.status_of_opening opening).resolve_right valid
        rw [List.cons_subset]
        exact ⟨rationed.first_mem first (starting.symm.subset List.mem_cons_self),
          timely.idle_subset connecting⟩
      cases finish with
      | destroyed invalid => exact kept _ rfl rfl rfl
      | failed valid => exact .inl (brought valid)
      | started valid => exact .inl (brought valid)
  | abandon => exact kept _ rfl rfl rfl
  | @poll found polled looked =>
      have own := timely.idle_subset ((Pool.isPolled_iff _).mp polled).1
      left
      change (Pool.settle found scene.pool).idle ⊆ (scene.handed ++ _).drop scene.earlier
      rw [Pool.idle_settle, latest_append rationed.earlier_le, List.append_subset]
      exact ⟨fun connection member => List.mem_append_right _ (List.mem_reverse.mp member),
        List.subset_append_of_subset_left _ own⟩
  | pollNothing => exact timely
  | acquire caller acquired =>
      have acquisition := Pool.acquisition_acquire scene.pool
      rw [acquired] at acquisition
      cases acquisition with
      | taken idle =>
          refine timely.of_fewer ?_ (List.Subset.refl _) id
          rw [idle]
          exact List.sublist_cons_self ..
      | exhausted idle => exact kept _ rfl rfl rfl
  | @release others caller connection givenUp after lent released =>
      have returned := Pool.return_release connection scene.pool
      rw [released] at returned
      cases returned with
      | destroyed invalid => exact kept _ rfl rfl rfl
      | full valid full => exact kept _ rfl rfl rfl
      | kept valid room =>
          by_cases connecting : scene.pool.status = .connecting
          · left
            change connection :: scene.pool.idle ⊆ scene.latest
            have handed : connection ∈ scene.handed := by
              apply conserved.subset
              apply mem_placed.mpr
              exact ⟨.out caller, mem_places_out.mpr (.inl (lent.symm.subset List.mem_cons_self))⟩
            rw [← former_append_latest, List.mem_append] at handed
            rw [List.cons_subset]
            refine ⟨handed.resolve_left fun former => unstray ⟨connecting, former⟩, ?_⟩
            exact timely.idle_subset connecting
          · -- Nothing more is coming, so that the check of the room is enough.
            rw [orderly.capacity_eq] at room
            exact .inr ⟨connecting, room⟩
  | discard => exact kept _ rfl rfl rfl
  | destroy => exact timely.destroyed
  | drop => exact timely.destroyed

theorem Run.timely {pool : Pool Connection Handshake} (run : Run (initial pool) history scene)
    (made : pool.Made capacity) (unstray : ∀ entry ∈ history, ¬entry.1.StrayReturn entry.2) :
    scene.Timely capacity := by
  have all : scene.Rationed ∧ scene.Conserved ∧ scene.Timely capacity := by
    apply run.keeps_of_made made
      (fun scene => scene.Rationed ∧ scene.Conserved ∧ scene.Timely capacity)
    · intro scene next event member orderly step before
      obtain ⟨rationed, conserved, timely⟩ := before
      exact ⟨rationed.step orderly step, conserved.step step,
        timely.step orderly rationed conserved step (unstray _ member)⟩
    · refine ⟨.initial made, .initial made, .inl ?_⟩
      change pool.idle ⊆ _
      rw [made.unused.idle_eq]
      exact List.nil_subset _
  exact all.2.2

/-- Without repetitions, no more is idle than the latest attempt brought if all of it came of that
attempt. -/
theorem Timely.available_le (timely : scene.Timely capacity) (orderly : Orderly capacity scene)
    (rationed : scene.Rationed) (idle : scene.pool.idle.Nodup) :
    scene.pool.available ≤ capacity := by
  rcases timely with own | ⟨_, bounded⟩
  · have fewer := (List.subperm_of_subset idle own).length_le
    have brought := rationed.latest_le
    rw [orderly.capacity_eq] at brought
    exact Nat.le_trans fewer (Nat.le_trans (Nat.le_add_right _ _) brought)
  · exact bounded

/-! ## Strays -/

section

variable [DecidableEq Connection]

/-- How many idle connections are left from an earlier attempt. -/
def strays (scene : Scene Caller Connection Handshake) : Nat :=
  scene.pool.idle.countP (· ∈ scene.former)

/-- How many connections of the latest attempt are not idle: being brought, out or closed, or not
handed over. -/
def away (scene : Scene Caller Connection Handshake) : Nat :=
  (scene.held ++ (scene.lent.map Prod.snd ++ scene.refused.map Prod.snd) ++
      scene.closed).countP (· ∈ scene.latest) +
    (scene.pool.capacity - scene.latest.length)

/-- The capacity counts every connection of the latest attempt, idle or away, and no stray. -/
theorem available_add_away (conserved : scene.Conserved) (rationed : scene.Rationed)
    (distinct : scene.handed.Nodup) :
    scene.pool.available + scene.away = scene.pool.capacity + scene.strays := by
  have apart : ∀ connection ∈ scene.former, connection ∉ scene.latest := by
    rw [← former_append_latest, List.nodup_append'] at distinct
    exact fun connection former latest => distinct.2.2 former latest
  have latest : scene.handed.countP (· ∈ scene.latest) = scene.latest.length := by
    rw [← former_append_latest, List.countP_append, List.countP_eq_zero.mpr, Nat.zero_add,
      List.countP_eq_length.mpr]
    · exact fun connection latest => decide_eq_true latest
    · exact fun connection former => by simpa using apart connection former
  have strays : scene.strays = scene.pool.idle.countP fun connection =>
      ¬decide (connection ∈ scene.latest) := by
    apply List.countP_congr
    intro connection idle
    have handed := conserved.subset (mem_placed.mpr ⟨.idle, mem_places_idle.mpr idle⟩)
    rw [← former_append_latest, List.mem_append] at handed
    simp only [decide_eq_true_eq]
    exact ⟨apart connection, handed.resolve_right⟩
  have idle := List.length_eq_countP_add_countP (l := scene.pool.idle) (· ∈ scene.latest)
  have placed := conserved.countP_eq (· ∈ scene.latest)
  have brought := rationed.latest_le
  rw [placed_eq, latest] at placed
  simp only [away, Pool.available, strays, List.countP_append] at placed ⊢
  omega

/-- How far a pool can exceed its capacity.  In every scene that a pool can come to, the idle
connections are at most as many as its capacity exactly if no more of them are left from earlier
attempts than connections of the latest one are away.  They are never more than twice the capacity,
and never more than the capacity as long as no connection of an earlier attempt is given back while
a later one goes on. -/
theorem capacity_holds_iff_strays_have_room {pool : Pool Connection Handshake}
    (made : pool.Made capacity) (run : Run (initial pool) history scene)
    (distinct : scene.handed.Nodup) :
    (scene.pool.available ≤ capacity ↔ scene.strays ≤ scene.away) ∧
      scene.pool.available ≤ 2 * capacity ∧
      ((∀ entry ∈ history, ¬entry.1.StrayReturn entry.2) → scene.pool.available ≤ capacity) := by
  have orderly := run.orderly made
  have rationed := run.rationed made
  have conserved := run.conserved made
  have balance := available_add_away conserved rationed distinct
  have twice := rationed.available_le
  rw [orderly.capacity_eq] at balance twice
  refine ⟨?_, ?_, ?_⟩
  · omega
  · omega
  · intro unstray
    have idle : scene.pool.idle.Nodup := by
      have placed := conserved.nodup_iff.mpr distinct
      rw [placed_eq] at placed
      exact placed.of_append_left.of_append_left.of_append_right
    exact (run.timely made unstray).available_le orderly rationed idle

end

/-- An attempt fails with its first connection lent, and so is the first connection of the next
attempt.  The stray that comes back before the handshake is ready has room. -/
theorem capacity_holds_iff_strays_have_room_for_one :
    ∃ (history : History Nat Nat Unit) (scene : Scene Nat Nat Unit),
      poolForTwo.Made 2 ∧ Run (initial poolForTwo) history scene ∧ scene.handed.Nodup ∧
        scene.strays = 1 ∧ scene.away = 1 ∧ scene.pool.available ≤ 2 := by
  obtain ⟨history, waiting⟩ := exists_run_waiting
  obtain ⟨more, scene, run, handed, strays, away⟩ : ∃ more scene,
      Run (initial poolForTwo) (history ++ more) scene ∧
        scene.handed = [10, 11, 12] ∧ scene.strays = 1 ∧ scene.away = 1 :=
    ⟨_, _, waiting.append <| .cons (.acquire 8 rfl) <| .cons (.release (.swap ..) rfl) <|
      .cons (.poll [.ready 12] rfl rfl) <| .nil _, rfl, rfl, rfl⟩
  have distinct : scene.handed.Nodup := by
    rw [handed]
    decide
  obtain ⟨kept, _⟩ := capacity_holds_iff_strays_have_room poolForTwo_made run distinct
  exact ⟨_, scene, poolForTwo_made, run, distinct, strays, away,
    kept.mpr (Nat.le_of_eq (strays.trans away.symm))⟩

/-- A pool for two connections can have three idle: a connection left from a failed attempt comes
back while the handshake of the next one is pending, and then the handshake is found ready. -/
theorem available_exceeds_capacity_after_reconnecting :
    ∃ (history : History Nat Nat Unit) (scene : Scene Nat Nat Unit),
      poolForTwo.Made 2 ∧ Run (initial poolForTwo) history scene ∧ scene.handed.Nodup ∧
        scene.pool.capacity = 2 ∧ scene.pool.available = 3 := by
  obtain ⟨history, waiting⟩ := exists_run_waiting
  exact ⟨_, _, poolForTwo_made, waiting.append <| .cons (.release (.refl _) rfl) <|
    .cons (.poll [.ready 12] rfl rfl) <| .nil _, (by decide : [10, 11, 12].Nodup), rfl, rfl⟩

end Scene

end BankLedger.Database
