import Mathlib.Data.List.Nodup
import Mathlib.Data.List.Range
import BankLedger.Database.Pool.Operations
import BankLedger.Proofs.Execution
import BankLedger.Proofs.Database.Transition

/-!
# Polling

A pool is connected and then polled until its handshakes have an outcome.  This module says how an
attempt to connect can go when nobody else acts on the pool, over any backend, and what polling a
number of times does.  To tell handshakes apart they are numbered in the order in which they were
started, and every look at one is noted: after a look that found a handshake over, nobody looks at
it again.
-/

namespace BankLedger.Database

variable {m : Type → Type} [Monad m] {World Connection Handshake : Type}

namespace Pool

/-- Polls a pool a number of times. -/
def pollTimes (backend : Backend m Connection Handshake) :
    Nat → PoolAction m Connection Handshake Unit
  | 0 => return ()
  | polls + 1 => do
      let _ ← poll backend
      pollTimes backend polls

/-- Connects a pool and then polls it a number of times. -/
def connectAndPoll (backend : Backend m Connection Handshake) (polls : Nat) :
    PoolAction m Connection Handshake (Except PoolFailure Unit) := do
  let answer ← connect backend
  pollTimes backend polls
  return answer

variable (backend : Backend m Connection Handshake) (execution : Execution m World)
variable (pool : Pool Connection Handshake) (world : World)

/-! ## Connecting -/

/-- The world in which an attempt opens the first connection: what was idle is closed. -/
def cleared : World :=
  (execution.run (backend.closeAll pool.idle.reverse) world).2

/-- How connecting can go if nobody else acts on the pool. -/
inductive Connecting : Except PoolFailure Unit × Pool Connection Handshake × World → Prop
  | answered {answer : Except PoolFailure Unit} (known : pool.connectAnswer? = some answer) :
      Connecting (answer, pool, world)
  | unopened {failure : ConnectionFailure} {after : World} (unanswered : pool.connectAnswer? = none)
      (opened : execution.run (backend.connect pool.credentials)
        (cleared backend execution pool world) = (.error failure, after)) :
      Connecting (.error (.connection failure), pool.beginConnect.2.failFirst, after)
  | unstarted {first : Connection} {started : List Handshake} {failure : ConnectionFailure}
      {before after : World} (unanswered : pool.connectAnswer? = none)
      (opened : execution.run (backend.connect pool.credentials)
        (cleared backend execution pool world) = (.ok first, before))
      (starts : execution.run
        (backend.startHandshakes pool.credentials (pool.capacity - 1)) before =
          ((started, some failure), after)) :
      Connecting (.error (.connection failure),
        { pool with
          idle := [first]
          status := .failedConnection
          openingFirst := false }.record, after)
  | started {first : Connection} {started : List Handshake} {before after : World}
      (unanswered : pool.connectAnswer? = none)
      (opened : execution.run (backend.connect pool.credentials)
        (cleared backend execution pool world) = (.ok first, before))
      (starts : execution.run
        (backend.startHandshakes pool.credentials (pool.capacity - 1)) before =
          ((started, none), after)) :
      Connecting (.ok (),
        { pool with
          idle := [first]
          pending := started
          status := if started.isEmpty then .connected else .connecting
          openingFirst := false }.record, after)

theorem connecting_connect : Connecting backend execution pool world
    ((execution.withState _).run (connect backend) (pool, world)) := by
  cases known : pool.connectAnswer? with
  | some answer =>
      simp only [connect, connectWith, Execution.run_bind, Execution.run_get, known,
        Execution.run_pure]
      exact .answered known
  | none =>
      have credentials_eq : pool.beginConnect.2.credentials = pool.credentials := rfl
      simp only [connect, connectWith, changing, Execution.run_bind, Execution.run_get, known,
        Execution.run_modifyGet, Execution.run_liftM, credentials_eq]
      have opening : (execution.run (backend.closeAll pool.beginConnect.1) world).2 =
          cleared backend execution pool world := rfl
      rw [opening]
      cases opened : execution.run (backend.connect pool.credentials)
          (cleared backend execution pool world) with
      | mk result before =>
        cases result with
        | error failure =>
            simp only [Execution.run_bind, Execution.run_modify, Execution.run_pure]
            exact .unopened known opened
        | ok first =>
            simp only [Execution.run_bind, Execution.run_liftM]
            cases starts : execution.run
                (backend.startHandshakes pool.credentials (pool.capacity - 1)) before with
            | mk result after =>
              obtain ⟨started, failure⟩ := result
              have finish := finish_finishConnect pool.beginConnect.2 first started failure
              simp only [Execution.run_modifyGet, Execution.run_liftM, Execution.run_pure]
              generalize pool.beginConnect.2.finishConnect first started failure = finished
                at finish
              cases finish with
              | destroyed invalid => cases invalid
              | failed valid =>
                  simp only [Backend.closeAll, Execution.run_pure]
                  exact .unstarted known opened starts
              | started valid =>
                  simp only [Backend.closeAll, Execution.run_pure]
                  exact .started known opened starts

/-- A successful attempt does not depend on the handshakes that were pending before. -/
theorem run_connect_of_connected (unanswered : pool.connectAnswer? = none)
    (connected : ((execution.withState _).run (connect backend) (pool, world)).1 = .ok ())
    (pending : List Handshake) :
    (execution.withState _).run (connect backend) ({ pool with pending := pending }, world) =
      (execution.withState _).run (connect backend) (pool, world) := by
  have before := connecting_connect backend execution pool world
  have after := connecting_connect backend execution { pool with pending := pending } world
  generalize (execution.withState _).run (connect backend) (pool, world) = outcome
    at before connected ⊢
  generalize (execution.withState _).run (connect backend)
    ({ pool with pending := pending }, world) = other at after ⊢
  cases before with
  | answered known => cases unanswered.symm.trans known
  | unopened => cases connected
  | unstarted => cases connected
  | started _ opened starts =>
      cases after with
      | answered known => cases unanswered.symm.trans known
      | unopened _ failed => cases opened.symm.trans failed
      | unstarted _ openedToo failed =>
          cases opened.symm.trans openedToo
          cases starts.symm.trans failed
      | started _ openedToo startsToo =>
          cases opened.symm.trans openedToo
          cases starts.symm.trans startsToo
          rfl

/-! ## Polling a number of times -/

variable {pool}

theorem run_poll_of_unpolled (unpolled : pool.isPolled = false) :
    (execution.withState _).run (poll backend) (pool, world) = (pool.status, pool, world) := by
  simp only [poll, Execution.run_bind, Execution.run_get, unpolled, Bool.false_eq_true, if_false,
    Execution.run_pure]

theorem run_poll_of_polled (polled : pool.isPolled = true) :
    (execution.withState _).run (poll backend) (pool, world) =
      let looks := execution.run (pool.pending.mapM backend.pollHandshake) world
      ((settle looks.1 pool).status, settle looks.1 pool, looks.2) := by
  simp only [poll, Execution.run_bind, Execution.run_get, polled, if_true, Execution.run_liftM,
    Execution.run_modify, Execution.run_pure]

theorem run_pollTimes_succ (polls : Nat) (pair : Pool Connection Handshake × World) :
    (execution.withState _).run (pollTimes backend (polls + 1)) pair =
      (execution.withState _).run (pollTimes backend polls)
        ((execution.withState _).run (poll backend) pair).2 := by
  simp only [pollTimes, Execution.run_bind]

/-- Polling does nothing any more once a pool is connected or has failed to. -/
theorem run_pollTimes_of_unpolled (polls : Nat) (unpolled : pool.isPolled = false) :
    (execution.withState _).run (pollTimes backend polls) (pool, world) = ((), pool, world) := by
  induction polls with
  | zero => simp only [pollTimes, Execution.run_pure]
  | succ polls inductionHypothesis =>
      rw [run_pollTimes_succ, run_poll_of_unpolled _ _ _ unpolled, inductionHypothesis]

theorem run_connectAndPoll (polls : Nat) (pair : Pool Connection Handshake × World) :
    (execution.withState _).run (connectAndPoll backend polls) pair =
      let connected := (execution.withState _).run (connect backend) pair
      (connected.1, ((execution.withState _).run (pollTimes backend polls) connected.2).2) := by
  simp only [connectAndPoll, Execution.run_bind, Execution.run_pure]

end Pool

/-! ## Numbered handshakes -/

/-- A look at a numbered handshake, and whether it found the handshake over. -/
structure Look where
  handshake : Nat
  foundOver : Bool

/-- The number of handshakes that were started, and the looks at them, oldest first. -/
structure Watch where
  started : Nat
  looks : List Look

/-- Whether a handshake that a look found over was never looked at again. -/
def Watch.Ends (watch : Watch) : Prop :=
  watch.looks.Pairwise fun earlier later =>
    earlier.foundOver = true → later.handshake ≠ earlier.handshake

/-- What a look found, with the number of a handshake that is still under way. -/
def Progress.numbered (number : Nat) :
    Progress Connection Handshake → Progress Connection (Nat × Handshake)
  | .pending handshake => .pending (number, handshake)
  | .ready connection => .ready connection
  | .failed failure => .failed failure

/-- Whether a look found a handshake over. -/
def Progress.isOver : Progress Connection Handshake → Bool
  | .pending _ => false
  | .ready _ | .failed _ => true

namespace Backend

/-- The same backend with its handshakes numbered, and with a note of the looks at them. -/
def numbered (backend : Backend m Connection Handshake) :
    Backend (StateT Watch m) Connection (Nat × Handshake) where
  vendor := backend.vendor
  connectionSize := backend.connectionSize
  connect credentials := liftM (backend.connect credentials)
  startHandshake credentials := do
    match ← liftM (backend.startHandshake credentials) with
    | .error failure => return .error failure
    | .ok handshake =>
        let number ← modifyGet fun watch =>
          (watch.started, { watch with started := watch.started + 1 })
        return .ok (number, handshake)
  pollHandshake numbered := do
    let progress ← liftM (backend.pollHandshake numbered.2)
    modify fun watch => { watch with looks := watch.looks ++ [⟨numbered.1, progress.isOver⟩] }
    return progress.numbered numbered.1
  execute connection query parameters := liftM (backend.execute connection query parameters)
  close connection := liftM (backend.close connection)

variable (backend : Backend m Connection Handshake) (execution : Execution m World)
variable (watch : Watch) (world : World)

theorem run_numbered_startHandshake (credentials : Credentials) :
    (execution.withState _).run (backend.numbered.startHandshake credentials) (watch, world) =
      match execution.run (backend.startHandshake credentials) world with
      | (.error failure, after) => (.error failure, watch, after)
      | (.ok handshake, after) =>
          (.ok (watch.started, handshake), { watch with started := watch.started + 1 }, after) := by
  simp only [Backend.numbered, Execution.run_bind, Execution.run_liftM]
  cases execution.run (backend.startHandshake credentials) world with
  | mk result after =>
    cases result with
    | error failure => simp only [Execution.run_pure]
    | ok handshake =>
        simp only [Execution.run_bind, Execution.run_modifyGet, Execution.run_pure]

theorem run_numbered_pollHandshake (numbered : Nat × Handshake) :
    (execution.withState _).run (backend.numbered.pollHandshake numbered) (watch, world) =
      let progress := execution.run (backend.pollHandshake numbered.2) world
      (progress.1.numbered numbered.1,
        { watch with looks := watch.looks ++ [⟨numbered.1, progress.1.isOver⟩] },
        progress.2) := by
  simp only [Backend.numbered, Execution.run_bind, Execution.run_liftM, Execution.run_modify,
    Execution.run_pure]

theorem run_numbered_connect (credentials : Credentials) :
    (execution.withState _).run (backend.numbered.connect credentials) (watch, world) =
      let opened := execution.run (backend.connect credentials) world
      (opened.1, watch, opened.2) :=
  execution.run_liftM ..

theorem run_numbered_closeAll (connections : List Connection) :
    (execution.withState _).run (backend.numbered.closeAll connections) (watch, world) =
      ((), watch, (execution.run (backend.closeAll connections) world).2) := by
  induction connections generalizing world with
  | nil => simp only [closeAll, Execution.run_pure]
  | cons connection others inductionHypothesis =>
      simp only [closeAll, Execution.run_bind, Backend.numbered, Execution.run_liftM] at *
      exact inductionHypothesis _

/-- Handshakes get numbers one after the other, and starting them is no look. -/
theorem numbered_startHandshakes (credentials : Credentials) (count : Nat) :
    let outcome := (execution.withState _).run
      (backend.numbered.startHandshakes credentials count) (watch, world)
    outcome.1.1.map Prod.fst = List.range' watch.started outcome.1.1.length ∧
      outcome.2.1.looks = watch.looks := by
  induction count generalizing watch world with
  | zero =>
      rw [startHandshakes, Execution.run_pure]
      exact ⟨rfl, rfl⟩
  | succ count inductionHypothesis =>
      simp only [startHandshakes, Execution.run_bind, run_numbered_startHandshake]
      cases execution.run (backend.startHandshake credentials) world with
      | mk result after =>
        cases result with
        | error failure =>
            simp only [Execution.run_pure]
            exact ⟨rfl, trivial⟩
        | ok handshake =>
            simp only [Execution.run_bind, Execution.run_pure]
            obtain ⟨numbers, looks⟩ :=
              inductionHypothesis { watch with started := watch.started + 1 } after
            refine ⟨?_, looks⟩
            rw [List.map_cons, numbers, List.length_cons, List.range'_succ]

/-- A round of looks notes every handshake once, and those still under way are the ones that were
not found over. -/
theorem numbered_pollHandshakes (pending : List (Nat × Handshake)) :
    let outcome := (execution.withState _).run
      (pending.mapM backend.numbered.pollHandshake) (watch, world)
    ∃ looks, outcome.2.1.looks = watch.looks ++ looks ∧
      looks.map Look.handshake = pending.map Prod.fst ∧
      (Pool.stillPending outcome.1).map Prod.fst =
        (looks.filter (!·.foundOver)).map Look.handshake := by
  induction pending generalizing watch world with
  | nil =>
      rw [Execution.run_mapM_nil]
      exact ⟨[], (List.append_nil _).symm, rfl, rfl⟩
  | cons numbered others inductionHypothesis =>
      rw [Execution.run_mapM_cons, run_numbered_pollHandshake]
      generalize execution.run (backend.pollHandshake numbered.2) world = progress
      obtain ⟨progress, after⟩ := progress
      obtain ⟨looks, noted, numbers, still⟩ := inductionHypothesis
        { watch with looks := watch.looks ++ [⟨numbered.1, progress.isOver⟩] } after
      refine ⟨⟨numbered.1, progress.isOver⟩ :: looks, ?_, ?_, ?_⟩
      · simpa only [List.append_assoc, List.singleton_append] using noted
      · rw [List.map_cons, List.map_cons, numbers]
      · rw [Pool.stillPending_cons, List.map_append, still]
        cases progress <;> rfl

end Backend

/-- The handshakes that are pending are told apart by their numbers, and no look has found one of
them over. -/
structure Watch.Fresh (watch : Watch) (numbers : List Nat) : Prop where
  distinct : numbers.Nodup
  ends : watch.Ends
  unfinished : ∀ look ∈ watch.looks, look.foundOver = true → look.handshake ∉ numbers

namespace Watch.Fresh

variable {watch after : Watch} {numbers : List Nat}

theorem of_unlooked (unlooked : watch.looks = []) (distinct : numbers.Nodup) :
    watch.Fresh numbers := by
  refine ⟨distinct, ?_, ?_⟩
  · rw [Watch.Ends, unlooked]
    exact .nil
  · rw [unlooked]
    exact fun look member => absurd member List.not_mem_nil

theorem nil (fresh : watch.Fresh numbers) : watch.Fresh [] :=
  ⟨.nil, fresh.ends, fun _ _ _ => List.not_mem_nil⟩

/-- A round of looks at all pending handshakes leaves those pending that it did not find over. -/
theorem round (fresh : watch.Fresh numbers) {looks : List Look}
    (noted : after.looks = watch.looks ++ looks) (all : looks.map Look.handshake = numbers) :
    after.Fresh ((looks.filter (!·.foundOver)).map Look.handshake) := by
  obtain ⟨distinct, ends, unfinished⟩ := fresh
  rw [← all] at distinct unfinished
  have apart : looks.Pairwise fun earlier later => later.handshake ≠ earlier.handshake :=
    (List.pairwise_map.mp distinct).imp fun differ same => differ same.symm
  refine ⟨distinct.sublist (List.filter_sublist.map _), ?_, ?_⟩
  · rw [Watch.Ends, noted, List.pairwise_append]
    refine ⟨ends, ?_, ?_⟩
    · apply apart.imp
      intro earlier later differ _
      exact differ
    · intro earlier before later now finished same
      exact unfinished earlier before finished (same ▸ List.mem_map_of_mem now)
  · intro look member finished still
    obtain ⟨other, kept, same⟩ := List.mem_map.mp still
    obtain ⟨now, underWay⟩ := List.mem_filter.mp kept
    rw [noted, List.mem_append] at member
    rcases member with before | here
    · exact unfinished look before finished (same ▸ List.mem_map_of_mem now)
    · -- Both looks are of this round, in which no handshake is looked at twice.
      have one : other = look := List.inj_on_of_nodup_map distinct now here same
      rw [one, finished] at underWay
      cases underWay

end Watch.Fresh

namespace Pool

variable (backend : Backend m Connection Handshake) (execution : Execution m World)
variable {pool : Pool Connection (Nat × Handshake)}

theorem fresh_settle {watch after : Watch} (fresh : watch.Fresh (pool.pending.map Prod.fst))
    {found : List (Progress Connection (Nat × Handshake))} {looks : List Look}
    (noted : after.looks = watch.looks ++ looks)
    (all : looks.map Look.handshake = pool.pending.map Prod.fst)
    (still : (stillPending found).map Prod.fst = (looks.filter (!·.foundOver)).map Look.handshake) :
    after.Fresh ((settle found pool).pending.map Prod.fst) := by
  have round := fresh.round noted all
  have settling := settling_settle found pool
  generalize settle found pool = settled at settling
  cases settling with
  | failed => exact round.nil
  | connected => exact round.nil
  | waiting =>
      rw [pending_record]
      exact still ▸ round

theorem fresh_pollTimes (polls : Nat) (watch : Watch) (world : World)
    (fresh : watch.Fresh (pool.pending.map Prod.fst)) :
    let outcome := ((execution.withState _).withState _).run
      (pollTimes backend.numbered polls) (pool, watch, world)
    outcome.2.2.1.Fresh (outcome.2.1.pending.map Prod.fst) := by
  induction polls generalizing pool watch world with
  | zero =>
      simp only [pollTimes, Execution.run_pure]
      exact fresh
  | succ polls inductionHypothesis =>
      rw [run_pollTimes_succ]
      cases polled : pool.isPolled with
      | false =>
          rw [run_poll_of_unpolled _ _ _ polled]
          exact inductionHypothesis watch world fresh
      | true =>
          rw [run_poll_of_polled _ _ _ polled]
          obtain ⟨looks, noted, all, still⟩ :=
            backend.numbered_pollHandshakes execution watch world pool.pending
          exact inductionHypothesis _ _ (fresh_settle fresh noted all still)

/-- Nobody looks again at a handshake that is over.  Whatever the backend does, connecting a pool
without pending handshakes and polling it any number of times looks at no handshake after a look
found it ready or failed. -/
theorem ends_connectAndPoll (polls : Nat) (none : pool.pending = []) (world : World) :
    (((execution.withState _).withState _).run
      (connectAndPoll backend.numbered polls) (pool, ⟨0, []⟩, world)).2.2.1.Ends := by
  rw [run_connectAndPoll]
  have connecting := connecting_connect backend.numbered (execution.withState _) pool
    (⟨0, []⟩, world)
  generalize ((execution.withState _).withState _).run (connect backend.numbered)
    (pool, (⟨0, []⟩ : Watch), world) = outcome at connecting
  have unlooked {result : Except ConnectionFailure Connection} {later : Watch × World}
      (opened : (execution.withState _).run (backend.numbered.connect pool.credentials)
        (cleared backend.numbered (execution.withState _) pool (⟨0, []⟩, world)) =
          (result, later)) : later.1.looks = [] := by
    rw [cleared, Backend.run_numbered_closeAll, Backend.run_numbered_connect] at opened
    cases opened
    rfl
  have fresh : outcome.2.2.1.Fresh (outcome.2.1.pending.map Prod.fst) := by
    cases connecting with
    | answered =>
        rw [none]
        exact .of_unlooked rfl .nil
    | unopened unanswered opened =>
        simp only [failFirst, beginConnect, none]
        exact .of_unlooked (unlooked opened) .nil
    | @unstarted first started failure before after unanswered opened starts =>
        obtain ⟨_, looks⟩ := backend.numbered_startHandshakes execution before.1 before.2
          pool.credentials (pool.capacity - 1)
        rw [starts] at looks
        rw [pending_record, none]
        exact .of_unlooked (looks.trans (unlooked opened)) .nil
    | @started first started before after unanswered opened starts =>
        obtain ⟨numbers, looks⟩ := backend.numbered_startHandshakes execution before.1 before.2
          pool.credentials (pool.capacity - 1)
        rw [starts] at numbers looks
        rw [pending_record, numbers]
        exact .of_unlooked (looks.trans (unlooked opened)) List.nodup_range'
  exact (fresh_pollTimes backend execution polls _ _ fresh).ends

end Pool

/-! ## What numbering leaves as it is -/

/-- What a look found, without the number. -/
def Progress.unnumbered : Progress Connection (Nat × Handshake) → Progress Connection Handshake
  | .pending (_, handshake) => .pending handshake
  | .ready connection => .ready connection
  | .failed failure => .failed failure

@[simp] theorem Progress.unnumbered_numbered (progress : Progress Connection Handshake)
    (number : Nat) : (progress.numbered number).unnumbered = progress := by
  cases progress <;> rfl

/-- The pool without the numbers of its handshakes. -/
def Pool.unnumbered (pool : Pool Connection (Nat × Handshake)) : Pool Connection Handshake :=
  { pool with pending := pool.pending.map Prod.snd }

namespace Pool

theorem settle_unnumbered (found : List (Progress Connection (Nat × Handshake)))
    (pool : Pool Connection (Nat × Handshake)) :
    settle (found.map Progress.unnumbered) pool.unnumbered = (settle found pool).unnumbered := by
  have brought : arrived (found.map Progress.unnumbered) = arrived found := by
    rw [arrived, arrived, List.filterMap_map]
    congr
    funext progress
    cases progress <;> rfl
  have still : stillPending (found.map Progress.unnumbered) =
      (stillPending found).map Prod.snd := by
    rw [stillPending, stillPending, List.filterMap_map, List.map_filterMap]
    congr
    funext progress
    cases progress <;> rfl
  have failed : anyFailed (found.map Progress.unnumbered) = anyFailed found := by
    rw [anyFailed, anyFailed, List.any_map]
    congr
    funext progress
    cases progress <;> rfl
  simp only [settle, brought, still, failed, List.isEmpty_map]
  split
  next => rfl
  next => split <;> rfl

theorem finishConnect_unnumbered (first : Connection) (started : List (Nat × Handshake))
    (failure : Option ConnectionFailure) (pool : Pool Connection (Nat × Handshake)) :
    finishConnect first (started.map Prod.snd) failure pool.unnumbered =
      let finished := finishConnect first started failure pool
      (finished.1, finished.2.unnumbered) := by
  obtain ⟨credentials, capacity, status, idle, pending, openingFirst, metrics⟩ := pool
  cases status <;> cases failure <;> cases started <;> rfl

end Pool

namespace Backend

variable (backend : Backend m Connection Handshake) (execution : Execution m World)
variable (watch : Watch) (world : World)

theorem run_startHandshakes_numbered (credentials : Credentials) (count : Nat) :
    let outcome := (execution.withState _).run
      (backend.numbered.startHandshakes credentials count) (watch, world)
    execution.run (backend.startHandshakes credentials count) world =
      ((outcome.1.1.map Prod.snd, outcome.1.2), outcome.2.2) := by
  induction count generalizing watch world with
  | zero => simp only [startHandshakes, Execution.run_pure, List.map_nil]
  | succ count inductionHypothesis =>
      simp only [startHandshakes, Execution.run_bind, run_numbered_startHandshake]
      cases execution.run (backend.startHandshake credentials) world with
      | mk result after =>
        cases result with
        | error failure => simp only [Execution.run_pure, List.map_nil]
        | ok handshake =>
            simp only [Execution.run_bind, Execution.run_pure,
              inductionHypothesis { watch with started := watch.started + 1 } after, List.map_cons]

theorem run_pollHandshakes_numbered (pending : List (Nat × Handshake)) :
    let outcome := (execution.withState _).run
      (pending.mapM backend.numbered.pollHandshake) (watch, world)
    execution.run ((pending.map Prod.snd).mapM backend.pollHandshake) world =
      (outcome.1.map Progress.unnumbered, outcome.2.2) := by
  induction pending generalizing watch world with
  | nil => simp only [List.map_nil, Execution.run_mapM_nil]
  | cons numbered others inductionHypothesis =>
      rw [List.map_cons, Execution.run_mapM_cons, Execution.run_mapM_cons,
        run_numbered_pollHandshake]
      simp only [inductionHypothesis
        { watch with looks := watch.looks ++ [⟨numbered.1,
          (execution.run (backend.pollHandshake numbered.2) world).1.isOver⟩] },
        List.map_cons, Progress.unnumbered_numbered]

end Backend

namespace Pool

variable (backend : Backend m Connection Handshake) (execution : Execution m World)
variable (pool : Pool Connection (Nat × Handshake)) (watch : Watch) (world : World)

theorem run_connect_numbered :
    let outcome := ((execution.withState _).withState _).run (connect backend.numbered)
      (pool, watch, world)
    (execution.withState _).run (connect backend) (pool.unnumbered, world) =
      (outcome.1, outcome.2.1.unnumbered, outcome.2.2.2) := by
  have answer : pool.unnumbered.connectAnswer? = pool.connectAnswer? := rfl
  cases known : pool.connectAnswer? with
  | some known =>
      simp only [connect, connectWith, Execution.run_bind, Execution.run_get, answer, known,
        Execution.run_pure]
  | none =>
      have given : pool.unnumbered.beginConnect =
          (pool.beginConnect.1, pool.beginConnect.2.unnumbered) := rfl
      have begun : pool.beginConnect.2.unnumbered.credentials = pool.credentials ∧
          pool.beginConnect.2.credentials = pool.credentials ∧
          pool.unnumbered.credentials = pool.credentials ∧
          pool.unnumbered.capacity = pool.capacity := ⟨rfl, rfl, rfl, rfl⟩
      simp only [connect, connectWith, changing, Execution.run_bind, Execution.run_get, answer,
        known, Execution.run_modifyGet, Execution.run_liftM, given, backend.run_numbered_closeAll,
        backend.run_numbered_connect, begun]
      generalize (execution.run (backend.closeAll pool.beginConnect.1) world).2 = cleared
      generalize execution.run (backend.connect pool.credentials) cleared = opened
      obtain ⟨opened, between⟩ := opened
      cases opened with
      | error failure =>
          simp only [Execution.run_bind, Execution.run_modify, Execution.run_pure]
          rfl
      | ok first =>
          have starts := backend.run_startHandshakes_numbered execution watch between
            pool.credentials (pool.capacity - 1)
          simp only [Execution.run_bind, Execution.run_liftM, starts]
          generalize (execution.withState _).run (backend.numbered.startHandshakes pool.credentials
            (pool.capacity - 1)) (watch, between) = started
          obtain ⟨⟨started, failure⟩, watch, after⟩ := started
          simp only [Execution.run_modifyGet, Execution.run_liftM, Execution.run_pure,
            finishConnect_unnumbered, backend.run_numbered_closeAll]

theorem run_pollTimes_numbered (polls : Nat) :
    let outcome := ((execution.withState _).withState _).run (pollTimes backend.numbered polls)
      (pool, watch, world)
    (execution.withState _).run (pollTimes backend polls) (pool.unnumbered, world) =
      (outcome.1, outcome.2.1.unnumbered, outcome.2.2.2) := by
  induction polls generalizing pool watch world with
  | zero => simp only [pollTimes, Execution.run_pure]
  | succ polls inductionHypothesis =>
      rw [run_pollTimes_succ, run_pollTimes_succ]
      cases polled : pool.isPolled with
      | false =>
          have unpolled : pool.unnumbered.isPolled = false := polled
          rw [run_poll_of_unpolled _ _ _ unpolled, run_poll_of_unpolled _ _ _ polled]
          exact inductionHypothesis ..
      | true =>
          have polledToo : pool.unnumbered.isPolled = true := polled
          rw [run_poll_of_polled _ _ _ polledToo, run_poll_of_polled _ _ _ polled]
          have looks := backend.run_pollHandshakes_numbered execution watch world pool.pending
          have pending_eq : pool.unnumbered.pending = pool.pending.map Prod.snd := rfl
          simp only [pending_eq, looks, settle_unnumbered]
          exact inductionHypothesis ..

/-- Numbering handshakes and noting the looks at them changes neither the answer to connecting and
polling nor what it leaves. -/
theorem run_connectAndPoll_numbered (polls : Nat) :
    let outcome := ((execution.withState _).withState _).run
      (connectAndPoll backend.numbered polls) (pool, watch, world)
    (execution.withState _).run (connectAndPoll backend polls) (pool.unnumbered, world) =
      (outcome.1, outcome.2.1.unnumbered, outcome.2.2.2) := by
  simp only [run_connectAndPoll, run_connect_numbered backend execution pool watch world]
  generalize ((execution.withState _).withState _).run (connect backend.numbered)
    (pool, watch, world) = connected
  obtain ⟨answer, pool, watch, world⟩ := connected
  rw [run_pollTimes_numbered backend execution pool watch world]

end Pool

end BankLedger.Database
