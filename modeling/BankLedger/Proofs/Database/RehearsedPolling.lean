import Mathlib.Data.List.TakeDrop
import Mathlib.Order.Bounds.Basic
import BankLedger.Database.Rehearsal
import BankLedger.Proofs.Database.Polling

/-!
# Polling rehearsed handshakes

A rehearsed handshake is a countdown: so many looks find it pending, and the next one finds its
outcome.  So the scripts of the handshakes determine where a pool stands after any number of polls.
The first failure decides: until then every handshake arrives in its turn, the poll that finds the
failure still takes what arrives in the same round, and nothing arrives afterwards.
-/

namespace BankLedger.Database

/-! ## Scripts -/

namespace HandshakeScript

/-- Whether a handshake has brought its connection after a number of looks. -/
def arrivesBy (looks : Nat) : HandshakeScript → Bool
  | .succeedAfter polls => polls < looks
  | .failAfter _ => false

/-- The script that is left after a look that found the handshake pending. -/
def later? : HandshakeScript → Option HandshakeScript
  | .succeedAfter (polls + 1) => some (.succeedAfter polls)
  | .failAfter (polls + 1) => some (.failAfter polls)
  | .succeedAfter 0 | .failAfter 0 => none

variable (scripts : List HandshakeScript)

/-- Handshakes that arrive do so at the first look, or after it in what is left of the scripts. -/
theorem countP_arrivesBy_succ (looks : Nat) :
    scripts.countP (arrivesBy (looks + 1)) =
      scripts.countP (arrivesBy 1) + (scripts.filterMap later?).countP (arrivesBy looks) := by
  induction scripts with
  | nil => rfl
  | cons script others inductionHypothesis =>
      rw [List.countP_cons, List.countP_cons, List.filterMap_cons, inductionHypothesis]
      rcases script with (_ | polls) | (_ | polls) <;>
        simp only [later?, arrivesBy, List.countP_cons, Nat.add_lt_add_iff_right] <;> simp <;> omega

theorem failAfter_mem_later (polls : Nat) :
    .failAfter polls ∈ scripts.filterMap later? ↔ .failAfter (polls + 1) ∈ scripts := by
  rw [List.mem_filterMap]
  constructor
  · rintro ⟨script, member, left⟩
    rcases script with (_ | _) | (_ | _) <;> simp_all [later?]
  · intro member
    exact ⟨_, member, rfl⟩

/-- The failure that comes first comes one look earlier in what is left of the scripts. -/
theorem isLeast_later {first : Nat}
    (least : IsLeast {polls | .failAfter polls ∈ scripts} (first + 1)) :
    IsLeast {polls | .failAfter polls ∈ scripts.filterMap later?} first := by
  refine ⟨(failAfter_mem_later scripts first).mpr least.1, ?_⟩
  intro polls member
  exact Nat.le_of_succ_le_succ (least.2 ((failAfter_mem_later scripts polls).mp member))

end HandshakeScript

/-! ## Rehearsed handshakes -/

namespace RehearsedHandshake

/-- The script that a handshake still has to follow. -/
def script : RehearsedHandshake → HandshakeScript
  | ⟨polls, some _⟩ => .succeedAfter polls
  | ⟨polls, none⟩ => .failAfter polls

variable (pending : List RehearsedHandshake)

theorem length_arrived : (Pool.arrived (pending.map Rehearsal.pollHandshake)).length =
    (pending.map script).countP (HandshakeScript.arrivesBy 1) := by
  induction pending with
  | nil => rfl
  | cons handshake others inductionHypothesis =>
      rw [List.map_cons, Pool.arrived_cons, List.length_append, inductionHypothesis, List.map_cons,
        List.countP_cons, Nat.add_comm]
      rcases handshake with ⟨_ | polls, _ | connection⟩ <;> rfl

theorem scripts_stillPending :
    (Pool.stillPending (pending.map Rehearsal.pollHandshake)).map script =
      (pending.map script).filterMap HandshakeScript.later? := by
  induction pending with
  | nil => rfl
  | cons handshake others inductionHypothesis =>
      rw [List.map_cons, Pool.stillPending_cons, List.map_append, inductionHypothesis,
        List.map_cons]
      rcases handshake with ⟨_ | polls, _ | connection⟩ <;> rfl

theorem anyFailed_iff : Pool.anyFailed (pending.map Rehearsal.pollHandshake) = true ↔
    .failAfter 0 ∈ pending.map script := by
  rw [Pool.anyFailed, List.any_map, List.any_eq_true, List.mem_map]
  constructor
  · rintro ⟨⟨_ | polls, _ | connection⟩, member, failed⟩ <;>
      first | exact ⟨_, member, rfl⟩ | cases failed
  · rintro ⟨⟨_ | polls, _ | connection⟩, member, same⟩ <;>
      first | exact ⟨_, member, rfl⟩ | cases same

end RehearsedHandshake

namespace Rehearsal

/-- The scripts of the next handshakes; a handshake without one succeeds at the first look. -/
def nextScripts (rehearsal : Rehearsal) (count : Nat) : List HandshakeScript :=
  rehearsal.handshakes.takeD count (.succeedAfter 0)

variable (rehearsal : Rehearsal)

/-- The scripts of handshakes are left alone by closing connections. -/
theorem leaves_closeAll (connections : List Nat) :
    Execution.direct.Leaves handshakes (backend.closeAll connections) := by
  induction connections with
  | nil => exact Execution.leaves_pure _
  | cons connection others inductionHypothesis =>
      exact .bind (fun _ => rfl) fun _ => inductionHypothesis

/-- The scripts of handshakes are left alone by opening a connection at once. -/
theorem leaves_connect (credentials : Credentials) :
    Execution.direct.Leaves handshakes (backend.connect credentials) := by
  have opens : Execution.direct.Leaves handshakes (openUnlessRefused credentials) := by
    apply Execution.Leaves.bind (fun _ => rfl)
    intro rehearsal
    split
    · exact Execution.leaves_pure _
    · exact .bind (fun _ => rfl) fun _ => Execution.leaves_pure _
  apply Execution.Leaves.bind (fun _ => rfl)
  intro failure
  cases failure with
  | some failure => exact Execution.leaves_pure _
  | none => exact .bind (Execution.leaves_pure _) fun _ => opens

/-- A handshake that can be started takes the next script. -/
theorem script_of_started {credentials : Credentials} {handshake : RehearsedHandshake}
    {after : Rehearsal} (started : Execution.direct.run (backend.startHandshake credentials)
      rehearsal = (.ok handshake, after)) :
    handshake.script = rehearsal.handshakes.headD (.succeedAfter 0) ∧
      after.handshakes = rehearsal.handshakes.tail := by
  let between : Rehearsal := { rehearsal with startFailures := rehearsal.startFailures.tail }
  let last : Rehearsal := { between with handshakes := rehearsal.handshakes.tail }
  have failure : Execution.direct.run takeStartFailure rehearsal =
      (rehearsal.startFailures.head?.join, between) := rfl
  have script : Execution.direct.run takeHandshake between =
      (rehearsal.handshakes.head?.getD (.succeedAfter 0), last) := rfl
  change Execution.direct.run startHandshake rehearsal = _ at started
  rw [startHandshake, Execution.run_bind, failure] at started
  rw [List.headD_eq_head?_getD]
  generalize rehearsal.startFailures.head?.join = failure at started
  cases failure with
  | some failure =>
      rw [Execution.run_pure] at started
      cases started
  | none =>
      rw [Execution.run_bind, script] at started
      generalize rehearsal.handshakes.head?.getD (.succeedAfter 0) = script at started ⊢
      cases script with
      | succeedAfter polls =>
          rw [Execution.run_bind, Execution.run_pure] at started
          cases started
          exact ⟨rfl, rfl⟩
      | failAfter polls =>
          rw [Execution.run_pure] at started
          cases started
          exact ⟨rfl, rfl⟩

/-- Handshakes that can all be started take the next scripts. -/
theorem scripts_of_started {credentials : Credentials} {count : Nat}
    {started : List RehearsedHandshake} {after : Rehearsal}
    (starts : Execution.direct.run (backend.startHandshakes credentials count) rehearsal =
      ((started, none), after)) :
    started.map RehearsedHandshake.script = rehearsal.nextScripts count := by
  induction count generalizing rehearsal started with
  | zero =>
      rw [Backend.startHandshakes, Execution.run_pure] at starts
      cases starts
      rfl
  | succ count inductionHypothesis =>
      rw [Backend.startHandshakes, Execution.run_bind] at starts
      cases first : Execution.direct.run (backend.startHandshake credentials) rehearsal with
      | mk result between =>
        rw [first] at starts
        cases result with
        | error failure => cases starts
        | ok handshake =>
            simp only [Execution.run_bind, Execution.run_pure] at starts
            cases others : Execution.direct.run (backend.startHandshakes credentials count) between
              with
            | mk result last =>
              obtain ⟨rest, failure⟩ := result
              rw [others] at starts
              cases starts
              obtain ⟨script, tail⟩ := script_of_started rehearsal first
              rw [List.map_cons, script, inductionHypothesis between others, nextScripts,
                nextScripts, tail]
              rfl

end Rehearsal

/-! ## Polls -/

/-- Where polling handshakes of some scripts leads a pool that had connections available before. -/
structure Pool.Follows (scripts : List HandshakeScript) (polls available : Nat)
    (after : Pool Nat RehearsedHandshake) : Prop where
  failed : ∀ {first}, IsLeast {polls | .failAfter polls ∈ scripts} first → first < polls →
    after.status = .failedConnection ∧
      after.available = available + scripts.countP (HandshakeScript.arrivesBy (first + 1))
  unfailed : (∀ failing, .failAfter failing ∈ scripts → polls ≤ failing) →
    after.available = available + scripts.countP (HandshakeScript.arrivesBy polls) ∧
      after.status = if scripts.countP (HandshakeScript.arrivesBy polls) = scripts.length
        then .connected else .connecting

namespace Pool

open HandshakeScript RehearsedHandshake

/-- Nothing has arrived before the first poll. -/
theorem Follows.zero {scripts : List HandshakeScript} {available : Nat}
    {after : Pool Nat RehearsedHandshake} (some : scripts ≠ [])
    (status : after.status = .connecting) (available_eq : after.available = available) :
    Follows scripts 0 available after := by
  have none : scripts.countP (arrivesBy 0) = 0 := by
    rw [List.countP_eq_zero]
    rintro (polls | polls) _ <;> simp [arrivesBy]
  have missing : 0 ≠ scripts.length := (List.length_pos_iff.mpr some).ne
  constructor
  · exact fun _ early => absurd early (Nat.not_lt_zero _)
  · intro _
    rw [none, if_neg missing]
    exact ⟨available_eq, status⟩

section

variable {scripts : List HandshakeScript} {polls available : Nat}
variable {after : Pool Nat RehearsedHandshake}

/-- A failure at the first poll ends the attempt with what has arrived by then. -/
theorem Follows.of_failed (now : .failAfter 0 ∈ scripts) (status : after.status = .failedConnection)
    (reached : after.available = available + scripts.countP (arrivesBy 1)) :
    Follows scripts (polls + 1) available after := by
  constructor
  · intro first least _
    have zero : first = 0 := Nat.le_zero.mp (least.2 now)
    rw [zero]
    exact ⟨status, reached⟩
  · intro later
    exact absurd (later 0 now) (Nat.not_succ_le_zero _)

/-- With nothing left after the first poll, all have arrived. -/
theorem Follows.of_complete (unfailed : .failAfter 0 ∉ scripts)
    (complete : scripts.filterMap later? = [])
    (all : scripts.countP (arrivesBy 1) = scripts.length) (status : after.status = .connected)
    (reached : after.available = available + scripts.countP (arrivesBy 1)) :
    Follows scripts (polls + 1) available after := by
  constructor
  · intro first least _
    cases first with
    | zero => exact absurd least.1 unfailed
    | succ first =>
        have left := (failAfter_mem_later scripts first).mpr least.1
        rw [complete] at left
        exact absurd left List.not_mem_nil
  · intro _
    rw [countP_arrivesBy_succ scripts polls, complete, List.countP_nil, Nat.add_zero, if_pos all]
    exact ⟨reached, status⟩

/-- The scripts that are left after a poll without failures lead where all of them lead with one
more poll. -/
theorem Follows.of_later (follows : Follows (scripts.filterMap later?) polls
      (available + scripts.countP (arrivesBy 1)) after) (unfailed : .failAfter 0 ∉ scripts)
    (all : scripts.countP (arrivesBy 1) + (scripts.filterMap later?).length = scripts.length) :
    Follows scripts (polls + 1) available after := by
  have count := countP_arrivesBy_succ scripts
  constructor
  · intro first least early
    cases first with
    | zero => exact absurd least.1 unfailed
    | succ first =>
        obtain ⟨status, available_eq⟩ :=
          follows.failed (isLeast_later scripts least) (Nat.lt_of_succ_lt_succ early)
        refine ⟨status, ?_⟩
        rw [available_eq, count (first + 1), Nat.add_assoc]
  · intro later
    obtain ⟨available_eq, status⟩ := follows.unfailed fun failing member =>
      Nat.le_of_succ_le_succ (later _ ((failAfter_mem_later scripts failing).mp member))
    refine ⟨by rw [available_eq, count polls, Nat.add_assoc], ?_⟩
    rw [status, count polls]
    congr 1
    rw [eq_iff_iff]
    omega

end

theorem run_poll_rehearsed {pool : Pool Nat RehearsedHandshake} (polled : pool.isPolled = true)
    (rehearsal : Rehearsal) :
    (Execution.direct.withState _).run (poll Rehearsal.backend) (pool, rehearsal) =
      let after := settle (pool.pending.map Rehearsal.pollHandshake) pool
      (after.status, after, rehearsal) := by
  have looks : Execution.direct.run (pool.pending.mapM Rehearsal.backend.pollHandshake) rehearsal =
      (pool.pending.map Rehearsal.pollHandshake, rehearsal) := by
    rw [Rehearsal.backend, List.mapM_pure, Execution.run_pure]
  rw [run_poll_of_polled _ _ _ polled, looks]

theorem follows_pollTimes (polls : Nat) {pool : Pool Nat RehearsedHandshake}
    {scripts : List HandshakeScript} {idle : Nat} (rehearsal : Rehearsal)
    (polled : pool.isPolled = true) (waiting : pool.pending ≠ [])
    (scripts_eq : pool.pending.map script = scripts) (available_eq : pool.available = idle) :
    Follows scripts polls idle
      ((Execution.direct.withState _).run (pollTimes Rehearsal.backend polls)
        (pool, rehearsal)).2.1 := by
  induction polls generalizing pool scripts idle with
  | zero =>
      rw [pollTimes, Execution.run_pure]
      have some : scripts ≠ [] := by
        rw [← scripts_eq]
        exact fun none => waiting (List.map_eq_nil_iff.mp none)
      exact .zero some ((isPolled_iff _).mp polled).1 available_eq
  | succ polls inductionHypothesis =>
      have connecting := ((isPolled_iff _).mp polled).1
      have opened := ((isPolled_iff _).mp polled).2
      rw [run_pollTimes_succ, run_poll_rehearsed polled]
      let found := pool.pending.map Rehearsal.pollHandshake
      have found_length : found.length = scripts.length := by
        rw [← scripts_eq, List.length_map, List.length_map]
      have brought : (arrived found).length = scripts.countP (arrivesBy 1) :=
        scripts_eq ▸ length_arrived _
      have still : (stillPending found).map script = scripts.filterMap later? :=
        scripts_eq ▸ scripts_stillPending _
      have failing : anyFailed found = true ↔ .failAfter 0 ∈ scripts :=
        scripts_eq ▸ anyFailed_iff _
      have unfailing (unfailed : anyFailed found = false) : .failAfter 0 ∉ scripts :=
        fun member => Bool.false_ne_true (unfailed.symm.trans (failing.mpr member))
      have everything := (length_found found).2
      have reached : (settle found pool).available =
          idle + scripts.countP (arrivesBy 1) := by
        rw [← available_eq, available, idle_settle, List.length_append, List.length_reverse,
          brought, Nat.add_comm]
        rfl
      have settling := settling_settle found pool
      change Follows scripts (polls + 1) idle
        ((Execution.direct.withState _).run (pollTimes Rehearsal.backend polls)
          (settle found pool, rehearsal)).2.1
      generalize settle found pool = settled at settling reached
      cases settling with
      | failed failed =>
          rw [run_pollTimes_of_unpolled _ _ _ _ rfl]
          exact .of_failed (failing.mp failed) rfl reached
      | connected unfailed complete =>
          have noneLeft : scripts.filterMap later? = [] := by rw [← still, complete, List.map_nil]
          have all : scripts.countP (arrivesBy 1) = scripts.length := by
            have sum := everything unfailed
            rwa [brought, complete, List.length_nil, Nat.add_zero, found_length] at sum
          rw [run_pollTimes_of_unpolled _ _ _ _ rfl]
          exact .of_complete (unfailing unfailed) noneLeft all rfl reached
      | waiting unfailed incomplete =>
          apply Follows.of_later
          · exact inductionHypothesis ((isPolled_iff _).mpr ⟨connecting, opened⟩) incomplete still
              reached
          · exact unfailing unfailed
          · have sum := everything unfailed
            rwa [brought, found_length, ← List.length_map script, still] at sum

/-- A successful attempt leaves the first connection idle, and pending a handshake for each of the
next scripts. -/
theorem exists_pending_of_connected {pool : Pool Nat RehearsedHandshake} {rehearsal : Rehearsal}
    (unanswered : pool.connectAnswer? = none)
    (connected : ((Execution.direct.withState _).run (connect Rehearsal.backend)
      (pool, rehearsal)).1 = .ok ()) :
    ∃ (first : Nat) (started : List RehearsedHandshake),
      ((Execution.direct.withState _).run (connect Rehearsal.backend) (pool, rehearsal)).2.1 =
        { pool with
          idle := [first]
          pending := started
          status := if started.isEmpty then .connected else .connecting
          openingFirst := false }.record ∧
      started.map script = rehearsal.nextScripts (pool.capacity - 1) := by
  have connecting := connecting_connect Rehearsal.backend Execution.direct pool rehearsal
  generalize (Execution.direct.withState _).run (connect Rehearsal.backend) (pool, rehearsal) =
    outcome at connecting connected ⊢
  cases connecting with
  | answered known => cases unanswered.symm.trans known
  | unopened => cases connected
  | unstarted => cases connected
  | @started first started before after _ opened starts =>
      have scripts := Rehearsal.leaves_connect pool.credentials
        (cleared Rehearsal.backend Execution.direct pool rehearsal)
      rw [opened, cleared, Rehearsal.leaves_closeAll] at scripts
      refine ⟨first, started, rfl, ?_⟩
      rw [Rehearsal.scripts_of_started before starts, Rehearsal.nextScripts, scripts]
      rfl

/-- The scripts of rehearsed handshakes determine where polling ends.  A pool that could be
connected, of any capacity, has after any number of polls: if one of its handshakes has failed by
then, the status of a failed attempt, and available, besides the first connection, those of the
handshakes that succeed no later than the first failure; otherwise those that have succeeded by
then, and it is connected exactly if that makes all of its capacity.  With the handshakes numbered,
which changes nothing, none is looked at again after a look found it ready or failed. -/
theorem polling_ends_as_scripts_determine (pool : Pool Nat RehearsedHandshake)
    (rehearsal : Rehearsal) (polls : Nat) (positive : 1 ≤ pool.capacity)
    (unanswered : pool.connectAnswer? = none)
    (connected : ((Execution.direct.withState _).run (connect Rehearsal.backend)
      (pool, rehearsal)).1 = .ok ()) :
    let scripts := rehearsal.nextScripts (pool.capacity - 1)
    let after := ((Execution.direct.withState _).run (connectAndPoll Rehearsal.backend polls)
      (pool, rehearsal)).2.1
    (∀ first, IsLeast {polls | .failAfter polls ∈ scripts} first → first < polls →
      after.status = .failedConnection ∧
        after.available = 1 + scripts.countP (arrivesBy (first + 1))) ∧
    ((∀ failing, .failAfter failing ∈ scripts → polls ≤ failing) →
      after.available = 1 + scripts.countP (arrivesBy polls) ∧
        after.status = if after.available = pool.capacity then .connected else .connecting) ∧
    let numbered := (((Execution.direct.withState _).withState _).run
      (connectAndPoll Rehearsal.backend.numbered polls)
      ({ pool with pending := [] }, ⟨0, []⟩, rehearsal)).2
    numbered.1.unnumbered = after ∧ numbered.2.1.Ends := by
  intro scripts after
  obtain ⟨first, started, connects, follow⟩ := exists_pending_of_connected unanswered connected
  have length : scripts.length = pool.capacity - 1 := List.takeD_length ..
  have follows : Follows scripts polls 1 after := by
    simp only [after, run_connectAndPoll]
    generalize (Execution.direct.withState _).run (connect Rehearsal.backend) (pool, rehearsal) =
      outcome at connects
    obtain ⟨answer, reached, later⟩ := outcome
    obtain rfl := connects
    cases started with
    | nil =>
        rw [run_pollTimes_of_unpolled _ _ _ _ rfl, show scripts = [] from follow.symm]
        exact ⟨fun least => absurd least.1 List.not_mem_nil, fun _ => ⟨rfl, rfl⟩⟩
    | cons handshake others =>
        exact follows_pollTimes polls later rfl (List.cons_ne_nil handshake others) follow rfl
  refine ⟨fun _ => follows.failed, ?_, ?_, ?_⟩
  · intro later
    obtain ⟨available_eq, status⟩ := follows.unfailed later
    refine ⟨available_eq, ?_⟩
    rw [status, available_eq]
    congr 1
    rw [length, eq_iff_iff]
    omega
  · have plain := run_connectAndPoll_numbered Rehearsal.backend Execution.direct
      { pool with pending := [] } ⟨0, []⟩ rehearsal polls
    have same : (Execution.direct.withState _).run (connectAndPoll Rehearsal.backend polls)
        ({ pool with pending := [] }, rehearsal) =
        (Execution.direct.withState _).run (connectAndPoll Rehearsal.backend polls)
          (pool, rehearsal) := by
      rw [run_connectAndPoll, run_connect_of_connected _ _ _ _ unanswered connected,
        ← run_connectAndPoll]
    exact (congrArg (fun outcome => outcome.2.1) (same.symm.trans plain)).symm
  · exact ends_connectAndPoll Rehearsal.backend Execution.direct polls rfl rehearsal

/-- A pool of rehearsed connections that nobody has used. -/
def rehearsed (capacity : Nat) : Pool Nat RehearsedHandshake :=
  ⟨⟨"localhost", 5432, "ledger", "clerk", "", "", none⟩, capacity, .notConnected, [], [], false,
    none⟩

/-- Of four handshakes one fails at the second look.  One arrives before and one with it, and the
slowest never does. -/
theorem polling_ends_as_scripts_determine_amid_a_failure :
    let rehearsal := { Rehearsal.initial with
      handshakes := [.succeedAfter 0, .failAfter 1, .succeedAfter 1, .succeedAfter 2] }
    let scripts := rehearsal.nextScripts 4
    let after := ((Execution.direct.withState _).run (connectAndPoll Rehearsal.backend 3)
      (rehearsed 5, rehearsal)).2.1
    1 ≤ (rehearsed 5).capacity ∧ (rehearsed 5).connectAnswer? = none ∧
      ((Execution.direct.withState _).run (connect Rehearsal.backend)
        (rehearsed 5, rehearsal)).1 = .ok () ∧
      IsLeast {polls | .failAfter polls ∈ scripts} 1 ∧ after.status = .failedConnection ∧
        after.available = 3 := by
  intro rehearsal scripts after
  have scripts_eq : scripts =
      [.succeedAfter 0, .failAfter 1, .succeedAfter 1, .succeedAfter 2] := rfl
  have least : IsLeast {polls | .failAfter polls ∈ scripts} 1 := by
    constructor
    · simp [scripts_eq]
    · intro polls member
      simp only [scripts_eq, Set.mem_ofPred_eq, List.mem_cons, reduceCtorEq, failAfter.injEq,
        List.not_mem_nil, or_false, false_or] at member
      exact Nat.le_of_eq member.symm
  have connected : ((Execution.direct.withState _).run (connect Rehearsal.backend)
      (rehearsed 5, rehearsal)).1 = .ok () := by
    decide +kernel
  obtain ⟨failed, available⟩ := (polling_ends_as_scripts_determine (rehearsed 5) rehearsal 3
    (by decide) rfl connected).1 1 least (by decide)
  exact ⟨by decide, rfl, connected, least, failed, available⟩

end Pool

end BankLedger.Database
