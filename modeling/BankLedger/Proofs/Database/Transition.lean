import BankLedger.Database.Pool.Basic

/-!
# What changes a pool

Every change of a pool is summed up here once, as the ways in which it can go with what holds of the
pool in each.  Proofs about pools take the way apart and do not look into the change again.
-/

namespace BankLedger.Database

namespace Pool

variable {Connection Handshake : Type}

/-! ## Metrics -/

section

variable (pool : Pool Connection Handshake) (change : Metrics → Metrics)

@[simp] theorem capacity_mapMetrics : (pool.mapMetrics change).capacity = pool.capacity := rfl

@[simp] theorem status_mapMetrics : (pool.mapMetrics change).status = pool.status := rfl

@[simp] theorem idle_mapMetrics : (pool.mapMetrics change).idle = pool.idle := rfl

@[simp] theorem pending_mapMetrics : (pool.mapMetrics change).pending = pool.pending := rfl

@[simp] theorem openingFirst_mapMetrics :
    (pool.mapMetrics change).openingFirst = pool.openingFirst := rfl

@[simp] theorem capacity_record : pool.record.capacity = pool.capacity := rfl

@[simp] theorem status_record : pool.record.status = pool.status := rfl

@[simp] theorem idle_record : pool.record.idle = pool.idle := rfl

@[simp] theorem pending_record : pool.record.pending = pool.pending := rfl

@[simp] theorem openingFirst_record : pool.record.openingFirst = pool.openingFirst := rfl

end

/-! ## Making a pool -/

theorem checkSettings_eq_ok_iff {capacity : Nat} {credentials : Credentials} :
    checkSettings capacity credentials = .ok () ↔
      1 ≤ capacity ∧ credentials.missingFields = [] := by
  rw [checkSettings]
  split
  case isTrue few =>
    constructor
    · intro checked
      cases checked
    · intro usable
      exact absurd usable.1 (Nat.not_le_of_lt few)
  case isFalse enough =>
    split
    case h_1 complete => exact ⟨fun _ => ⟨Nat.le_of_not_lt enough, complete⟩, fun _ => rfl⟩
    case h_2 incomplete =>
      constructor
      · intro checked
        cases checked
      · intro usable
        exact absurd usable.2 incomplete

/-- How making a pool can go: its settings are refused, the memory for its connections cannot be
reserved, or there is a pool. -/
inductive Creation (connectionSize capacity : Nat) (credentials : Credentials) :
    Except CreationFailure (Pool Connection Handshake) → Prop
  | refused {failure : PoolFailure}
      (unusable : ¬(1 ≤ capacity ∧ credentials.missingFields = [])) :
      Creation connectionSize capacity credentials (.error (.refused failure))
  | panicked (usable : 1 ≤ capacity ∧ credentials.missingFields = [])
      (exceeds : largestBuffer < capacity * connectionSize) :
      Creation connectionSize capacity credentials (.error (.panicked .capacityOverflow))
  | created (usable : 1 ≤ capacity ∧ credentials.missingFields = [])
      (fits : capacity * connectionSize ≤ largestBuffer) :
      Creation connectionSize capacity credentials
        (.ok ⟨credentials, capacity, .notConnected, [], [], false, none⟩)

theorem create_of_fits {connectionSize capacity : Nat} {credentials : Credentials}
    (usable : 1 ≤ capacity ∧ credentials.missingFields = [])
    (fits : capacity * connectionSize ≤ largestBuffer) :
    create connectionSize capacity credentials =
      .ok (⟨credentials, capacity, .notConnected, [], [], false, none⟩ :
        Pool Connection Handshake) := by
  simp only [create, checkSettings_eq_ok_iff.mpr usable, reserve_of_fits fits]
  rfl

theorem creation_create (connectionSize capacity : Nat) (credentials : Credentials) :
    Creation connectionSize capacity credentials
      (create connectionSize capacity credentials :
        Except CreationFailure (Pool Connection Handshake)) := by
  cases checked : checkSettings capacity credentials with
  | error failure =>
      simp only [create, checked]
      apply Creation.refused
      intro usable
      cases checked.symm.trans (checkSettings_eq_ok_iff.mpr usable)
  | ok settled =>
      have usable := checkSettings_eq_ok_iff.mp checked
      rcases Nat.lt_or_ge largestBuffer (capacity * connectionSize) with exceeds | fits
      · simp only [create, checked, reserve_of_exceeds exceeds]
        exact .panicked usable exceeds
      · rw [create_of_fits usable fits]
        exact .created usable fits

/-! ## Pools that have not been used -/

/-- A pool as it was made for a capacity, with metrics attached or not. -/
inductive Made (capacity : Nat) : Pool Connection Handshake → Prop
  | created {connectionSize : Nat} {credentials : Credentials} {pool : Pool Connection Handshake}
      (usable : create connectionSize capacity credentials = .ok pool) : Made capacity pool
  | measured {pool : Pool Connection Handshake} (metrics : Metrics) :
      Made capacity pool → Made capacity (pool.withMetrics metrics)

theorem Made.of_complete {capacity : Nat} {credentials : Credentials} (enough : 1 ≤ capacity)
    (complete : credentials.missingFields = []) :
    Made capacity (⟨credentials, capacity, .notConnected, [], [], false, none⟩ :
      Pool Connection Handshake) := by
  have fits : capacity * 0 ≤ largestBuffer := Nat.zero_le _
  exact .created (create_of_fits ⟨enough, complete⟩ fits)

/-- The state of a pool that has not been used. -/
structure Unused (capacity : Nat) (pool : Pool Connection Handshake) : Prop where
  capacity_eq : pool.capacity = capacity
  capacity_pos : 1 ≤ capacity
  status_eq : pool.status = .notConnected
  idle_eq : pool.idle = []
  pending_eq : pool.pending = []
  openingFirst_eq : pool.openingFirst = false

theorem Made.unused {capacity : Nat} {pool : Pool Connection Handshake}
    (made : Made capacity pool) : pool.Unused capacity := by
  induction made with
  | @created connectionSize credentials pool made =>
      have creation : Creation connectionSize capacity credentials (.ok pool) := by
        rw [← made]
        exact creation_create connectionSize capacity credentials
      cases creation with
      | created usable => exact ⟨rfl, usable.1, rfl, rfl, rfl, rfl⟩
  | measured metrics _ unused =>
      obtain ⟨capacity_eq, capacity_pos, status_eq, idle_eq, pending_eq, openingFirst_eq⟩ := unused
      exact ⟨capacity_eq, capacity_pos, status_eq, idle_eq, pending_eq, openingFirst_eq⟩

/-! ## Connecting -/

/-- Only a pool that was not connected yet, or not successfully, has no answer at once. -/
theorem status_of_unanswered {pool : Pool Connection Handshake}
    (unanswered : pool.connectAnswer? = none) :
    pool.status = .notConnected ∨ pool.status = .failedConnection := by
  rw [connectAnswer?] at unanswered
  split at unanswered
  next => cases unanswered
  next => cases unanswered
  next => cases unanswered
  next status => exact .inl status
  next status => exact .inr status

theorem connectAnswer?_of_invalid {pool : Pool Connection Handshake}
    (invalid : pool.status = .invalid) :
    pool.connectAnswer? = some (.error .destroyed) := by
  simp only [connectAnswer?, invalid]

/-- How the second half of connecting can go once the first connection is open. -/
inductive Finish (pool : Pool Connection Handshake) (first : Connection)
    (started : List Handshake) : Option ConnectionFailure →
    (List Connection × Except PoolFailure Unit) × Pool Connection Handshake → Prop
  | destroyed {failure : Option ConnectionFailure} (invalid : pool.status = .invalid) :
      Finish pool first started failure
        (([first], .error .destroyed), { pool with openingFirst := false })
  | failed {failure : ConnectionFailure} (valid : pool.status ≠ .invalid) :
      Finish pool first started (some failure)
        (([], .error (.connection failure)),
          { pool with
            openingFirst := false
            idle := first :: pool.idle
            status := .failedConnection }.record)
  | started (valid : pool.status ≠ .invalid) :
      Finish pool first started none
        (([], .ok ()),
          { pool with
            openingFirst := false
            idle := first :: pool.idle
            pending := started
            status := if started.isEmpty then .connected else .connecting }.record)

theorem finish_finishConnect (pool : Pool Connection Handshake) (first : Connection)
    (started : List Handshake) (failure : Option ConnectionFailure) :
    Finish pool first started failure (pool.finishConnect first started failure) := by
  by_cases invalid : pool.status = .invalid
  case pos =>
    rw [finishConnect, if_pos invalid]
    exact .destroyed invalid
  case neg =>
    rw [finishConnect, if_neg invalid]
    cases failure with
    | some failure => exact .failed invalid
    | none => exact .started invalid

/-! ## Polling -/

theorem isPolled_iff (pool : Pool Connection Handshake) :
    pool.isPolled = true ↔ pool.status = .connecting ∧ pool.openingFirst = false := by
  simp only [isPolled, Bool.and_eq_true, decide_eq_true_eq, Bool.not_eq_true']

/-- How a look at every pending handshake can end. -/
inductive Settling (pool : Pool Connection Handshake)
    (found : List (Progress Connection Handshake)) : Pool Connection Handshake → Prop
  | failed (failed : anyFailed found = true) :
      Settling pool found
        { pool with
          idle := (arrived found).reverse ++ pool.idle
          pending := []
          status := .failedConnection }.record
  | connected (unfailed : anyFailed found = false) (complete : stillPending found = []) :
      Settling pool found
        { pool with
          idle := (arrived found).reverse ++ pool.idle
          pending := []
          status := .connected }.record
  | waiting (unfailed : anyFailed found = false) (incomplete : stillPending found ≠ []) :
      Settling pool found
        { pool with
          idle := (arrived found).reverse ++ pool.idle
          pending := stillPending found }.record

theorem settling_settle (found : List (Progress Connection Handshake))
    (pool : Pool Connection Handshake) : Settling pool found (settle found pool) := by
  simp only [settle]
  split
  next failed => exact .failed failed
  next unfailed =>
    rw [Bool.not_eq_true] at unfailed
    split
    next complete => exact .connected unfailed (List.isEmpty_iff.mp complete)
    next incomplete => exact .waiting unfailed fun complete => incomplete (by rw [complete]; rfl)

section

variable (found : List (Progress Connection Handshake)) (pool : Pool Connection Handshake)

theorem idle_settle : (settle found pool).idle = (arrived found).reverse ++ pool.idle := by
  have settling := settling_settle found pool
  generalize settle found pool = after at settling ⊢
  cases settling <;> rfl

theorem capacity_settle : (settle found pool).capacity = pool.capacity := by
  have settling := settling_settle found pool
  generalize settle found pool = after at settling ⊢
  cases settling <;> rfl

theorem openingFirst_settle : (settle found pool).openingFirst = pool.openingFirst := by
  have settling := settling_settle found pool
  generalize settle found pool = after at settling ⊢
  cases settling <;> rfl

end

theorem arrived_cons (progress : Progress Connection Handshake)
    (found : List (Progress Connection Handshake)) :
    arrived (progress :: found) = arrived [progress] ++ arrived found := by
  cases progress <;> rfl

theorem stillPending_cons (progress : Progress Connection Handshake)
    (found : List (Progress Connection Handshake)) :
    stillPending (progress :: found) = stillPending [progress] ++ stillPending found := by
  cases progress <;> rfl

/-- Every look finds a connection, a handshake still under way, or a failure. -/
theorem length_found (found : List (Progress Connection Handshake)) :
    (arrived found).length + (stillPending found).length ≤ found.length ∧
      (anyFailed found = false →
        (arrived found).length + (stillPending found).length = found.length) := by
  induction found with
  | nil => exact ⟨Nat.le_refl 0, fun _ => rfl⟩
  | cons progress found inductionHypothesis =>
      obtain ⟨atMost, exactly⟩ := inductionHypothesis
      have one : (arrived [progress]).length + (stillPending [progress]).length ≤ 1 ∧
          (anyFailed [progress] = false →
            (arrived [progress]).length + (stillPending [progress]).length = 1) := by
        cases progress with
        | pending handshake => exact ⟨Nat.le_refl 1, fun _ => rfl⟩
        | ready connection => exact ⟨Nat.le_refl 1, fun _ => rfl⟩
        | failed failure => exact ⟨Nat.zero_le 1, fun unfailed => by cases unfailed⟩
      rw [arrived_cons, stillPending_cons, List.length_append, List.length_append,
        List.length_cons]
      constructor
      · omega
      · intro unfailed
        have both : anyFailed [progress] = false ∧ anyFailed found = false := by
          simpa only [anyFailed, List.any_cons, List.any_nil, Bool.or_false,
            Bool.or_eq_false_iff] using unfailed
        have first := one.2 both.1
        have others := exactly both.2
        omega

/-- What was found ready or is still pending was pending before. -/
theorem length_pending_settle {found : List (Progress Connection Handshake)}
    {pool : Pool Connection Handshake} (looked : found.length = pool.pending.length) :
    (settle found pool).pending.length + (arrived found).length ≤ pool.pending.length := by
  have brought := (length_found found).1
  have settling := settling_settle found pool
  generalize settle found pool = after at settling
  cases settling with
  | failed failed =>
      simp only [pending_record, List.length_nil]
      omega
  | connected unfailed complete =>
      simp only [pending_record, List.length_nil]
      omega
  | waiting unfailed incomplete =>
      simp only [pending_record]
      omega

/-! ## Lending -/

/-- How an attempt to take a connection can go. -/
inductive Acquisition (pool : Pool Connection Handshake) :
    Option Connection × Pool Connection Handshake → Prop
  | taken {connection : Connection} {others : List Connection}
      (idle : pool.idle = connection :: others) :
      Acquisition pool (some connection, { pool with idle := others }.record)
  | exhausted (idle : pool.idle = []) :
      Acquisition pool (none, pool.mapMetrics Metrics.countAcquireFailure)

theorem acquisition_acquire (pool : Pool Connection Handshake) :
    Acquisition pool pool.acquire := by
  rw [acquire]
  split
  next idle => exact .taken idle
  next idle => exact .exhausted idle

/-- How giving a connection back can go. -/
inductive Return (pool : Pool Connection Handshake) (connection : Connection) :
    List Connection × Pool Connection Handshake → Prop
  | destroyed (invalid : pool.status = .invalid) : Return pool connection ([connection], pool)
  | full (valid : pool.status ≠ .invalid) (full : pool.capacity ≤ pool.idle.length) :
      Return pool connection ([connection], pool)
  | kept (valid : pool.status ≠ .invalid) (room : pool.idle.length < pool.capacity) :
      Return pool connection ([], { pool with idle := connection :: pool.idle }.record)

theorem return_release (connection : Connection) (pool : Pool Connection Handshake) :
    Return pool connection (pool.release connection) := by
  rw [release]
  split
  next invalid => exact .destroyed invalid
  next valid =>
    split
    next full => exact .full valid full
    next room => exact .kept valid (Nat.lt_of_not_le room)

/-- How destroying a pool can go: the second time it does nothing. -/
inductive Destruction (pool : Pool Connection Handshake) :
    List Connection × Pool Connection Handshake → Prop
  | repeated (invalid : pool.status = .invalid) : Destruction pool ([], pool)
  | first (valid : pool.status ≠ .invalid) :
      Destruction pool
        (pool.idle.reverse, { pool with idle := [], pending := [], status := .invalid }.record)

theorem destruction_destroy (pool : Pool Connection Handshake) :
    Destruction pool pool.destroy := by
  rw [destroy]
  split
  next invalid => exact .repeated invalid
  next valid => exact .first valid

end Pool

end BankLedger.Database
