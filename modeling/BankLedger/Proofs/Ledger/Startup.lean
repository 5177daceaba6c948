import BankLedger.Proofs.Ledger.Agreement
import BankLedger.Proofs.Ledger.Beginning
import BankLedger.Proofs.Ledger.PooledStorage

/-!
# Statements after startup

A service that starts has changed nothing in storage, and each of its accounts was taken in as it is
stored or is blank.  From then on a statement settles what is cached.  That is the stored balance if
the account was taken in or has been settled since; otherwise it is the zero of a blank account.
-/

namespace BankLedger.Ledger

open BankLedger.Database BankLedger.Settings BankLedger.Sql

variable {m : Type → Type} [Monad m] {World Connection Handshake : Type}
variable {backend : Backend m Connection Handshake} {execution : Execution m World}
variable {books : World → Books}

/-- Every account of a ledger is as it is stored, or blank. -/
def StoredOrBlank (accounts : Accounts) (books : Books) : Prop :=
  ∀ id, accounts.id? id.number = some id →
    books.account? id = some (accounts.read id) ∨ accounts.read id = .blank

/-- Stored rows taken into a ledger without accounts leave every account as stored or blank. -/
theorem storedOrBlank_loadRows {rows : List AccountRow} {stored : Books} (greatest : Int64)
    (listed : ∀ row ∈ rows, stored.account? ⟨row.number⟩ = some row.account) :
    StoredOrBlank (Bank.loadRows rows (.ofGreatest greatest)).2 stored := by
  intro id known
  have knownBefore : (Accounts.ofGreatest greatest).id? id.number = some id := by
    rw [Accounts.id?, Bank.greatest_loadRows] at known
    exact known
  -- The last row with its number decides what an account is, and every row is stored.
  rw [Bank.read_loadRows rows knownBefore, Accounts.read_ofGreatest]
  rcases List.eq_nil_or_concat (rows.filter fun row => row.number = id.number) with
    nothing | ⟨others, last, taken⟩
  · right
    rw [nothing, List.foldl_nil]
  · left
    rw [List.concat_eq_append] at taken
    have member : last ∈ rows.filter fun row => row.number = id.number := by
      rw [taken]
      exact List.mem_concat_self
    obtain ⟨member, same⟩ := List.mem_filter.mp member
    have number : last.number = id.number := of_decide_eq_true same
    have stored := listed last member
    rw [number] at stored
    rw [taken, List.foldl_append, List.foldl_cons, List.foldl_nil]
    exact stored

namespace Startup

/-- A load changes no books, and every account ends up as stored or blank. -/
theorem run_loadAccounts (holds : HoldsBooks backend execution books) (greatest : Int64)
    (pool : Pool Connection Handshake) (world : World) :
    let outcome := (execution.withState (Pool Connection Handshake)).run
      (loadAccounts backend greatest) (pool, world)
    books outcome.2.2 = books world ∧ outcome.1.greatest = greatest ∧
      StoredOrBlank outcome.1 (books world) := by
  intro outcome
  have ran : outcome = _ := run_loadAccounts_eq greatest world
  let listing := (pooledStorage backend).exchange
    (execution.withState (Pool Connection Handshake)) .loadAccounts (pool, world)
  have kept : books ((pooledStorage backend).leave
      (execution.withState (Pool Connection Handshake)) .loadAccounts (pool, world)).2 =
        books world := by
    have noted := holds.pooledStorage_keeps .loadAccounts (pool, world)
    rw [Books.note] at noted
    split at noted <;> exact noted
  rw [ran, Bank.run_load]
  cases failed : listing.failed with
  | true =>
      simp only [listing] at failed
      simp only [failed, if_true]
      exact ⟨kept, rfl, fun id _ => .inr (Accounts.read_ofGreatest greatest id)⟩
  | false =>
      have listed := holds.pooledStorage_listed pool world failed
      simp only [listing] at failed
      simp only [failed, Bool.false_eq_true, if_false]
      exact ⟨kept, Bank.greatest_loadRows _ _, storedOrBlank_loadRows greatest listed⟩

/-- Opening a pool changes no books; if it succeeds, the accounts are as stored or blank. -/
theorem run_openPool (holds : HoldsBooks backend execution books) {pause : Nat → m Unit}
    (pauses : ∀ milliseconds, execution.Leaves books (pause milliseconds))
    (configuration : Runtime) (pool : Pool Connection Handshake) (world : World) :
    let outcome := (execution.withState (Pool Connection Handshake)).run
      (openPool backend pause configuration) (pool, world)
    books outcome.2.2 = books world ∧ ∀ accounts, outcome.1 = .ok accounts →
      accounts.greatest = configuration.ledger.maxAccountId ∧
        StoredOrBlank accounts (books world) := by
  have connecting := leaves_connect holds.toLeaves pauses configuration.pool (pool, world)
  simp only [run_openPool_eq]
  generalize (execution.withState (Pool Connection Handshake)).run
    (connect backend pause configuration.pool) (pool, world) = connected at connecting ⊢
  obtain ⟨answer, left, worldLeft⟩ := connected
  change books worldLeft = books world at connecting
  cases answer with
  | error failure =>
      refine ⟨?_, by simp⟩
      exact (holds.closePool (left, worldLeft)).trans connecting
  | ok done =>
      obtain ⟨kept, greatest, loaded⟩ :=
        run_loadAccounts holds configuration.ledger.maxAccountId left worldLeft
      refine ⟨kept.trans connecting, ?_⟩
      intro accounts same
      rw [← Except.ok.inj same, ← connecting]
      exact ⟨greatest, loaded⟩

/-- Starting a service changes no books; if it succeeds, the accounts are as stored or blank. -/
theorem run_start (holds : HoldsBooks backend execution books) {pause : Nat → m Unit}
    (pauses : ∀ milliseconds, execution.Leaves books (pause milliseconds))
    (configuration : Runtime) (registry : Registry) (world : World) :
    let outcome := execution.run (start backend pause configuration registry) world
    books outcome.2 = books world ∧ ∀ service, outcome.1 = .ok service →
      service.accounts.greatest = configuration.ledger.maxAccountId ∧
        StoredOrBlank service.accounts (books world) := by
  have beginning := beginning_start backend execution pause configuration registry world
  dsimp only
  generalize execution.run (start backend pause configuration registry) world = outcome
    at beginning ⊢
  cases beginning with
  | refused | panicked => exact ⟨rfl, nofun⟩
  | @unopened pool _ _ _ _ opening =>
      have opened := run_openPool holds pauses configuration pool world
      rw [opening] at opened
      exact ⟨opened.1, nofun⟩
  | @begun pool _ accounts _ _ opening =>
      have opened := run_openPool holds pauses configuration pool world
      rw [opening] at opened
      obtain ⟨kept, loaded⟩ := opened
      refine ⟨kept, ?_⟩
      rintro service ⟨⟩
      exact loaded accounts rfl

end Startup

/-- A statement settles only what came from storage, or zero.  A service starts without changing
anything in storage, with every account as stored or blank.  Whatever calls follow, none of whose
undoings fails, a statement then changes no recorded movement and no other account.  It leaves its
own account as well if that was in step after startup or has been settled since, and at most sets
the stored balance of a blank one to zero. -/
theorem statement_settles_loaded_balance_or_zero (backend : Backend m Connection Handshake)
    (execution : Execution m World) (books : World → Books)
    (holds : HoldsBooks backend execution books) (pause : Nat → m Unit)
    (pauses : ∀ milliseconds, execution.Leaves books (pause milliseconds))
    (configuration : Runtime) (registry : Registry) (world startedWorld : World)
    (service : Service Connection Handshake)
    (started : execution.run (Startup.start backend pause configuration registry) world =
      (.ok service, startedWorld))
    (calls : List Call)
    (undone : Call.UndosSucceed (execution.withState (Pool Connection Handshake))
      (pooledStorage backend) calls (service.accounts, service.pool, startedWorld))
    (id : AccountId) (known : service.accounts.id? id.number = some id) (limit : Int64) :
    let pooled := execution.withState (Pool Connection Handshake)
    let storage := pooledStorage backend
    let start := (service.accounts, service.pool, startedWorld)
    let before := Call.leaveAll pooled storage calls start
    let after := (Call.statement id limit).leave pooled storage before
    let stored := books before.2.2
    let storedAfter := books after.2.2
    books startedWorld = books world ∧
    StoredOrBlank service.accounts (books world) ∧
    storedAfter.movements = stored.movements ∧
    (∀ other, other ≠ id → storedAfter.account? other = stored.account? other) ∧
    (InStep id service.accounts (books world) ∨ Call.SomeSettles pooled storage id calls start →
      storedAfter.account? id = stored.account? id) ∧
    (storedAfter.account? id = stored.account? id ∨
      service.accounts.read id = .blank ∧
        storedAfter.account? id = (stored.account? id).map ({ · with balance := 0 })) := by
  intro pooled storage start before after stored storedAfter
  have startup := Startup.run_start holds pauses configuration registry world
  rw [started] at startup
  obtain ⟨unchanged, loaded⟩ := startup
  have storedOrBlank := (loaded service rfl).2
  have keeps := holds.pooledStorage_keeps
  obtain ⟨served, _, course⟩ := statement_course pooled storage id limit before.1 before.2
  have noted : storedAfter = stored.noteAll _ := keeps.books_of_served served
  have derived (known : InStep id service.accounts (books world) ∨
      Call.SomeSettles pooled storage id calls start) :
      storedAfter.account? id = stored.account? id := by
    have inStep : InStep id before.1 stored := by
      apply Call.inStep_leaveAll keeps undone
      rw [unchanged]
      exact known
    rw [noted, course.noteAll_eq]
    split
    · exact inStep.account?_settle id
    · rfl
  refine ⟨unchanged, storedOrBlank, ?movements, ?others, derived, ?named⟩
  case movements =>
    rw [noted]
    exact course.movements stored
  case others =>
    intro other differ
    rw [noted]
    exact course.account?_of_ne stored differ
  case named =>
    -- Without a settlement the account is still cached as startup left it.
    by_cases settled : Call.SomeSettles pooled storage id calls start
    · exact .inl (derived (.inr settled))
    rcases storedOrBlank id known with asStored | blank
    · exact .inl (derived (.inl (.of_stored asStored)))
    · have cached : before.1.read id = .blank :=
        (Call.read_leaveAll_of_not_someSettles settled).trans blank
      rw [noted, course.noteAll_eq, cached]
      split
      · right
        rw [Books.account?_settle, if_pos rfl]
        exact ⟨blank, rfl⟩
      · exact .inl rfl

/-- A configuration with one connection and one account. -/
def smallestConfiguration : Runtime where
  vendor := .postgres
  credentials := ⟨"localhost", 5432, "ledger", "bank", "", "", none⟩
  pool := ⟨1, 1000, 10, 1000⟩
  ledger := ⟨1, 10⟩

/-- A credit that is settled but not recorded, and then undone, leaves a loaded balance in step, and
so does the statement that follows. -/
theorem statement_settles_loaded_balance_or_zero_after_undoing :
    let pooled := Execution.direct.withState (Pool Unit Unit)
    let storage := pooledStorage dictatedBackend
    let calls : List Call := [.transact ⟨1⟩ ⟨25, .credit, "gift", by decide, by decide⟩]
    ∃ service world,
      Execution.direct.run (Startup.start dictatedBackend (fun _ => return ())
          smallestConfiguration []) ([.ok, .ok, .fatal], .ofRow ⟨1, 100, 500⟩) =
        (.ok service, world) ∧
      Call.UndosSucceed pooled storage calls (service.accounts, service.pool, world) ∧
      InStep ⟨1⟩ service.accounts (.ofRow ⟨1, 100, 500⟩) ∧
      ((Call.statement ⟨1⟩ 10).leave pooled storage (Call.leaveAll pooled storage calls
        (service.accounts, service.pool, world))).2.2.2.account? ⟨1⟩ = some ⟨100, 500⟩ := by
  intro pooled storage calls
  have run : ∃ service world,
      Execution.direct.run (Startup.start dictatedBackend (fun _ => return ())
          smallestConfiguration []) ([.ok, .ok, .fatal], .ofRow ⟨1, 100, 500⟩) =
        (.ok service, world) ∧
      Call.UndosSucceed pooled storage calls (service.accounts, service.pool, world) ∧
      service.accounts.id? 1 = some ⟨1⟩ ∧ service.accounts.read ⟨1⟩ = ⟨100, 500⟩ ∧
      (Call.leaveAll pooled storage calls
        (service.accounts, service.pool, world)).2.2.2.account? ⟨1⟩ = some ⟨100, 500⟩ := by
    refine ⟨_, _, rfl, And.intro ?_ trivial, ?_, ?_, ?_⟩ <;> decide +kernel
  obtain ⟨service, world, started, undone, known, cached, stored⟩ := run
  have inStep : InStep ⟨1⟩ service.accounts (.ofRow ⟨1, 100, 500⟩) := by
    apply InStep.of_stored
    rw [cached]
    rfl
  obtain ⟨_, _, _, _, derived, _⟩ := statement_settles_loaded_balance_or_zero dictatedBackend
    Execution.direct Prod.snd dictatedBackend_holdsBooks (fun _ => return ()) (fun _ _ => rfl)
    smallestConfiguration [] _ _ service started calls undone ⟨1⟩ known 10
  exact ⟨service, world, started, undone, inStep, (derived (.inl inStep)).trans stored⟩

/-- After a load that failed, a statement overwrites a stored balance of 500 with the zero of the
blank account. -/
theorem statement_overwrites_after_failed_load :
    let stored := Books.ofRow ⟨1, 100, 500⟩
    let outcome := Execution.direct.run
      (Startup.start dictatedBackend (fun _ => return ()) smallestConfiguration [])
      ([.connectionError], stored)
    HoldsBooks dictatedBackend Execution.direct (Prod.snd : List Code × Books → Books) ∧
    ∃ service world, outcome = (.ok service, world) ∧ world.2.balance? ⟨1⟩ = some 500 ∧
      service.accounts.id? 1 = some ⟨1⟩ ∧
      ((Call.statement ⟨1⟩ 10).leave
        (Execution.direct.withState (Pool Unit Unit)) (pooledStorage dictatedBackend)
        (service.accounts, service.pool, world)).2.2.2.balance? ⟨1⟩ = some 0 := by
  intro stored outcome
  refine ⟨dictatedBackend_holdsBooks, _, _, rfl, ?_, ?_, ?_⟩
  · decide
  · decide
  · decide

end BankLedger.Ledger
