import BankLedger.Proofs.Ledger.Bookkeeping

/-!
# Loading accounts

A load takes in the rows that it can read, one after the other.  So an account of the ledger ends up
as the last of the rows with its number, and one without a row stays as it was; nothing else changes
it.
-/

namespace BankLedger.Ledger

open BankLedger.Sql

variable {m : Type → Type} [Monad m] {World : Type}

namespace Accounts

theorem read_ofGreatest (greatest : Int64) (id : AccountId) :
    (ofGreatest greatest).read id = .blank := by
  have unloaded (indices : List Nat) (entries : Std.TreeMap Int Account)
      (blank : entries.getD id.number.toInt .blank = .blank) :
      (indices.foldl (fun entries (index : Nat) => entries.insert (Int.ofNat index + 1) .blank)
        entries).getD id.number.toInt .blank = .blank := by
    induction indices generalizing entries with
    | nil => exact blank
    | cons index indices inductionHypothesis =>
        apply inductionHypothesis
        rw [Std.TreeMap.getD_insert]
        split
        · rfl
        · exact blank
  exact unloaded _ ∅ Std.TreeMap.getD_emptyc

theorem eq_of_id?_eq_some {accounts : Accounts} {number : Int64} {id : AccountId}
    (known : accounts.id? number = some id) : id = ⟨number⟩ :=
  (Option.some.inj (Option.ite_none_right_eq_some.mp known).2).symm

end Accounts

namespace Bank

theorem greatest_loadRow (loaded : Nat × Accounts) (row : AccountRow) :
    (loadRow loaded row).2.greatest = loaded.2.greatest := by
  unfold loadRow
  split <;> rfl

theorem read_loadRow {loaded : Nat × Accounts} {id : AccountId}
    (known : loaded.2.id? id.number = some id) (row : AccountRow) :
    (loadRow loaded row).2.read id =
      if row.number = id.number then row.account else loaded.2.read id := by
  by_cases same : row.number = id.number
  · rw [if_pos same, loadRow, same, known]
    simp only [Accounts.read_write, if_true]
  · rw [if_neg same]
    unfold loadRow
    split
    · next other taken =>
        have differ : other ≠ id := by
          rw [Accounts.eq_of_id?_eq_some taken]
          exact fun equal => same (congrArg AccountId.number equal)
        simp only [Accounts.read_write, if_neg differ]
    · rfl

/-- An account of the ledger reads as the last row with its number. -/
theorem read_loadRows (rows : List AccountRow) {accounts : Accounts} {id : AccountId}
    (known : accounts.id? id.number = some id) :
    (loadRows rows accounts).2.read id =
      (rows.filter fun row => row.number = id.number).foldl (fun _ row => row.account)
        (accounts.read id) := by
  have folded (loaded : Nat × Accounts) (known : loaded.2.id? id.number = some id) :
      (rows.foldl loadRow loaded).2.read id =
        (rows.filter fun row => row.number = id.number).foldl (fun _ row => row.account)
          (loaded.2.read id) := by
    induction rows generalizing loaded with
    | nil => rfl
    | cons row rows inductionHypothesis =>
        have stillKnown : (loadRow loaded row).2.id? id.number = some id := by
          rw [Accounts.id?, greatest_loadRow]
          exact known
        rw [List.foldl_cons, inductionHypothesis _ stillKnown, read_loadRow known]
        by_cases same : row.number = id.number
        · rw [if_pos same, List.filter_cons_of_pos (by simpa using same), List.foldl_cons]
        · rw [if_neg same, List.filter_cons_of_neg (by simpa using same)]
  exact folded (0, accounts) known

theorem greatest_foldl_loadRow (rows : List AccountRow) (loaded : Nat × Accounts) :
    (rows.foldl loadRow loaded).2.greatest = loaded.2.greatest := by
  induction rows generalizing loaded with
  | nil => rfl
  | cons row rows inductionHypothesis =>
      rw [List.foldl_cons, inductionHypothesis, greatest_loadRow]

theorem greatest_loadRows (rows : List AccountRow) (accounts : Accounts) :
    (loadRows rows accounts).2.greatest = accounts.greatest :=
  greatest_foldl_loadRow rows (0, accounts)

theorem run_load (execution : Execution m World) (storage : Storage m) (accounts : Accounts)
    (world : World) :
    (execution.withState Accounts).run (load storage) (accounts, world) =
      let listing := storage.exchange execution .loadAccounts world
      let left := storage.leave execution .loadAccounts world
      if listing.failed then (.error listing.failure, accounts, left)
      else
        let loaded := loadRows (AccountRow.ofResult listing.result) accounts
        (.ok loaded.1, loaded.2, left) := by
  simp only [load, Execution.run_bind, Execution.run_liftM, Storage.run_request]
  cases listing : (storage.exchange execution .loadAccounts world).failed with
  | true => simp only [if_true, Execution.run_pure]
  | false =>
      simp only [Bool.false_eq_true, if_false, Execution.run_map, Execution.run_modifyGet]

end Bank

end BankLedger.Ledger
