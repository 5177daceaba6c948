import BankLedger.Proofs.Ledger.Account
import BankLedger.Proofs.Ledger.Course

/-!
# Transactions are all or nothing

What a transaction does is read off its course.  A completed one settles and records exactly once, a
rejected one does not reach the storage, and one that ends in a failure leaves the ledger as it was
and records nothing; only the balance of its own account may differ in storage, and then by the
settlement that could not be undone.
-/

namespace BankLedger.Ledger

open BankLedger.Sql

namespace TransactionCourse

variable {id : AccountId} {movement : Movement} {accounts left : Accounts}
variable {answer : Except StorageFailure MovementOutcome} {exchanges : List Exchange}

theorem greatest (course : TransactionCourse id movement accounts answer exchanges left) :
    left.greatest = accounts.greatest := by
  cases course <;> rfl

theorem read_of_ne (course : TransactionCourse id movement accounts answer exchanges left)
    {other : AccountId} (differ : other ≠ id) : left.read other = accounts.read other := by
  cases course <;> simp [Accounts.read_write, differ.symm]

theorem read_of_error {failure : StorageFailure}
    (course : TransactionCourse id movement accounts (.error failure) exchanges left)
    (other : AccountId) : left.read other = accounts.read other := by
  by_cases same : other = id
  · subst same
    cases course <;> simp [Accounts.read_write]
  · exact course.read_of_ne same

theorem account?_of_ne (course : TransactionCourse id movement accounts answer exchanges left)
    (books : Books) {other : AccountId} (differ : other ≠ id) :
    (books.noteAll exchanges).account? other = books.account? other := by
  cases course with
  | rejected refused => rfl
  | unsettled moved settles failed => rw [noteAll_unsettled failed]
  | unrecorded moved settles settled records failed undoes =>
      rw [noteAll_unrecorded settles settled failed, Books.note, undoes]
      split <;> simp only [Books.after, Books.account?_settle, if_neg differ.symm]
  | completed moved settles settled records recorded =>
      rw [noteAll_recorded settles settled records recorded, Books.account?_record,
        Books.account?_settle, if_neg differ.symm]

/-- A failed transaction records nothing. -/
theorem movements_of_error {failure : StorageFailure}
    (course : TransactionCourse id movement accounts (.error failure) exchanges left)
    (books : Books) : (books.noteAll exchanges).movements = books.movements := by
  cases course with
  | unsettled moved settles failed => rw [noteAll_unsettled failed]
  | unrecorded moved settles settled records failed undoes =>
      rw [noteAll_unrecorded settles settled failed, Books.note, undoes]
      split <;> simp only [Books.after, Books.movements_settle]

/-- A completed transaction made two exchanges, both of which succeeded. -/
theorem of_completed {after : Account}
    (course : TransactionCourse id movement accounts (.ok (.completed after)) exchanges left) :
    (accounts.read id).move? movement = some after ∧ left.read id = after ∧
      ∃ settled recorded : ResultSet,
        settled.code.isError = false ∧ recorded.code.isError = false ∧
        exchanges = [⟨.settleBalance id after.balance, settled⟩,
          ⟨.recordMovement id movement, recorded⟩] := by
  cases course with
  | @completed _ settling recording moved settles settled records recorded =>
      obtain ⟨request, settlement⟩ := settling
      obtain ⟨other, recordal⟩ := recording
      subst settles
      subst records
      refine ⟨moved, ?_, settlement, recordal, settled, recorded, rfl⟩
      simp only [Accounts.read_write, if_true]

theorem noteAll_of_completed {after : Account}
    (course : TransactionCourse id movement accounts (.ok (.completed after)) exchanges left)
    (books : Books) :
    books.noteAll exchanges = (books.settle id after.balance).record id movement := by
  cases course with
  | completed moved settles settled records recorded =>
      exact noteAll_recorded settles settled records recorded books

theorem of_rejected
    (course : TransactionCourse id movement accounts (.ok .rejected) exchanges left) :
    (accounts.read id).move? movement = none ∧ exchanges = [] ∧ left = accounts := by
  cases course with
  | rejected refused => exact ⟨refused, rfl, rfl⟩

/-- A failed transaction failed to settle, or it failed to record and tried to settle the balance
from before. -/
theorem of_error {failure : StorageFailure}
    (course : TransactionCourse id movement accounts (.error failure) exchanges left) :
    ∃ after, (accounts.read id).move? movement = some after ∧
      ((∃ settled : ResultSet, settled.code.isError = true ∧
          failure = ⟨settled.code, settled.message⟩ ∧
          exchanges = [⟨.settleBalance id after.balance, settled⟩]) ∨
        ∃ settled recorded undone : ResultSet,
          settled.code.isError = false ∧ recorded.code.isError = true ∧
          failure = ⟨recorded.code, recorded.message⟩ ∧
          exchanges = [⟨.settleBalance id after.balance, settled⟩,
            ⟨.recordMovement id movement, recorded⟩,
            ⟨.settleBalance id (accounts.read id).balance, undone⟩]) := by
  cases course with
  | @unsettled after settling moved settles failed =>
      obtain ⟨request, settlement⟩ := settling
      subst settles
      exact ⟨after, moved, .inl ⟨settlement, failed, rfl, rfl⟩⟩
  | @unrecorded after settling recording undoing moved settles settled records failed undoes =>
      obtain ⟨request, settlement⟩ := settling
      obtain ⟨other, recordal⟩ := recording
      obtain ⟨third, undo⟩ := undoing
      subst settles
      subst records
      subst undoes
      exact ⟨after, moved,
        .inr ⟨settlement, recordal, undo, settled, failed, rfl, rfl⟩⟩

end TransactionCourse

variable {m : Type → Type} [Monad m] {World : Type}

/-- A transaction is all or nothing.  Completed, it made exactly one settlement and one record, both
of which succeeded; rejected, it made no request; failed, it left the ledger and the movements as
they were, and the stored balance is the one from before, unless the settlement meant to bring it
back failed too.  The failure told is the one of the settlement or of the record, never the one of
that last settlement, and no other account changes. -/
theorem transact_all_or_nothing (execution : Execution m World) (storage : Storage m)
    (books : World → Books) (keeps : storage.Keeps execution books) (id : AccountId)
    (movement : Movement) (accounts : Accounts) (world : World) :
    let before := accounts.read id
    let outcome :=
      (execution.withState Accounts).run (Bank.transact storage id movement) (accounts, world)
    let exchanges := storage.exchanges execution (Bank.transact · id movement) accounts world
    let left := outcome.2.1
    let stored := books world
    let storedLeft := books outcome.2.2
    storage.Served execution world exchanges outcome.2.2 ∧
    (∀ after, outcome.1 = .ok (.completed after) →
      before.move? movement = some after ∧ after.limit = before.limit ∧ left.read id = after ∧
      storedLeft = (stored.settle id after.balance).record id movement ∧
      ∃ settled recorded : ResultSet,
        settled.code.isError = false ∧ recorded.code.isError = false ∧
        exchanges = [⟨.settleBalance id after.balance, settled⟩,
          ⟨.recordMovement id movement, recorded⟩]) ∧
    (outcome.1 = .ok .rejected →
      before.move? movement = none ∧ exchanges = [] ∧ outcome.2 = (accounts, world)) ∧
    (∀ failure, outcome.1 = .error failure →
      (∀ other, left.read other = accounts.read other) ∧
      storedLeft.movements = stored.movements ∧
      ∃ after, before.move? movement = some after ∧
        ((∃ settled : ResultSet, settled.code.isError = true ∧
            failure = ⟨settled.code, settled.message⟩ ∧
            exchanges = [⟨.settleBalance id after.balance, settled⟩] ∧ storedLeft = stored) ∨
          ∃ settled recorded undone : ResultSet,
            settled.code.isError = false ∧ recorded.code.isError = true ∧
            failure = ⟨recorded.code, recorded.message⟩ ∧
            exchanges = [⟨.settleBalance id after.balance, settled⟩,
              ⟨.recordMovement id movement, recorded⟩,
              ⟨.settleBalance id before.balance, undone⟩] ∧
            storedLeft.balance? id = (stored.balance? id).map fun _ =>
              if undone.code.isError then after.balance else before.balance)) ∧
    left.greatest = accounts.greatest ∧
    ∀ other, other ≠ id →
      left.read other = accounts.read other ∧
      storedLeft.account? other = stored.account? other := by
  intro before outcome exchanges left stored storedLeft
  obtain ⟨served, course⟩ := transact_course execution storage id movement accounts world
  change storage.Served execution world exchanges outcome.2.2 at served
  change TransactionCourse id movement accounts outcome.1 exchanges left at course
  have noted : storedLeft = stored.noteAll exchanges := keeps.books_of_served served
  refine ⟨served, ?completed, ?rejected, ?failed, course.greatest, ?others⟩
  case completed =>
    intro after completed
    rw [completed] at course
    obtain ⟨moved, cached, settled, recorded, settles, records, made⟩ := course.of_completed
    have kept : storedLeft = (stored.settle id after.balance).record id movement := by
      rw [noted]
      exact course.noteAll_of_completed stored
    exact ⟨moved, Account.limit_of_move? moved, cached, kept, settled, recorded, settles, records,
      made⟩
  case rejected =>
    intro rejected
    rw [rejected] at course
    obtain ⟨refused, silent, kept⟩ := course.of_rejected
    rw [silent] at served
    exact ⟨refused, silent, Prod.ext kept served.eq_of_nil⟩
  case failed =>
    intro failure failed
    rw [failed] at course
    have movements : storedLeft.movements = stored.movements := by
      rw [noted]
      exact course.movements_of_error stored
    obtain ⟨after, moved, ways⟩ := course.of_error
    refine ⟨course.read_of_error, movements, after, moved, ?_⟩
    rcases ways with ⟨settled, fails, told, made⟩ | ⟨settled, recorded, undone, settles, fails,
      told, made⟩
    · have unchanged : storedLeft = stored := by
        rw [noted, made]
        apply noteAll_unsettled
        exact fails
      exact .inl ⟨settled, fails, told, made, unchanged⟩
    · have undoing : storedLeft =
          (stored.settle id after.balance).note ⟨.settleBalance id before.balance, undone⟩ := by
        rw [noted, made]
        apply noteAll_unrecorded rfl
        · exact settles
        · exact fails
      refine .inr ⟨settled, recorded, undone, settles, fails, told, made, ?_⟩
      rw [undoing, Books.note, Exchange.failed]
      split <;> simp only [Books.after, Books.balance?_settle, if_true, Option.map_map,
        Function.comp_def]
  case others =>
    intro other differ
    refine ⟨course.read_of_ne differ, ?_⟩
    rw [noted]
    exact course.account?_of_ne stored differ

/-- A record and then its undoing fail: the ledger is as before, and storage keeps the balance that
was settled first. -/
theorem transact_all_or_nothing_undo_fails :
    let accounts := (Accounts.ofGreatest 1).write ⟨1⟩ ⟨100, 500⟩
    let outcome := (Execution.direct.withState Accounts).run
      (Bank.transact Storage.dictated ⟨1⟩ ⟨25, .credit, "gift", by decide, by decide⟩)
      (accounts, [.ok, .fatal, .connectionError], .ofRow ⟨1, 100, 500⟩)
    Storage.dictated.Keeps Execution.direct Prod.snd ∧ outcome.1 = .error ⟨.fatal, ""⟩ ∧
      outcome.2.1.read ⟨1⟩ = ⟨100, 500⟩ ∧ outcome.2.2.2.movements = [] ∧
      outcome.2.2.2.balance? ⟨1⟩ = some 525 := by
  intro accounts outcome
  obtain ⟨_, _, _, failed, _⟩ := transact_all_or_nothing Execution.direct Storage.dictated Prod.snd
    Storage.dictated_keeps ⟨1⟩ ⟨25, .credit, "gift", by decide, by decide⟩ accounts
    ([.ok, .fatal, .connectionError], .ofRow ⟨1, 100, 500⟩)
  obtain ⟨cached, movements, _⟩ := failed ⟨.fatal, ""⟩ rfl
  exact ⟨Storage.dictated_keeps, rfl, cached ⟨1⟩, movements, by decide⟩

end BankLedger.Ledger
