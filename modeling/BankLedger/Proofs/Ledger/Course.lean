import BankLedger.Proofs.Ledger.Bookkeeping

/-!
# The courses of a transaction and of a statement

A transaction runs in one of four ways: it is rejected, its balance is not settled, its movement is
not recorded, or it is completed.  `TransactionCourse` lists them with everything that a caller, the
ledger and the storage see of each, and `transact_course` says that there is no other; the three
ways of a statement are listed alike.  Facts about either are proved over its courses and never open
the operation again.
-/

namespace BankLedger.Ledger

open BankLedger.Sql

variable {m : Type → Type} [Monad m] {World : Type}

/-- How a transaction may run: its answer, the exchanges that it makes and the accounts that it
leaves. -/
inductive TransactionCourse (id : AccountId) (movement : Movement) (accounts : Accounts) :
    Except StorageFailure MovementOutcome → List Exchange → Accounts → Prop
  | rejected (refused : (accounts.read id).move? movement = none) :
      TransactionCourse id movement accounts (.ok .rejected) [] accounts
  | unsettled {after : Account} {settling : Exchange}
      (moved : (accounts.read id).move? movement = some after)
      (settles : settling.request = .settleBalance id after.balance)
      (failed : settling.failed = true) :
      TransactionCourse id movement accounts (.error settling.failure) [settling]
        ((accounts.write id after).write id (accounts.read id))
  | unrecorded {after : Account} {settling recording undoing : Exchange}
      (moved : (accounts.read id).move? movement = some after)
      (settles : settling.request = .settleBalance id after.balance)
      (settled : settling.failed = false)
      (records : recording.request = .recordMovement id movement)
      (failed : recording.failed = true)
      (undoes : undoing.request = .settleBalance id (accounts.read id).balance) :
      TransactionCourse id movement accounts (.error recording.failure)
        [settling, recording, undoing]
        ((accounts.write id after).write id (accounts.read id))
  | completed {after : Account} {settling recording : Exchange}
      (moved : (accounts.read id).move? movement = some after)
      (settles : settling.request = .settleBalance id after.balance)
      (settled : settling.failed = false)
      (records : recording.request = .recordMovement id movement)
      (recorded : recording.failed = false) :
      TransactionCourse id movement accounts (.ok (.completed after)) [settling, recording]
        (accounts.write id after)

/-- How a statement may run: its answer and the exchanges that it makes.  It leaves the accounts as
they are. -/
inductive StatementCourse (id : AccountId) (limit : Int64) (accounts : Accounts) :
    Except StorageFailure Statement → List Exchange → Prop
  | unsettled {settling : Exchange}
      (settles : settling.request = .settleBalance id (accounts.read id).balance)
      (failed : settling.failed = true) :
      StatementCourse id limit accounts (.error settling.failure) [settling]
  | unlisted {settling listing : Exchange}
      (settles : settling.request = .settleBalance id (accounts.read id).balance)
      (settled : settling.failed = false)
      (lists : listing.request = .recentMovements id limit)
      (failed : listing.failed = true) :
      StatementCourse id limit accounts (.error listing.failure) [settling, listing]
  | listed {settling listing : Exchange}
      (settles : settling.request = .settleBalance id (accounts.read id).balance)
      (settled : settling.failed = false)
      (lists : listing.request = .recentMovements id limit)
      (listed : listing.failed = false) :
      StatementCourse id limit accounts
        (.ok ⟨accounts.read id, StoredMovement.ofResult listing.result⟩) [settling, listing]

/-! ## What the courses do to books -/

section

variable {id : AccountId} {movement : Movement} {balance : Int64}
variable {settling recording undoing : Exchange}

theorem noteAll_unsettled (failed : settling.failed = true) (books : Books) :
    books.noteAll [settling] = books := by
  rw [Books.noteAll_cons, Books.note_of_failed failed, Books.noteAll_nil]

/-- After a settlement without a record it is up to the undoing which balance is stored. -/
theorem noteAll_unrecorded (settles : settling.request = .settleBalance id balance)
    (settled : settling.failed = false) (failed : recording.failed = true) (books : Books) :
    books.noteAll [settling, recording, undoing] = (books.settle id balance).note undoing := by
  rw [Books.noteAll_cons, Books.note_of_succeeded settled, settles, Books.noteAll_cons,
    Books.note_of_failed failed]
  rfl

theorem noteAll_recorded (settles : settling.request = .settleBalance id balance)
    (settled : settling.failed = false) (records : recording.request = .recordMovement id movement)
    (recorded : recording.failed = false) (books : Books) :
    books.noteAll [settling, recording] = (books.settle id balance).record id movement := by
  rw [Books.noteAll_cons, Books.note_of_succeeded settled, settles, Books.noteAll_cons,
    Books.note_of_succeeded recorded, records]
  rfl

end

/-- Whether the settlement that comes first among the exchanges of a call succeeded. -/
def settlementSucceeds (exchanges : List Exchange) : Bool :=
  exchanges.head?.any fun exchange => !exchange.failed

namespace StatementCourse

variable {id : AccountId} {limit : Int64} {accounts : Accounts}
variable {answer : Except StorageFailure Statement} {exchanges : List Exchange}

/-- A statement settles the cached balance or does nothing. -/
theorem noteAll_eq (course : StatementCourse id limit accounts answer exchanges) (books : Books) :
    books.noteAll exchanges =
      if settlementSucceeds exchanges then books.settle id (accounts.read id).balance
      else books := by
  cases course with
  | unsettled settles failed =>
      rw [noteAll_unsettled failed, if_neg (by simp [settlementSucceeds, failed])]
  | unlisted settles settled lists failed =>
      rw [Books.noteAll_cons, Books.note_of_succeeded settled, settles, noteAll_unsettled failed,
        if_pos (by simp [settlementSucceeds, settled])]
      rfl
  | listed settles settled lists listed =>
      rw [Books.noteAll_cons, Books.note_of_succeeded settled, settles, Books.noteAll_cons,
        Books.note_of_succeeded listed, lists, if_pos (by simp [settlementSucceeds, settled])]
      rfl

theorem movements (course : StatementCourse id limit accounts answer exchanges) (books : Books) :
    (books.noteAll exchanges).movements = books.movements := by
  rw [course.noteAll_eq]
  split <;> rfl

theorem account?_of_ne (course : StatementCourse id limit accounts answer exchanges)
    (books : Books) {other : AccountId} (differ : other ≠ id) :
    (books.noteAll exchanges).account? other = books.account? other := by
  rw [course.noteAll_eq]
  split
  · rw [Books.account?_settle, if_neg differ.symm]
  · rfl

end StatementCourse

section

variable (execution : Execution m World) (storage : Storage m)

theorem run_persist (id : AccountId) (movement : Movement) (before after : Account)
    (world : World) :
    execution.run (Bank.persist storage id movement before after) world =
      let settle := Request.settleBalance id after.balance
      let record := Request.recordMovement id movement
      let settled := storage.leave execution settle world
      let recorded := storage.leave execution record settled
      if (storage.exchange execution settle world).failed then
        (.error (storage.exchange execution settle world).failure, settled)
      else if (storage.exchange execution record settled).failed then
        (.error (storage.exchange execution record settled).failure,
          storage.leave execution (.settleBalance id before.balance) recorded)
      else (.ok (), recorded) := by
  simp only [Bank.persist, execution.run_bind, Storage.run_request]
  cases settling : (storage.exchange execution (.settleBalance id after.balance) world).failed with
  | true => simp only [if_true, execution.run_pure]
  | false =>
      simp only [Bool.false_eq_true, if_false, execution.run_bind, Storage.run_request]
      cases recording : (storage.exchange execution (.recordMovement id movement)
          (storage.leave execution (.settleBalance id after.balance) world)).failed with
      | true =>
          simp only [if_true, execution.run_bind, execution.run_pure, Storage.run_request]
      | false => simp only [Bool.false_eq_true, if_false, execution.run_pure]

theorem run_transact (id : AccountId) (movement : Movement) (accounts : Accounts)
    (world : World) :
    (execution.withState Accounts).run (Bank.transact storage id movement) (accounts, world) =
      match (accounts.read id).move? movement with
      | none => (.ok .rejected, accounts, world)
      | some after =>
          let persisted :=
            execution.run (Bank.persist storage id movement (accounts.read id) after) world
          match persisted.1 with
          | .ok () => (.ok (.completed after), accounts.write id after, persisted.2)
          | .error failure =>
              (.error failure, (accounts.write id after).write id (accounts.read id),
                persisted.2) := by
  simp only [Bank.transact, Execution.run_bind, Execution.run_get]
  cases (accounts.read id).move? movement with
  | none => simp only [Execution.run_pure]
  | some after =>
      simp only [Execution.run_bind, Execution.run_modify, Execution.run_liftM]
      cases (execution.run
          (Bank.persist storage id movement (accounts.read id) after) world).1 with
      | ok done => simp only [Execution.run_pure]
      | error failure =>
          simp only [Execution.run_bind, Execution.run_modify, Execution.run_pure]

/-- Every transaction takes one of the four courses, and the world that it leaves is the one that
its exchanges leave. -/
theorem transact_course (id : AccountId) (movement : Movement) (accounts : Accounts)
    (world : World) :
    let outcome :=
      (execution.withState Accounts).run (Bank.transact storage id movement) (accounts, world)
    let exchanges := storage.exchanges execution (Bank.transact · id movement) accounts world
    storage.Served execution world exchanges outcome.2.2 ∧
      TransactionCourse id movement accounts outcome.1 exchanges outcome.2.1 := by
  simp only [Storage.exchanges, run_transact, run_persist, Storage.exchange_noted,
    Storage.leave_noted, List.nil_append, List.cons_append]
  cases moved : (accounts.read id).move? movement with
  | none => exact ⟨.nil world, .rejected moved⟩
  | some after =>
      dsimp only
      cases settling :
          (storage.exchange execution (.settleBalance id after.balance) world).failed with
      | true =>
          simp only [if_true]
          exact ⟨.cons _ (.nil _), .unsettled moved rfl settling⟩
      | false =>
          cases recording : (storage.exchange execution (.recordMovement id movement)
              (storage.leave execution (.settleBalance id after.balance) world)).failed with
          | true =>
              simp only [Bool.false_eq_true, if_false, if_true]
              exact ⟨.cons _ (.cons _ (.cons _ (.nil _))),
                .unrecorded moved rfl settling rfl recording rfl⟩
          | false =>
              simp only [Bool.false_eq_true, if_false]
              exact ⟨.cons _ (.cons _ (.nil _)), .completed moved rfl settling rfl recording⟩

theorem run_statement (id : AccountId) (limit : Int64) (accounts : Accounts) (world : World) :
    (execution.withState Accounts).run (Bank.statement storage limit id) (accounts, world) =
      let settle := Request.settleBalance id (accounts.read id).balance
      let list := Request.recentMovements id limit
      let settled := storage.leave execution settle world
      if (storage.exchange execution settle world).failed then
        (.error (storage.exchange execution settle world).failure, accounts, settled)
      else if (storage.exchange execution list settled).failed then
        (.error (storage.exchange execution list settled).failure, accounts,
          storage.leave execution list settled)
      else
        (.ok ⟨accounts.read id,
            StoredMovement.ofResult (storage.exchange execution list settled).result⟩,
          accounts, storage.leave execution list settled) := by
  simp only [Bank.statement, Execution.run_bind, Execution.run_get, Execution.run_liftM,
    Storage.run_request]
  cases settling : (storage.exchange execution
      (.settleBalance id (accounts.read id).balance) world).failed with
  | true => simp only [if_true, Execution.run_pure]
  | false =>
      simp only [Bool.false_eq_true, if_false, Execution.run_bind, Execution.run_liftM,
        Storage.run_request]
      cases listing : (storage.exchange execution (.recentMovements id limit)
          (storage.leave execution
            (.settleBalance id (accounts.read id).balance) world)).failed with
      | true => simp only [if_true, Execution.run_pure]
      | false => simp only [Bool.false_eq_true, if_false, Execution.run_pure]

/-- Every statement takes one of the three courses, and the world that it leaves is the one that its
exchanges leave. -/
theorem statement_course (id : AccountId) (limit : Int64) (accounts : Accounts)
    (world : World) :
    let outcome :=
      (execution.withState Accounts).run (Bank.statement storage limit id) (accounts, world)
    let exchanges := storage.exchanges execution (Bank.statement · limit id) accounts world
    storage.Served execution world exchanges outcome.2.2 ∧ outcome.2.1 = accounts ∧
      StatementCourse id limit accounts outcome.1 exchanges := by
  simp only [Storage.exchanges, run_statement, Storage.exchange_noted, Storage.leave_noted,
    List.nil_append, List.cons_append]
  cases settling : (storage.exchange execution
      (.settleBalance id (accounts.read id).balance) world).failed with
  | true =>
      simp only [if_true]
      exact ⟨.cons _ (.nil _), trivial, .unsettled rfl settling⟩
  | false =>
      cases listing : (storage.exchange execution (.recentMovements id limit)
          (storage.leave execution
            (.settleBalance id (accounts.read id).balance) world)).failed with
      | true =>
          simp only [Bool.false_eq_true, if_false, if_true]
          exact ⟨.cons _ (.cons _ (.nil _)), trivial, .unlisted rfl settling rfl listing⟩
      | false =>
          simp only [Bool.false_eq_true, if_false]
          exact ⟨.cons _ (.cons _ (.nil _)), trivial, .listed rfl settling rfl listing⟩

end

end BankLedger.Ledger
