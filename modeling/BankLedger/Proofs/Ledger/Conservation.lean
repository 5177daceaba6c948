import BankLedger.Proofs.Ledger.Agreement

/-!
# Conservation of money

The balance of an account less its recorded movements is the balance that it must have been opened
with for the movements to add up.  Every course of a call keeps this opening balance, with one
exception: a completed credit that is cut at the largest balance records more than it adds, and
lowers it.  No call raises it again, so the movements of a run add up exactly if no credit was cut.
-/

namespace BankLedger.Ledger

open BankLedger.Sql

variable {m : Type → Type} [Monad m] {World : Type}

namespace Books

/-- The sum of the recorded amounts of an account in a direction. -/
def recorded (direction : Direction) (id : AccountId) (books : Books) : Int :=
  books.movements.foldl (fun total (account, movement) =>
    if account = id ∧ movement.direction = direction then total + movement.amount.toInt
    else total) 0

/-- What the recorded movements of an account add to its balance. -/
def net (id : AccountId) (books : Books) : Int :=
  books.recorded .credit id - books.recorded .debit id

theorem net_of_movements {books others : Books} (same : books.movements = others.movements)
    (id : AccountId) : books.net id = others.net id := by
  simp only [net, recorded, same]

theorem net_record (id : AccountId) (movement : Movement) (books : Books) :
    (books.record id movement).net id = books.net id + movement.net := by
  simp only [net, recorded, movements_record, List.foldl_append, List.foldl_cons, List.foldl_nil,
    Movement.net, true_and]
  cases movement.direction with
  | credit => simp only [reduceCtorEq, if_true, if_false]; omega
  | debit => simp only [reduceCtorEq, if_true, if_false]; omega

theorem net_record_of_ne {id other : AccountId} (differ : id ≠ other) (movement : Movement)
    (books : Books) : (books.record id movement).net other = books.net other := by
  simp only [net, recorded, movements_record, List.foldl_append, List.foldl_cons, List.foldl_nil,
    differ, false_and, if_false]

end Books

/-- The balance that an account was opened with if its recorded movements add up to the cached
balance. -/
def openingBalance (id : AccountId) (accounts : Accounts) (books : Books) : Int :=
  (accounts.read id).balance.toInt - books.net id

theorem openingBalance_congr {id : AccountId} {accounts left : Accounts} {books booksLeft : Books}
    (cached : left.read id = accounts.read id) (net : booksLeft.net id = books.net id) :
    openingBalance id left booksLeft = openingBalance id accounts books := by
  rw [openingBalance, cached, net, openingBalance]

/-- Whether a movement is a credit that an account cannot hold. -/
def Account.Cuts (movement : Movement) (account : Account) : Prop :=
  Int64.maxValue.toInt < account.balance.toInt + movement.net

instance (movement : Movement) (account : Account) : Decidable (account.Cuts movement) :=
  inferInstanceAs (Decidable (Int64.maxValue.toInt < account.balance.toInt + movement.net))

namespace TransactionCourse

variable {id : AccountId} {movement : Movement} {accounts left : Accounts}
variable {answer : Except StorageFailure MovementOutcome} {exchanges : List Exchange}

theorem openingBalance_of_error {failure : StorageFailure}
    (course : TransactionCourse id movement accounts (.error failure) exchanges left)
    (books : Books) :
    openingBalance id left (books.noteAll exchanges) = openingBalance id accounts books := by
  apply openingBalance_congr
  · exact course.read_of_error id
  · exact Books.net_of_movements (course.movements_of_error books) id

/-- A completed movement is recorded in full, but the balance takes only what it can hold. -/
theorem openingBalance_of_completed {after : Account}
    (course : TransactionCourse id movement accounts (.ok (.completed after)) exchanges left)
    (books : Books) :
    openingBalance id left (books.noteAll exchanges) =
      min ((accounts.read id).balance.toInt + movement.net) Int64.maxValue.toInt -
        (books.net id + movement.net) := by
  obtain ⟨moved, cached, _⟩ := course.of_completed
  have net : (books.settle id after.balance).net id = books.net id :=
    Books.net_of_movements rfl id
  rw [openingBalance, course.noteAll_of_completed, Books.net_record, net, cached,
    Account.toInt_balance_of_move? moved]

/-- A transaction keeps the opening balance of its account, unless it is completed and cut. -/
theorem openingBalance_le_and_eq_iff
    (course : TransactionCourse id movement accounts answer exchanges left) (books : Books) :
    openingBalance id left (books.noteAll exchanges) ≤ openingBalance id accounts books ∧
      (openingBalance id left (books.noteAll exchanges) = openingBalance id accounts books ↔
        ¬((∃ after, answer = .ok (.completed after)) ∧ (accounts.read id).Cuts movement)) := by
  cases answer with
  | error failure => simp [course.openingBalance_of_error books]
  | ok outcome =>
      cases outcome with
      | rejected =>
          obtain ⟨_, silent, kept⟩ := course.of_rejected
          simp [silent, kept]
      | completed after =>
          have completed : ∃ other, (Except.ok (.completed after) :
              Except StorageFailure MovementOutcome) = .ok (.completed other) := ⟨after, rfl⟩
          rw [course.openingBalance_of_completed books]
          simp only [completed, true_and, Account.Cuts, openingBalance]
          omega

theorem net_of_ne (course : TransactionCourse id movement accounts answer exchanges left)
    (books : Books) {other : AccountId} (differ : id ≠ other) :
    (books.noteAll exchanges).net other = books.net other := by
  cases answer with
  | error failure => exact Books.net_of_movements (course.movements_of_error books) other
  | ok outcome =>
      cases outcome with
      | rejected => rw [course.of_rejected.2.1, Books.noteAll_nil]
      | completed after =>
          rw [course.noteAll_of_completed, Books.net_record_of_ne differ]
          exact Books.net_of_movements rfl other

end TransactionCourse

namespace Call

variable (execution : Execution m World) (storage : Storage m)

/-- Whether a call completes a credit that its account cannot hold. -/
def Cuts (id : AccountId) : Call → Accounts × World → Prop
  | .transact other movement, state =>
      other = id ∧
        (∃ after, ((execution.withState Accounts).run (Bank.transact storage other movement)
          state).1 = .ok (.completed after)) ∧
        (state.1.read id).Cuts movement
  | .statement .., _ => False

variable {execution storage} {books : World → Books}

/-- One call keeps every opening balance, unless it is cut. -/
theorem openingBalance_leave (keeps : storage.Keeps execution books) (call : Call)
    (state : Accounts × World) (id : AccountId) :
    let left := call.leave execution storage state
    openingBalance id left.1 (books left.2) ≤ openingBalance id state.1 (books state.2) ∧
      (openingBalance id left.1 (books left.2) = openingBalance id state.1 (books state.2) ↔
        ¬call.Cuts execution storage id state) := by
  intro left
  have noted : books left.2 = _ := books_leave execution storage keeps call state
  rw [noted]
  cases call with
  | transact other movement =>
      have course : TransactionCourse other movement state.1 _ _ left.1 :=
        (transact_course execution storage other movement state.1 state.2).2
      by_cases same : other = id
      · subst same
        simp only [Cuts, true_and]
        exact course.openingBalance_le_and_eq_iff (books state.2)
      · have kept := openingBalance_congr (course.read_of_ne (Ne.symm same))
          (course.net_of_ne (books state.2) same)
        simp only [Cuts, same, false_and, not_false_eq_true, iff_true]
        exact ⟨Int.le_of_eq kept, kept⟩
  | statement other limit =>
      obtain ⟨_, accounts, course⟩ :=
        statement_course execution storage other limit state.1 state.2
      have cached : left.1.read id = state.1.read id := congrArg (Accounts.read · id) accounts
      have kept := openingBalance_congr cached
        (Books.net_of_movements (course.movements (books state.2)) id)
      simp only [Cuts, not_false_eq_true, iff_true]
      exact ⟨Int.le_of_eq kept, kept⟩

/-- A run never raises an opening balance, and keeps it exactly if none of its calls is cut. -/
theorem openingBalance_leaveAll (keeps : storage.Keeps execution books) (calls : List Call)
    (state : Accounts × World) (id : AccountId) :
    let left := leaveAll execution storage calls state
    openingBalance id left.1 (books left.2) ≤ openingBalance id state.1 (books state.2) ∧
      (openingBalance id left.1 (books left.2) = openingBalance id state.1 (books state.2) ↔
        Throughout execution storage (fun call state => ¬call.Cuts execution storage id state)
          calls state) := by
  induction calls generalizing state with
  | nil => simp [leaveAll, Throughout]
  | cons call calls inductionHypothesis =>
      intro left
      obtain ⟨sinks, keptBy⟩ := openingBalance_leave keeps call state id
      obtain ⟨sinksLater, keptLater⟩ :=
        inductionHypothesis (call.leave execution storage state)
      have whole : left =
          leaveAll execution storage calls (call.leave execution storage state) := rfl
      -- Neither the call nor the rest of the run raises it, so it is kept only if both keep it.
      rw [Throughout, ← keptBy, ← keptLater, whole]
      omega

end Call

/-- The stored movements add up to the stored balance exactly as long as no completed credit
exceeds the largest balance that can be written.  Then, and only then, the balance stored after any
calls is the one stored before, with the credits recorded in between added and the debits taken
away. -/
theorem movements_add_up_iff_no_credit_is_cut (execution : Execution m World)
    (storage : Storage m) (books : World → Books) (keeps : storage.Keeps execution books)
    (accounts : Accounts) (world : World) (calls : List Call) (id : AccountId) (start : Int64)
    (stored : (books world).balance? id = some start)
    (cached : (accounts.read id).balance = start)
    (undone : Call.UndosSucceed execution storage calls (accounts, world)) :
    ∀ done, done <+: calls →
      let left := Call.leaveAll execution storage done (accounts, world)
      ∃ now, (books left.2).balance? id = some now ∧
        (now.toInt = start.toInt +
            ((books left.2).recorded .credit id - (books world).recorded .credit id) -
            ((books left.2).recorded .debit id - (books world).recorded .debit id) ↔
          Call.Throughout execution storage
            (fun call state => ¬call.Cuts execution storage id state) done (accounts, world)) := by
  intro done part left
  have agree : (books world).balance? id = some (accounts.read id).balance := by
    rw [stored, cached]
  have agreeNow : (books left.2).balance? id = some (left.1.read id).balance :=
    Call.balance?_leaveAll keeps (undone.of_prefix execution storage part) agree
  refine ⟨(left.1.read id).balance, agreeNow, ?_⟩
  obtain ⟨_, kept⟩ := Call.openingBalance_leaveAll keeps done (accounts, world) id
  rw [← kept, ← cached]
  simp only [openingBalance, Books.net, left]
  omega

/-- Near the largest balance a credit that is not settled and a debit that is not recorded leave
nothing behind, and a credit that just fits adds up. -/
theorem movements_add_up_iff_no_credit_is_cut_near_greatest :
    let credit : Movement := ⟨7, .credit, "gift", by decide, by decide⟩
    let debit : Movement := ⟨3, .debit, "fee", by decide, by decide⟩
    let calls : List Call := [.transact ⟨1⟩ credit, .transact ⟨1⟩ debit, .transact ⟨1⟩ credit]
    let codes : List Code := [.fatal, .ok, .connectionError, .ok]
    let accounts := (Accounts.ofGreatest 1).write ⟨1⟩ ⟨0, 9223372036854775800⟩
    let stored := Books.ofRow ⟨1, 0, 9223372036854775800⟩
    let left := Call.leaveAll Execution.direct Storage.dictated calls (accounts, codes, stored)
    stored.balance? ⟨1⟩ = some 9223372036854775800 ∧
    (accounts.read ⟨1⟩).balance = 9223372036854775800 ∧
    Call.UndosSucceed Execution.direct Storage.dictated calls (accounts, codes, stored) ∧
    left.2.2.recorded .credit ⟨1⟩ = 7 ∧ left.2.2.recorded .debit ⟨1⟩ = 0 ∧
    left.2.2.balance? ⟨1⟩ = some Int64.maxValue := by
  intro credit debit calls codes accounts stored left
  have undone : Call.UndosSucceed Execution.direct Storage.dictated calls
      (accounts, codes, stored) := by
    refine ⟨?_, ?_, ?_, trivial⟩ <;> decide
  obtain ⟨now, held, adds⟩ := movements_add_up_iff_no_credit_is_cut Execution.direct
    Storage.dictated Prod.snd Storage.dictated_keeps accounts (codes, stored) calls ⟨1⟩
    9223372036854775800 (by decide) (by decide) undone calls List.prefix_rfl
  have uncut : Call.Throughout Execution.direct Storage.dictated
      (fun call state => ¬call.Cuts Execution.direct Storage.dictated ⟨1⟩ state) calls
      (accounts, codes, stored) := by
    refine ⟨?_, ?_, ?_, trivial⟩ <;> exact fun cut => absurd cut.2.2 (by decide)
  have sum : now.toInt = Int64.maxValue.toInt := (adds.mpr uncut).trans (by decide)
  refine ⟨by decide, by decide, undone, by decide, by decide, ?_⟩
  rw [← Int64.toInt_inj.mp sum]
  exact held

/-- A credit of one to an account with the largest balance is recorded but adds nothing. -/
theorem movements_do_not_add_up_past_greatest :
    let credit : Movement := ⟨1, .credit, "gift", by decide, by decide⟩
    let accounts := (Accounts.ofGreatest 1).write ⟨1⟩ ⟨0, Int64.maxValue⟩
    let stored := Books.ofRow ⟨1, 0, Int64.maxValue⟩
    let left := Call.leaveAll Execution.direct Storage.dictated [.transact ⟨1⟩ credit]
      (accounts, [], stored)
    Storage.dictated.Keeps Execution.direct Prod.snd ∧
    stored.balance? ⟨1⟩ = some (accounts.read ⟨1⟩).balance ∧
    Call.UndosSucceed Execution.direct Storage.dictated [.transact ⟨1⟩ credit]
      (accounts, [], stored) ∧
    ∃ now, left.2.2.balance? ⟨1⟩ = some now ∧
      now.toInt ≠ Int64.maxValue.toInt +
        (left.2.2.recorded .credit ⟨1⟩ - stored.recorded .credit ⟨1⟩) -
        (left.2.2.recorded .debit ⟨1⟩ - stored.recorded .debit ⟨1⟩) := by
  intro credit accounts stored left
  refine ⟨Storage.dictated_keeps, by decide, ⟨by decide, trivial⟩, Int64.maxValue, ?_, ?_⟩
  · decide
  · decide

end BankLedger.Ledger
