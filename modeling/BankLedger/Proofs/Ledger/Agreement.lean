import BankLedger.Proofs.Ledger.Calls

/-!
# Agreement of a ledger and its storage

A cached account is in step with storage if its stored balance, should it have one, is the cached
one.  Every course of a call keeps the account that it names in step, unless an undoing fails, and a
settlement that succeeds brings the account in step whatever was stored before.  Other accounts are
left alone by `Call.account?_leave_of_ne`, so being in step is carried through every run.
-/

namespace BankLedger.Ledger

open BankLedger.Sql

variable {m : Type → Type} [Monad m] {World : Type}

/-- The stored balance of an account, if there is one, is the cached balance. -/
def InStep (id : AccountId) (accounts : Accounts) (books : Books) : Prop :=
  ∀ balance, books.balance? id = some balance → balance = (accounts.read id).balance

namespace InStep

variable {id : AccountId} {accounts left : Accounts} {books booksLeft : Books}

theorem of_unchanged (inStep : InStep id accounts books) (cached : left.read id = accounts.read id)
    (stored : booksLeft.balance? id = books.balance? id) : InStep id left booksLeft := by
  intro balance held
  rw [stored] at held
  rw [cached]
  exact inStep balance held

/-- A settlement of the cached balance brings the account in step. -/
theorem of_settle {balance : Int64} (cached : (left.read id).balance = balance) :
    InStep id left (books.settle id balance) := by
  intro held stored
  rw [Books.balance?_settle, if_pos rfl, Option.map_eq_some_iff] at stored
  obtain ⟨_, _, settled⟩ := stored
  rw [cached, settled]

/-- An account that is cached as it is stored is in step. -/
theorem of_stored (stored : books.account? id = some (accounts.read id)) :
    InStep id accounts books := by
  intro balance held
  rw [Books.balance?, stored, Option.map_some] at held
  exact (Option.some.inj held).symm

/-- Settling a balance that is in step changes no account. -/
theorem account?_settle (inStep : InStep id accounts books) (other : AccountId) :
    (books.settle id (accounts.read id).balance).account? other = books.account? other := by
  rw [Books.account?_settle]
  split
  case isTrue same =>
    subst same
    cases stored : books.account? id with
    | none => rfl
    | some account =>
        have balance := inStep account.balance (by rw [Books.balance?, stored, Option.map_some])
        rw [Option.map_some, ← balance]
  case isFalse => rfl

end InStep

namespace TransactionCourse

variable {id : AccountId} {movement : Movement} {accounts left : Accounts}
variable {answer : Except StorageFailure MovementOutcome} {exchanges : List Exchange}

/-- A transaction whose undoing does not fail keeps its account in step, and brings it in step if
its settlement succeeds. -/
theorem inStep (course : TransactionCourse id movement accounts answer exchanges left)
    (undone : undoFails exchanges = false) {books : Books}
    (known : InStep id accounts books ∨ settlementSucceeds exchanges = true) :
    InStep id left (books.noteAll exchanges) := by
  cases course with
  | rejected refused =>
      rcases known with inStep | settled
      · exact inStep
      · contradiction
  | unsettled moved settles failed =>
      rcases known with inStep | settled
      · apply inStep.of_unchanged
        · simp only [Accounts.read_write, if_true]
        · rw [noteAll_unsettled failed]
      · simp [settlementSucceeds, failed] at settled
  | @unrecorded after settling recording undoing moved settles settled records failed undoes =>
      -- The cache goes back to the balance from before, and so does storage.
      have undo : undoing.failed = false := by simpa [undoFails] using undone
      rw [noteAll_unrecorded settles settled failed, Books.note_of_succeeded undo, undoes]
      apply InStep.of_settle
      simp only [Accounts.read_write, if_true]
  | @completed after settling recording moved settles settled records recorded =>
      have settlement : InStep id (accounts.write id after) (books.settle id after.balance) := by
        apply InStep.of_settle
        simp only [Accounts.read_write, if_true]
      rw [noteAll_recorded settles settled records recorded]
      exact settlement.of_unchanged rfl (Books.balance?_record id id movement _)

/-- A transaction whose settlement does not succeed leaves the accounts as they were. -/
theorem read_of_unsettled
    (course : TransactionCourse id movement accounts answer exchanges left)
    (unsettled : settlementSucceeds exchanges = false) (other : AccountId) :
    left.read other = accounts.read other := by
  cases answer with
  | error failure => exact course.read_of_error other
  | ok outcome =>
      cases course with
      | rejected refused => rfl
      | completed moved settles settled records recorded =>
          simp [settlementSucceeds, settled] at unsettled

end TransactionCourse

/-- What a statement leaves is in step as after a transaction; it undoes nothing. -/
theorem StatementCourse.inStep {id : AccountId} {limit : Int64} {accounts : Accounts}
    {answer : Except StorageFailure Statement} {exchanges : List Exchange}
    (course : StatementCourse id limit accounts answer exchanges) {books : Books}
    (known : InStep id accounts books ∨ settlementSucceeds exchanges = true) :
    InStep id accounts (books.noteAll exchanges) := by
  rw [course.noteAll_eq]
  split
  case isTrue => exact .of_settle rfl
  case isFalse unsettled => exact known.resolve_right unsettled

namespace Call

variable (execution : Execution m World) (storage : Storage m)

/-- Whether a call settles the balance of an account. -/
def Settles (id : AccountId) (call : Call) (state : Accounts × World) : Prop :=
  call.account = id ∧ settlementSucceeds (call.exchanges execution storage state) = true

/-- Some call of a list settles the balance of an account. -/
def SomeSettles (id : AccountId) : List Call → Accounts × World → Prop
  | [], _ => False
  | call :: calls, state =>
      call.Settles execution storage id state ∨
        SomeSettles id calls (call.leave execution storage state)

variable {execution storage} {books : World → Books}

/-- One call keeps every account in step, and brings in step the one that it settles. -/
theorem inStep_leave (keeps : storage.Keeps execution books) (call : Call)
    {state : Accounts × World}
    (undone : undoFails (call.exchanges execution storage state) = false) {id : AccountId}
    (known : InStep id state.1 (books state.2) ∨ call.Settles execution storage id state) :
    InStep id (call.leave execution storage state).1
      (books (call.leave execution storage state).2) := by
  -- Only the named account needs the course of the call; the others are left alone.
  by_cases same : id = call.account
  · have named : InStep call.account state.1 (books state.2) ∨
        settlementSucceeds (call.exchanges execution storage state) = true := by
      rw [← same]
      exact known.imp_right And.right
    rw [same, books_leave execution storage keeps]
    cases call with
    | transact id movement =>
        exact (transact_course execution storage id movement _ _).2.inStep undone named
    | statement id limit =>
        obtain ⟨_, left, course⟩ := statement_course execution storage id limit state.1 state.2
        have inStep := course.inStep named
        exact inStep.of_unchanged (congrArg (Accounts.read · id) left) rfl
  · rcases known with inStep | settles
    · apply inStep.of_unchanged
      · exact read_leave_of_ne execution storage call state same
      · exact congrArg (Option.map Account.balance)
          (account?_leave_of_ne execution storage keeps call state same)
    · exact absurd settles.1.symm same

/-- A run keeps every account in step, and brings in step those that it settles. -/
theorem inStep_leaveAll (keeps : storage.Keeps execution books) {calls : List Call}
    {state : Accounts × World} (undone : UndosSucceed execution storage calls state)
    {id : AccountId}
    (known : InStep id state.1 (books state.2) ∨
      SomeSettles execution storage id calls state) :
    InStep id (leaveAll execution storage calls state).1
      (books (leaveAll execution storage calls state).2) := by
  induction calls generalizing state with
  | nil =>
      rcases known with inStep | settles
      · exact inStep
      · contradiction
  | cons call calls inductionHypothesis =>
      obtain ⟨undone, undoneLater⟩ := undone
      apply inductionHypothesis undoneLater
      rcases known with inStep | settles | settlesLater
      · exact .inl (inStep_leave keeps call undone (.inl inStep))
      · exact .inl (inStep_leave keeps call undone (.inr settles))
      · exact .inr settlesLater

/-- A call that does not settle an account leaves it cached as it was. -/
theorem read_leave_of_not_settles (call : Call) {state : Accounts × World} {id : AccountId}
    (silent : ¬call.Settles execution storage id state) :
    (call.leave execution storage state).1.read id = state.1.read id := by
  by_cases same : id = call.account
  · have unsettled : settlementSucceeds (call.exchanges execution storage state) = false := by
      rw [Settles, not_and, Bool.not_eq_true] at silent
      exact silent same.symm
    cases call with
    | transact id movement =>
        exact (transact_course execution storage id movement _ _).2.read_of_unsettled unsettled _
    | statement id limit =>
        exact congrArg (Accounts.read · _) (statement_course execution storage id limit _ _).2.1
  · exact read_leave_of_ne execution storage call state same

theorem read_leaveAll_of_not_someSettles {calls : List Call} {state : Accounts × World}
    {id : AccountId} (silent : ¬SomeSettles execution storage id calls state) :
    (leaveAll execution storage calls state).1.read id = state.1.read id := by
  induction calls generalizing state with
  | nil => rfl
  | cons call calls inductionHypothesis =>
      rw [SomeSettles, not_or] at silent
      exact (inductionHypothesis silent.2).trans (call.read_leave_of_not_settles silent.1)

/-- An account has a stored balance after a run exactly if it had one before. -/
theorem isSome_balance?_leaveAll (keeps : storage.Keeps execution books) (calls : List Call)
    (state : Accounts × World) (id : AccountId) :
    ((books (leaveAll execution storage calls state).2).balance? id).isSome =
      ((books state.2).balance? id).isSome := by
  induction calls generalizing state with
  | nil => rfl
  | cons call calls inductionHypothesis =>
      rw [leaveAll, inductionHypothesis, books_leave execution storage keeps,
        Books.isSome_balance?_noteAll]

/-- A run leaves the cached balance of an account stored, if it found it stored. -/
theorem balance?_leaveAll (keeps : storage.Keeps execution books) {calls : List Call}
    {state : Accounts × World} (undone : UndosSucceed execution storage calls state)
    {id : AccountId} (stored : (books state.2).balance? id = some (state.1.read id).balance) :
    (books (leaveAll execution storage calls state).2).balance? id =
      some ((leaveAll execution storage calls state).1.read id).balance := by
  have inStep : InStep id (leaveAll execution storage calls state).1
      (books (leaveAll execution storage calls state).2) := by
    apply inStep_leaveAll keeps undone
    left
    intro balance held
    exact Option.some.inj (held.symm.trans stored)
  have holds := isSome_balance?_leaveAll keeps calls state id
  rw [stored, Option.isSome_some, Option.isSome_iff_exists] at holds
  obtain ⟨balance, held⟩ := holds
  rw [held, inStep balance held]

end Call

/-- Cached and stored balances do not drift apart.  If every account of a ledger was loaded with its
stored balance, then after each of any calls, in whatever order they were let in and whichever of
their requests failed, every cached balance is still the stored one, as long as no undoing fails. -/
theorem cached_balances_are_stored (execution : Execution m World) (storage : Storage m)
    (books : World → Books) (keeps : storage.Keeps execution books) (accounts : Accounts)
    (world : World) (calls : List Call)
    (loaded : ∀ number id, accounts.id? number = some id →
      (books world).balance? id = some (accounts.read id).balance)
    (undone : Call.UndosSucceed execution storage calls (accounts, world)) :
    ∀ done, done <+: calls →
      let left := Call.leaveAll execution storage done (accounts, world)
      ∀ number id, left.1.id? number = some id →
        (books left.2).balance? id = some (left.1.read id).balance := by
  intro done part left number id known
  have knownBefore : accounts.id? number = some id := by
    have greatest := Call.greatest_leaveAll execution storage done (accounts, world)
    rw [← known]
    simp only [Accounts.id?, left, greatest]
  exact Call.balance?_leaveAll keeps (undone.of_prefix execution storage part)
    (loaded number id knownBefore)

/-- Two accounts stay in step while a settlement, a record and a listing fail: of the two credits of
the first account only the second is kept, and the one of the other account is undone. -/
theorem cached_balances_are_stored_amid_failures :
    let accounts := ((Accounts.ofGreatest 2).write ⟨1⟩ ⟨100, 500⟩).write ⟨2⟩ ⟨0, 70⟩
    let stored : Books := ⟨[⟨1, 100, 500⟩, ⟨2, 0, 70⟩], [], by decide⟩
    let credit : Movement := ⟨25, .credit, "gift", by decide, by decide⟩
    let calls : List Call := [.transact ⟨1⟩ credit, .transact ⟨2⟩ credit, .statement ⟨2⟩ 10,
      .transact ⟨1⟩ credit]
    let codes : List Code := [.connectionError, .ok, .fatal, .ok, .ok, .fatal]
    let left := Call.leaveAll Execution.direct Storage.dictated calls (accounts, codes, stored)
    (∀ number id, accounts.id? number = some id →
      stored.balance? id = some (accounts.read id).balance) ∧
    Call.UndosSucceed Execution.direct Storage.dictated calls (accounts, codes, stored) ∧
    left.2.2.balance? ⟨1⟩ = some 525 ∧ left.2.2.balance? ⟨2⟩ = some 70 := by
  intro accounts stored credit calls codes left
  have loaded : ∀ number id, accounts.id? number = some id →
      stored.balance? id = some (accounts.read id).balance := by
    intro number id known
    obtain ⟨range, same⟩ := Option.ite_none_right_eq_some.mp known
    change 1 ≤ number.toInt ∧ number.toInt ≤ 2 at range
    obtain rfl := Option.some.inj same
    have either : number = 1 ∨ number = 2 := by
      rw [← Int64.toInt_inj, ← Int64.toInt_inj]
      change number.toInt = 1 ∨ number.toInt = 2
      omega
    rcases either with first | second
    · subst first
      decide
    · subst second
      decide
  have undone : Call.UndosSucceed Execution.direct Storage.dictated calls
      (accounts, codes, stored) := by
    refine ⟨?_, ?_, ?_, ?_, trivial⟩ <;> decide
  have agree := cached_balances_are_stored Execution.direct Storage.dictated Prod.snd
    Storage.dictated_keeps accounts (codes, stored) calls loaded undone calls List.prefix_rfl
  refine ⟨loaded, undone, ?_, ?_⟩
  · rw [agree 1 ⟨1⟩ (by decide)]
    decide
  · rw [agree 2 ⟨2⟩ (by decide)]
    decide

end BankLedger.Ledger
