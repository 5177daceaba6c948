import BankLedger.Proofs.Ledger.Transaction

/-!
# Calls on a bank

Clients call a bank in any number and any order, and the lock of the ledger lets one call in after
the other.  So what the clients do together is a list of calls, in the order in which they were let
in, whoever made them.  A statement lists its movements after it has let go of the lock; a listing
changes neither the accounts nor the books, so it is taken here to follow at once.  This module says
what a list of calls leaves and which exchanges each of them makes, and reduces a call to the course
that it takes.
-/

namespace BankLedger.Ledger

open BankLedger.Sql

variable {m : Type → Type} [Monad m] {World : Type}

/-- A call of a client. -/
inductive Call
  | transact (id : AccountId) (movement : Movement)
  | statement (id : AccountId) (limit : Int64)

/-- Whether exchanges of a call end with a settlement that could not be undone.  Only the undoing of
a transaction comes third. -/
def undoFails (exchanges : List Exchange) : Bool :=
  exchanges[2]?.any Exchange.failed

namespace Call

/-- The account that a call names. -/
def account : Call → AccountId
  | .transact id _ => id
  | .statement id _ => id

variable (execution : Execution m World) (storage : Storage m)

/-- The accounts and the world that a call leaves. -/
def leave : Call → Accounts × World → Accounts × World
  | .transact id movement, state =>
      ((execution.withState Accounts).run (Bank.transact storage id movement) state).2
  | .statement id limit, state =>
      ((execution.withState Accounts).run (Bank.statement storage limit id) state).2

/-- The exchanges that a call makes. -/
def exchanges : Call → Accounts × World → List Exchange
  | .transact id movement, state =>
      storage.exchanges execution (Bank.transact · id movement) state.1 state.2
  | .statement id limit, state =>
      storage.exchanges execution (Bank.statement · limit id) state.1 state.2

/-- The accounts and the world that some calls leave, the first of the list first. -/
def leaveAll : List Call → Accounts × World → Accounts × World
  | [], state => state
  | call :: calls, state => leaveAll calls (call.leave execution storage state)

/-- A property of every call of a list in the state that it finds. -/
def Throughout (property : Call → Accounts × World → Prop) :
    List Call → Accounts × World → Prop
  | [], _ => True
  | call :: calls, state =>
      property call state ∧ Throughout property calls (call.leave execution storage state)

theorem throughout_append {property : Call → Accounts × World → Prop} (first second : List Call)
    (state : Accounts × World) :
    Throughout execution storage property (first ++ second) state ↔
      Throughout execution storage property first state ∧
        Throughout execution storage property second
          (leaveAll execution storage first state) := by
  induction first generalizing state with
  | nil => simp only [List.nil_append, Throughout, leaveAll, true_and]
  | cons call calls inductionHypothesis =>
      simp only [List.cons_append, Throughout, leaveAll, inductionHypothesis, and_assoc]

/-- No settlement meant to undo another one fails during some calls. -/
def UndosSucceed : List Call → Accounts × World → Prop :=
  Throughout execution storage fun call state =>
    undoFails (call.exchanges execution storage state) = false

theorem UndosSucceed.of_prefix {done calls : List Call} {state : Accounts × World}
    (undone : UndosSucceed execution storage calls state) (part : done <+: calls) :
    UndosSucceed execution storage done state := by
  obtain ⟨others, rfl⟩ := part
  exact ((throughout_append execution storage done others state).mp undone).1

theorem served_leave (call : Call) (state : Accounts × World) :
    storage.Served execution state.2 (call.exchanges execution storage state)
      (call.leave execution storage state).2 := by
  cases call with
  | transact id movement => exact (transact_course execution storage id movement _ _).1
  | statement id limit => exact (statement_course execution storage id limit _ _).1

/-- The books after a call are those before it with the exchanges of the call noted. -/
theorem books_leave {books : World → Books} (keeps : storage.Keeps execution books) (call : Call)
    (state : Accounts × World) :
    books (call.leave execution storage state).2 =
      (books state.2).noteAll (call.exchanges execution storage state) :=
  keeps.books_of_served (call.served_leave execution storage state)

theorem greatest_leave (call : Call) (state : Accounts × World) :
    (call.leave execution storage state).1.greatest = state.1.greatest := by
  cases call with
  | transact id movement => exact (transact_course execution storage id movement _ _).2.greatest
  | statement id limit =>
      exact congrArg Accounts.greatest (statement_course execution storage id limit _ _).2.1

theorem greatest_leaveAll (calls : List Call) (state : Accounts × World) :
    (leaveAll execution storage calls state).1.greatest = state.1.greatest := by
  induction calls generalizing state with
  | nil => rfl
  | cons call calls inductionHypothesis =>
      exact (inductionHypothesis _).trans (greatest_leave execution storage call state)

/-- A call changes no cached account but the one that it names. -/
theorem read_leave_of_ne (call : Call) (state : Accounts × World) {other : AccountId}
    (differ : other ≠ call.account) :
    (call.leave execution storage state).1.read other = state.1.read other := by
  cases call with
  | transact id movement =>
      exact (transact_course execution storage id movement _ _).2.read_of_ne differ
  | statement id limit =>
      exact congrArg (Accounts.read · other) (statement_course execution storage id limit _ _).2.1

/-- A call changes no stored account but the one that it names. -/
theorem account?_leave_of_ne {books : World → Books} (keeps : storage.Keeps execution books)
    (call : Call) (state : Accounts × World) {other : AccountId}
    (differ : other ≠ call.account) :
    (books (call.leave execution storage state).2).account? other =
      (books state.2).account? other := by
  rw [books_leave execution storage keeps]
  cases call with
  | transact id movement =>
      exact (transact_course execution storage id movement _ _).2.account?_of_ne _ differ
  | statement id limit =>
      exact (statement_course execution storage id limit _ _).2.2.account?_of_ne _ differ

end Call

end BankLedger.Ledger
