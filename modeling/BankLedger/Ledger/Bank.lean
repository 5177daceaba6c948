import BankLedger.Ledger.Storage

/-!
# The bank

The bank pairs every change of an account with its storage.  A balance is settled before its
movement is recorded.  If the movement cannot be recorded, the previous balance is settled again, so
that the stored movements add up to the stored balance; and whenever storage fails the account is
put back as it was.
-/

namespace BankLedger.Ledger

open BankLedger.Sql

/-- How a movement ended: a debit may be rejected by the overdraft limit. -/
inductive MovementOutcome
  | completed (after : Account)
  | rejected
deriving DecidableEq

/-- Why the bank did not do what it was asked to. -/
inductive BankFailure
  | unknownAccount (number : Int64)
  | invalidMovement (cause : InvalidMovement)
  | storage (cause : StorageFailure)
deriving DecidableEq

namespace BankFailure

/-- The wording of a failure. -/
def message : BankFailure → String
  | .unknownAccount number => s!"account {number.toInt} does not exist"
  | .invalidMovement cause => s!"invalid transaction: {cause.message}"
  | .storage cause => s!"storage failure: {cause.message}"

/-- The messages of the causes of a failure. -/
def causes : BankFailure → List String
  | .unknownAccount _ => []
  | .invalidMovement cause => [cause.message]
  | .storage cause => [cause.message]

end BankFailure

/-- An account with its latest movements, newest first. -/
structure Statement where
  account : Account
  movements : List StoredMovement
deriving DecidableEq

/-- The movements of a statement as JSON. -/
def Statement.movementsJson (statement : Statement) : Json :=
  .array (statement.movements.map StoredMovement.toJson)

/-- A statement taken at a given time as JSON. -/
def Statement.toJson (takenAt : String) (statement : Statement) : Json :=
  .object [
    ("summary", .object [("balance", .integer statement.account.balance.toInt),
      ("limit", .integer statement.account.limit.toInt), ("taken_at", .string takenAt)]),
    ("movements", statement.movementsJson)]

/-- An action of the bank on the accounts, with the effects of its storage. -/
abbrev BankAction (m : Type → Type) :=
  StateT Accounts m

namespace Bank

variable {m : Type → Type} [Monad m]

/-- The accounts with a stored account taken in, if its number is in range, and the number of
accounts taken in so far. -/
def loadRow (loaded : Nat × Accounts) (row : AccountRow) : Nat × Accounts :=
  match loaded.2.id? row.number with
  | some id => (loaded.1 + 1, loaded.2.write id row.account)
  | none => loaded

/-- The accounts with some stored accounts taken in, and how many were. -/
def loadRows (rows : List AccountRow) (accounts : Accounts) : Nat × Accounts :=
  rows.foldl loadRow (0, accounts)

/-- Loads the accounts from storage and tells how many there were.  A failure leaves the accounts
as they are. -/
def load (storage : Storage m) : BankAction m (Except StorageFailure Nat) := do
  match ← liftM (storage.request .loadAccounts) with
  | .error failure => return .error failure
  | .ok result => .ok <$> modifyGet (loadRows (AccountRow.ofResult result))

/-- Stores a new balance and the movement that led to it. -/
def persist (storage : Storage m) (id : AccountId) (movement : Movement)
    (before after : Account) : m (Except StorageFailure Unit) := do
  match ← storage.request (.settleBalance id after.balance) with
  | .error failure => return .error failure
  | .ok _ =>
      match ← storage.request (.recordMovement id movement) with
      | .ok _ => return .ok ()
      | .error failure =>
          let _ ← storage.request (.settleBalance id before.balance)
          return .error failure

/-- Applies a movement to an account and stores it. -/
def transact (storage : Storage m) (id : AccountId) (movement : Movement) :
    BankAction m (Except StorageFailure MovementOutcome) := do
  let before := (← get).read id
  match before.move? movement with
  | none => return .ok .rejected
  | some after =>
      modify (Accounts.write id after)
      match ← liftM (persist storage id movement before after) with
      | .ok () => return .ok (.completed after)
      | .error failure =>
          modify (Accounts.write id before)
          return .error failure

/-- Stores the balance of an account again and lists its latest movements. -/
def statement (storage : Storage m) (limit : Int64) (id : AccountId) :
    BankAction m (Except StorageFailure Statement) := do
  let account := (← get).read id
  match ← liftM (storage.request (.settleBalance id account.balance)) with
  | .error failure => return .error failure
  | .ok _ =>
      match ← liftM (storage.request (.recentMovements id limit)) with
      | .error failure => return .error failure
      | .ok result => return .ok ⟨account, StoredMovement.ofResult result⟩

/-- Applies the movement that a request describes to the account of a number. -/
def transactRequest (storage : Storage m) (number : Int64) (body : String) :
    BankAction m (Except BankFailure MovementOutcome) := do
  match (← get).id? number with
  | none => return .error (.unknownAccount number)
  | some id =>
      match Movement.ofRequest body with
      | .error invalid => return .error (.invalidMovement invalid)
      | .ok movement => return (← transact storage id movement).mapError .storage

/-- The statement of the account of a number. -/
def statementOf (storage : Storage m) (limit : Int64) (number : Int64) :
    BankAction m (Except BankFailure Statement) := do
  match (← get).id? number with
  | none => return .error (.unknownAccount number)
  | some id => return (← statement storage limit id).mapError .storage

end Bank

end BankLedger.Ledger
