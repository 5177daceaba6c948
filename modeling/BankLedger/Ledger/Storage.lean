import BankLedger.Ledger.Accounts
import BankLedger.Sql.ResultSet

/-!
# Storage

The accounts and the movements are stored in a database.  The ledger makes four requests of it, each
a fixed query with parameters, and a request has failed exactly if the code of its result is an
error.  A row that cannot be read is skipped.
-/

namespace BankLedger.Ledger

open BankLedger.Sql

/-- What the ledger asks of the storage. -/
inductive Request
  | loadAccounts
  | settleBalance (account : AccountId) (balance : Int64)
  | recordMovement (account : AccountId) (movement : Movement)
  | recentMovements (account : AccountId) (limit : Int64)

namespace Request

/-- The query of a request. -/
def query : Request → String
  | .loadAccounts => "select id, account_limit, balance from accounts"
  | .settleBalance .. => "call settle_balance($1, $2)"
  | .recordMovement .. => "call record_movement($1, $2, $3, $4)"
  | .recentMovements .. =>
      "select amount, is_credit, description, performed_at from recent_movements($1, $2)"

/-- The parameters of the query of a request. -/
def parameters : Request → List Value
  | .loadAccounts => []
  | .settleBalance account balance => [.int account.number, .int balance]
  | .recordMovement account movement =>
      [.int account.number, .bool movement.direction.isCredit, .int movement.amount,
        .string movement.description]
  | .recentMovements account limit => [.int account.number, .int limit]

end Request

/-- What answers the requests. -/
abbrev Storage (m : Type → Type) :=
  Request → m ResultSet

/-- A request that failed. -/
structure StorageFailure where
  code : Code
  reason : String
deriving DecidableEq

/-- The wording of a failed request. -/
def StorageFailure.message (failure : StorageFailure) : String :=
  s!"{failure.code.name}: {failure.reason}"

/-- The result of a request, if it did not fail. -/
def checkResult (result : ResultSet) : Except StorageFailure ResultSet :=
  if result.code.isError then .error ⟨result.code, result.message⟩ else .ok result

/-- Makes a request and checks its result. -/
def Storage.request {m : Type → Type} [Monad m] (storage : Storage m) (request : Request) :
    m (Except StorageFailure ResultSet) := do
  return checkResult (← storage request)

/-! ## Rows -/

/-- A stored account. -/
structure AccountRow where
  number : Int64
  account : Account
deriving DecidableEq

/-- The account in a row of the accounts. -/
def AccountRow.ofCells? : List Value → Option AccountRow
  | .int number :: .int limit :: .int balance :: _ => some ⟨number, ⟨limit, balance⟩⟩
  | _ => none

/-- The accounts in a result. -/
def AccountRow.ofResult (result : ResultSet) : List AccountRow :=
  result.rows.filterMap AccountRow.ofCells?

/-- A stored movement. -/
structure StoredMovement where
  amount : Int64
  direction : Direction
  description : String
  performedAt : String
deriving DecidableEq

namespace StoredMovement

/-- The movement in a row of the recent movements. -/
def ofCells? : List Value → Option StoredMovement
  | .int amount :: .bool isCredit :: .string description :: .string performedAt :: _ =>
      some ⟨amount, .ofCreditFlag isCredit, description, performedAt⟩
  | _ => none

/-- The movements in a result. -/
def ofResult (result : ResultSet) : List StoredMovement :=
  result.rows.filterMap ofCells?

/-- A stored movement as JSON. -/
def toJson (movement : StoredMovement) : Json :=
  .object [("amount", .integer movement.amount.toInt),
    ("direction", .string movement.direction.letter),
    ("description", .string movement.description),
    ("performed_at", .string movement.performedAt)]

end StoredMovement

end BankLedger.Ledger
