import Std.Data.TreeMap
import BankLedger.Ledger.Movement

/-!
# Accounts

The ledger keeps the balance and the overdraft limit of numbered accounts.  A debit is applied only
if the balance stays at or above the negated limit; a credit always is, and stops at the largest
balance that can be written.
-/

namespace BankLedger.Ledger

/-- The number of an account, checked against the range of a ledger. -/
structure AccountId where
  number : Int64
deriving DecidableEq

/-- The limit and the balance of an account. -/
structure Account where
  limit : Int64
  balance : Int64
deriving DecidableEq

namespace Account

/-- An account that was never loaded. -/
def blank : Account :=
  ⟨0, 0⟩

/-- The lowest balance that a debit may leave. -/
def floor (account : Account) : Int :=
  min (-account.limit.toInt) Int64.maxValue.toInt

/-- The account after a credit. -/
def credit (amount : Nat) (account : Account) : Account :=
  { account with
    balance := Int64.ofInt (min (account.balance.toInt + amount) Int64.maxValue.toInt) }

/-- The account after a debit, none if the debit is rejected. -/
def debit? (amount : Nat) (account : Account) : Option Account :=
  let balance := account.balance.toInt - amount
  if Int64.minValue.toInt ≤ balance ∧ account.floor ≤ balance then
    some { account with balance := Int64.ofInt balance }
  else none

/-- The account after a movement, none if it is rejected. -/
def move? (movement : Movement) (account : Account) : Option Account :=
  let amount := movement.amount.toInt.toNat
  match movement.direction with
  | .credit => some (account.credit amount)
  | .debit => account.debit? amount

/-- An account as JSON. -/
def toJson (account : Account) : Json :=
  .object [("limit", .integer account.limit.toInt), ("balance", .integer account.balance.toInt)]

end Account

/-- The accounts of a ledger.  Its own accounts are numbered from 1 to the greatest number. -/
structure Accounts where
  greatest : Int64
  entries : Std.TreeMap Int Account

namespace Accounts

/-- The accounts up to a number, none of them loaded. -/
def ofGreatest (greatest : Int64) : Accounts :=
  ⟨greatest, (List.range greatest.toInt.toNat).foldl
    (fun entries (index : Nat) => entries.insert (Int.ofNat index + 1) .blank) ∅⟩

/-- The checked number of an account of the ledger. -/
def id? (accounts : Accounts) (number : Int64) : Option AccountId :=
  if 1 ≤ number.toInt ∧ number.toInt ≤ accounts.greatest.toInt then some ⟨number⟩ else none

/-- An account. -/
def read (accounts : Accounts) (id : AccountId) : Account :=
  accounts.entries.getD id.number.toInt .blank

/-- The ledger with an account replaced. -/
def write (id : AccountId) (account : Account) (accounts : Accounts) : Accounts :=
  { accounts with entries := accounts.entries.insert id.number.toInt account }

/-- Credits an account and tells its new balance. -/
def credit (id : AccountId) (amount : Nat) (accounts : Accounts) : Int64 × Accounts :=
  let account := (accounts.read id).credit amount
  (account.balance, accounts.write id account)

/-- Debits an account and tells its new balance, none if the debit is rejected. -/
def debit (id : AccountId) (amount : Nat) (accounts : Accounts) : Option Int64 × Accounts :=
  match (accounts.read id).debit? amount with
  | some account => (some account.balance, accounts.write id account)
  | none => (none, accounts)

theorem read_write (id other : AccountId) (account : Account) (accounts : Accounts) :
    (accounts.write id account).read other = if id = other then account else accounts.read other := by
  simp only [read, write, Std.TreeMap.getD_insert]
  by_cases same : id = other
  · subst same
    simp
  · have differ : compare id.number.toInt other.number.toInt ≠ .eq := by
      intro equal
      apply same
      cases id
      cases other
      simpa [Int64.toInt_inj] using equal
    simp [same, differ]

end Accounts

end BankLedger.Ledger
