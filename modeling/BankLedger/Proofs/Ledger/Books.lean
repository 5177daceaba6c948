import BankLedger.Ledger.Storage
import BankLedger.Proofs.Execution

/-!
# Books

The books are what a storage holds: a row for each account that it knows and the movements recorded
so far.  They say what a request does when it takes effect, and so what it means that a storage
keeps its books: a request that succeeds takes effect, one that fails changes nothing.  Which
requests fail is left to the world of an execution.
-/

namespace BankLedger.Ledger

open BankLedger.Sql

/-- A request with the result that answered it. -/
structure Exchange where
  request : Request
  result : ResultSet

namespace Exchange

/-- Whether the request failed. -/
def failed (exchange : Exchange) : Bool :=
  exchange.result.code.isError

/-- What a caller is told when the request failed. -/
def failure (exchange : Exchange) : StorageFailure :=
  ⟨exchange.result.code, exchange.result.message⟩

theorem checkResult_result (exchange : Exchange) :
    checkResult exchange.result =
      if exchange.failed then .error exchange.failure else .ok exchange.result := rfl

end Exchange

/-- The rows of the accounts, each number once, and the recorded movements, oldest first. -/
structure Books where
  rows : List AccountRow
  movements : List (AccountId × Movement)
  numbers_distinct : (rows.map AccountRow.number).Nodup

namespace Books

/-- The books of one account, with no movement recorded. -/
def ofRow (row : AccountRow) : Books :=
  ⟨[row], [], by simp⟩

/-- The stored account of a number. -/
def account? (books : Books) (id : AccountId) : Option Account :=
  (books.rows.find? fun row => row.number == id.number).map AccountRow.account

/-- The stored balance of a number. -/
def balance? (books : Books) (id : AccountId) : Option Int64 :=
  (books.account? id).map Account.balance

/-- A row of the books is the stored account of its number. -/
theorem account?_of_mem {row : AccountRow} {books : Books} (member : row ∈ books.rows) :
    books.account? ⟨row.number⟩ = some row.account := by
  have found : books.rows.find? (fun other => other.number == row.number) = some row := by
    have distinct := books.numbers_distinct
    generalize books.rows = rows at member distinct
    induction rows with
    | nil => contradiction
    | cons first rows inductionHypothesis =>
        rw [List.map_cons, List.nodup_cons] at distinct
        rcases List.mem_cons.mp member with rfl | later
        · exact List.find?_cons_of_pos (by simp)
        · have differ : first.number ≠ row.number := by
            intro same
            exact distinct.1 (List.mem_map.mpr ⟨row, later, same.symm⟩)
          rw [List.find?_cons_of_neg (by simpa using differ)]
          exact inductionHypothesis later distinct.2
  rw [account?, found, Option.map_some]

/-- A row with a new balance, if it is the row of the account settled. -/
def settleRow (id : AccountId) (balance : Int64) (row : AccountRow) : AccountRow :=
  if row.number = id.number then { row with account.balance := balance } else row

@[simp] theorem number_settleRow (id : AccountId) (balance : Int64) (row : AccountRow) :
    (settleRow id balance row).number = row.number := by
  unfold settleRow
  split <;> rfl

/-- The books with a balance settled.  An account without a row stays without one. -/
def settle (id : AccountId) (balance : Int64) (books : Books) : Books :=
  { books with
    rows := books.rows.map (settleRow id balance)
    numbers_distinct := by
      have numbers : (books.rows.map (settleRow id balance)).map AccountRow.number =
          books.rows.map AccountRow.number := by
        simp only [List.map_map]
        exact List.map_congr_left fun row _ => number_settleRow id balance row
      rw [numbers]
      exact books.numbers_distinct }

/-- The books with a movement recorded. -/
def record (id : AccountId) (movement : Movement) (books : Books) : Books :=
  { books with movements := books.movements ++ [(id, movement)] }

/-- The books after a request that took effect. -/
def after : Request → Books → Books
  | .settleBalance id balance, books => books.settle id balance
  | .recordMovement id movement, books => books.record id movement
  | .loadAccounts, books | .recentMovements .., books => books

/-- The books after an exchange: a request that failed changed nothing. -/
def note (exchange : Exchange) (books : Books) : Books :=
  if exchange.failed then books else books.after exchange.request

theorem note_of_failed {exchange : Exchange} (failed : exchange.failed = true) (books : Books) :
    books.note exchange = books := by
  rw [note, if_pos failed]

theorem note_of_succeeded {exchange : Exchange} (succeeded : exchange.failed = false)
    (books : Books) : books.note exchange = books.after exchange.request := by
  rw [note, succeeded, if_neg Bool.false_ne_true]

/-- The books after some exchanges, the first of the list first. -/
def noteAll (exchanges : List Exchange) (books : Books) : Books :=
  exchanges.foldl (fun books exchange => books.note exchange) books

@[simp] theorem noteAll_nil (books : Books) : books.noteAll [] = books := rfl

@[simp] theorem noteAll_cons (exchange : Exchange) (exchanges : List Exchange) (books : Books) :
    books.noteAll (exchange :: exchanges) = (books.note exchange).noteAll exchanges := rfl

theorem account?_settle (id other : AccountId) (balance : Int64) (books : Books) :
    (books.settle id balance).account? other =
      if id = other then (books.account? other).map ({ · with balance := balance })
      else books.account? other := by
  have sameRow : (fun row : AccountRow => row.number == other.number) ∘ settleRow id balance =
      fun row => row.number == other.number := by
    funext row
    simp only [Function.comp_apply, number_settleRow]
  simp only [account?, settle, List.find?_map, sameRow, Option.map_map]
  cases found : books.rows.find? fun row => row.number == other.number with
  | none => simp
  | some row =>
      have number : row.number = other.number := by
        simpa using List.find?_some found
      by_cases same : id = other
      · subst same
        simp [settleRow, number]
      · have differ : other.number ≠ id.number := by
          intro equal
          cases id
          cases other
          exact same (congrArg AccountId.mk equal.symm)
        simp [settleRow, number, differ, same]

theorem balance?_settle (id other : AccountId) (balance : Int64) (books : Books) :
    (books.settle id balance).balance? other =
      if id = other then (books.balance? other).map fun _ => balance
      else books.balance? other := by
  simp only [balance?, account?_settle]
  split <;> simp [Option.map_map, Function.comp_def]

/-- A row neither appears nor vanishes. -/
theorem isSome_balance?_note (exchange : Exchange) (id : AccountId) (books : Books) :
    ((books.note exchange).balance? id).isSome = (books.balance? id).isSome := by
  unfold note
  split
  · rfl
  · cases exchange.request with
    | settleBalance other balance =>
        simp only [after, balance?_settle]
        split <;> simp
    | recordMovement other movement => rfl
    | loadAccounts | recentMovements other limit => rfl

theorem isSome_balance?_noteAll (exchanges : List Exchange) (id : AccountId) (books : Books) :
    ((books.noteAll exchanges).balance? id).isSome = (books.balance? id).isSome := by
  induction exchanges generalizing books with
  | nil => rfl
  | cons exchange exchanges inductionHypothesis =>
      rw [noteAll_cons, inductionHypothesis, isSome_balance?_note]

@[simp] theorem movements_settle (id : AccountId) (balance : Int64) (books : Books) :
    (books.settle id balance).movements = books.movements := rfl

@[simp] theorem account?_record (id other : AccountId) (movement : Movement) (books : Books) :
    (books.record id movement).account? other = books.account? other := rfl

@[simp] theorem balance?_record (id other : AccountId) (movement : Movement) (books : Books) :
    (books.record id movement).balance? other = books.balance? other := rfl

@[simp] theorem movements_record (id : AccountId) (movement : Movement) (books : Books) :
    (books.record id movement).movements = books.movements ++ [(id, movement)] := rfl

end Books

end BankLedger.Ledger
