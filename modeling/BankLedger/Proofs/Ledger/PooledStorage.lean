import BankLedger.Ledger.Startup
import BankLedger.Proofs.Database.Footprint
import BankLedger.Proofs.Ledger.Bookkeeping
import BankLedger.Proofs.Sql.ResultSet
import BankLedger.Proofs.Text.Digits

/-!
# Storages behind a pool

A request travels to a backend as a query with texts, and can be read back from them.  A backend
holds books if it leaves them to its queries and notes in them every request that it runs.  The
storage that a pool reaches through such a backend keeps those books, whatever the state of the
pool: a request for which no connection is idle fails without any effect.
-/

namespace BankLedger.Ledger

open BankLedger.Database BankLedger.Sql BankLedger.Text

namespace Request

/-- The texts that the parameters of a request are sent as. -/
def texts : Request → List WireText
  | .loadAccounts => []
  | .settleBalance account value | .recentMovements account value =>
      [some (toString account.number.toInt), some (toString value.toInt)]
  | .recordMovement account movement =>
      [some (toString account.number.toInt), some (Value.boolText movement.direction.isCredit),
        some (toString movement.amount.toInt), some movement.description]

/-- Every request can be sent. -/
theorem wireTexts_parameters (request : Request) :
    wireTexts request.parameters = .ok request.texts := by
  cases request <;> rfl

/-- The number that a text spells. -/
def numberOfText? (text : String) : Option Int64 :=
  (readInt64 text.toList).toOption

@[simp] theorem numberOfText?_repr (number : Int64) :
    numberOfText? number.toInt.repr = some number := by
  rw [numberOfText?, readInt64_repr]
  rfl

/-- The request that was sent as a query with texts. -/
def ofWire? (query : String) : List WireText → Option Request
  | [] => if query = loadAccounts.query then some .loadAccounts else none
  | [some account, some value] => do
      let account := AccountId.mk (← numberOfText? account)
      let value ← numberOfText? value
      if query = (settleBalance account value).query then some (.settleBalance account value)
      else if query = (recentMovements account value).query then
        some (.recentMovements account value)
      else none
  | [some account, some isCredit, some amount, some description] => do
      let account := AccountId.mk (← numberOfText? account)
      let direction := Direction.ofCreditFlag (isCredit == Value.boolText true)
      let movement ← (Movement.make (← numberOfText? amount) direction description).toOption
      if query = (recordMovement account movement).query then
        some (.recordMovement account movement)
      else none
  | _ => none

/-- A request can be read back from what is sent. -/
theorem ofWire?_texts (request : Request) : ofWire? request.query request.texts = some request := by
  cases request with
  | loadAccounts => rfl
  | settleBalance account balance =>
      simp [ofWire?, texts, query]
  | recordMovement account movement =>
      have direction : Direction.ofCreditFlag
          (Value.boolText movement.direction.isCredit == Value.boolText true) =
            movement.direction := by
        cases movement.direction <;> rfl
      simp [ofWire?, texts, direction, query,
        Except.toOption]
  | recentMovements account limit =>
      simp [ofWire?, texts, query]

end Request

variable {m : Type → Type} [Monad m] {World Connection Handshake : Type}

/-- A backend that holds books: a query changes them as its request says if it succeeds and not at
all if it fails, nothing else changes them, and the accounts that it lists are stored in them. -/
structure HoldsBooks (backend : Backend m Connection Handshake) (execution : Execution m World)
    (books : World → Books) : Prop extends backend.Leaves execution books where
  execute : ∀ (connection : Connection) (request : Request) (world : World),
    let outcome := execution.run (backend.execute connection request.query request.texts) world
    books outcome.2 = (books world).note ⟨request, outcome.1.2⟩
  listed : ∀ (connection : Connection) (world : World),
    let outcome := execution.run (backend.execute connection Request.loadAccounts.query []) world
    outcome.1.2.code.isError = false → ∀ row ∈ AccountRow.ofResult outcome.1.2,
      (books world).account? ⟨row.number⟩ = some row.account

namespace HoldsBooks

variable {backend : Backend m Connection Handshake} {execution : Execution m World}
variable {books : World → Books}

/-- A request made of a pool finds no connection and fails without effect, or some connection runs
it. -/
theorem exchange_pooledStorage (holds : HoldsBooks backend execution books) (request : Request)
    (pool : Pool Connection Handshake) (world : World) :
    let pooled := execution.withState (Pool Connection Handshake)
    let exchange := (pooledStorage backend).exchange pooled request (pool, world)
    let left := (pooledStorage backend).leave pooled request (pool, world)
    (exchange.failed = true ∧ left.2 = world) ∨
      ∃ connection,
        let executed :=
          execution.run (backend.execute connection request.query request.texts) world
        exchange = ⟨request, executed.1.2⟩ ∧ books left.2 = books executed.2 := by
  intro pooled exchange left
  rcases holds.execute_exhausted_or_executed request.query request.wireTexts_parameters pool world
    with ⟨result, unchanged⟩ | ⟨connection, result, noted⟩
  · refine .inl ⟨?_, unchanged⟩
    change exchange.result = Pool.exhausted left.1 at result
    rw [Exchange.failed, result]
    rfl
  · refine .inr ⟨connection, ?_, noted⟩
    exact congrArg (Exchange.mk request) result

/-- A pool over a backend that holds books reaches a storage that keeps them. -/
theorem pooledStorage_keeps (holds : HoldsBooks backend execution books) :
    (pooledStorage backend).Keeps (execution.withState (Pool Connection Handshake))
      (fun pair => books pair.2) := by
  intro request (pool, world)
  dsimp only
  rcases holds.exchange_pooledStorage request pool world with
    ⟨failed, unchanged⟩ | ⟨connection, exchange, noted⟩
  · rw [Books.note, failed, if_pos rfl, unchanged]
  · rw [exchange, noted]
    exact holds.execute connection request world

/-- The accounts that a request lists are those of the books. -/
theorem pooledStorage_listed (holds : HoldsBooks backend execution books)
    (pool : Pool Connection Handshake) (world : World) :
    let listing := (pooledStorage backend).exchange
      (execution.withState (Pool Connection Handshake)) .loadAccounts (pool, world)
    listing.failed = false → ∀ row ∈ AccountRow.ofResult listing.result,
      (books world).account? ⟨row.number⟩ = some row.account := by
  intro listing succeeded
  rcases holds.exchange_pooledStorage .loadAccounts pool world with
    ⟨failed, _⟩ | ⟨connection, exchange, _⟩
  · exact absurd (succeeded.symm.trans failed) Bool.false_ne_true
  · change listing = _ at exchange
    rw [exchange] at succeeded ⊢
    exact holds.listed connection world succeeded

end HoldsBooks

/-! ## Dictated backends -/

/-- A backend that always connects, with a dictated storage behind it. -/
def dictatedBackend : Backend (StateM (List Code × Books)) Unit Unit where
  vendor := "dictated"
  connectionSize := 0
  connect _ := return .ok ()
  startHandshake _ := return .ok ()
  pollHandshake _ := return .ready ()
  execute _ query texts :=
    match Request.ofWire? query texts with
    | some request => do return ((), ← Storage.dictated request)
    | none => return ((), .status .unknown "")
  close _ := return ()

/-- A dictated storage lists the rows of its books. -/
theorem ofResult_dictatedResult (code : Code) (books : Books) :
    AccountRow.ofResult (Storage.dictatedResult code books .loadAccounts) = books.rows := by
  have read (row : AccountRow) :
      AccountRow.ofCells? (ResultSet.fitRow 3 (Storage.rowCells row)) = some row := by
    change AccountRow.ofCells? (ResultSet.fitRow (Storage.rowCells row).length _) = some row
    rw [ResultSet.fitRow_length]
    rfl
  rw [AccountRow.ofResult, Storage.dictatedResult, ResultSet.rows_pushRows]
  simp only [ResultSet.ofFields, List.nil_append, List.map_map, List.filterMap_map,
    Function.comp_def, List.length_cons, List.length_nil, read, List.filterMap_some]

theorem dictatedBackend_holdsBooks :
    HoldsBooks dictatedBackend Execution.direct (Prod.snd : List Code × Books → Books) where
  connect _ _ := rfl
  startHandshake _ _ := rfl
  pollHandshake _ _ := rfl
  close _ _ := rfl
  execute connection request world := by
    simp only [dictatedBackend, Request.ofWire?_texts]
    exact Storage.dictated_keeps request world
  listed connection world := by
    intro outcome succeeded row member
    have listed : AccountRow.ofResult outcome.1.2 = world.2.rows :=
      ofResult_dictatedResult (world.1.headD .ok) world.2
    rw [listed] at member
    exact Books.account?_of_mem member

end BankLedger.Ledger
