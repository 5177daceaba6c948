import BankLedger.Ledger.Bank
import BankLedger.Proofs.Ledger.Books

/-!
# Storages that keep books

A storage is observed in two ways.  Its books tell what the requests did, and a storage that is
noted tells which exchanges an action made with it.  A storage keeps its books if every exchange
changes them as `Books.note` says; the world of the execution alone decides which requests fail.
-/

namespace BankLedger.Ledger

open BankLedger.Sql

variable {m : Type → Type} [Monad m] {World : Type}

namespace Storage

section

variable (execution : Execution m World) (storage : Storage m)

/-- The exchange that a request makes in a world. -/
def exchange (request : Request) (world : World) : Exchange :=
  ⟨request, (execution.run (storage request) world).1⟩

/-- The world that a request leaves. -/
def leave (request : Request) (world : World) : World :=
  (execution.run (storage request) world).2

/-- A request that takes effect succeeds, and one that fails changes nothing. -/
def Keeps (books : World → Books) : Prop :=
  ∀ (request : Request) (world : World),
    books (storage.leave execution request world) =
      (books world).note (storage.exchange execution request world)

/-- The exchanges made one after the other from a world on, and the world they leave. -/
inductive Served : World → List Exchange → World → Prop
  | nil (world : World) : Served world [] world
  | cons (request : Request) {world last : World} {exchanges : List Exchange} :
      Served (storage.leave execution request world) exchanges last →
      Served world (storage.exchange execution request world :: exchanges) last

variable {execution storage} in
theorem Served.eq_of_nil {world last : World} (served : Served execution storage world [] last) :
    last = world := by
  cases served
  rfl

theorem run_request (request : Request) (world : World) :
    execution.run (storage.request request) world =
      (if (storage.exchange execution request world).failed then
          .error (storage.exchange execution request world).failure
        else .ok (storage.exchange execution request world).result,
        storage.leave execution request world) := by
  simp only [Storage.request, execution.run_bind, execution.run_pure]
  exact Prod.ext (Exchange.checkResult_result (storage.exchange execution request world)) rfl

end

/-- The books after the exchanges made with a storage that keeps them. -/
theorem Keeps.books_of_served {execution : Execution m World} {storage : Storage m}
    {books : World → Books} (keeps : storage.Keeps execution books) {world last : World}
    {exchanges : List Exchange} (served : storage.Served execution world exchanges last) :
    books last = (books world).noteAll exchanges := by
  induction served with
  | nil world => rfl
  | cons request served inductionHypothesis =>
      rw [inductionHypothesis, keeps request, Books.noteAll_cons]

/-! ## Noted storages -/

/-- A storage that notes every exchange, oldest first. -/
def noted (storage : Storage m) : Storage (StateT (List Exchange) m) := fun request => do
  let result ← liftM (storage request)
  modify (· ++ [⟨request, result⟩])
  return result

variable (execution : Execution m World) (storage : Storage m)

@[simp] theorem exchange_noted (request : Request) (notes : List Exchange) (world : World) :
    storage.noted.exchange (execution.withState (List Exchange)) request (notes, world) =
      storage.exchange execution request world := by
  simp [exchange, noted]

@[simp] theorem leave_noted (request : Request) (notes : List Exchange) (world : World) :
    storage.noted.leave (execution.withState (List Exchange)) request (notes, world) =
      (notes ++ [storage.exchange execution request world],
        storage.leave execution request world) := by
  simp [exchange, leave, noted]

/-- The exchanges that an action of the bank makes. -/
def exchanges {α : Type}
    (action : Storage (StateT (List Exchange) m) → BankAction (StateT (List Exchange) m) α)
    (accounts : Accounts) (world : World) : List Exchange :=
  (((execution.withState (List Exchange)).withState Accounts).run (action storage.noted)
    (accounts, [], world)).2.2.1

/-! ## Dictated storages -/

/-- The rows of the books as the result of a request. -/
def rowCells (row : AccountRow) : List Value :=
  [.int row.number, .int row.account.limit, .int row.account.balance]

/-- A result with a given code: the accounts, if they are asked for, and nothing else. -/
def dictatedResult (code : Code) (books : Books) : Request → ResultSet
  | .loadAccounts =>
      (ResultSet.ofFields ["id", "account_limit", "balance"] code "").pushRows
        (books.rows.map rowCells)
  | _ => .status code ""

/-- A storage whose results are dictated: every request is answered with the next code, and with
success once they are used up. -/
def dictated : Storage (StateM (List Code × Books)) := fun request =>
  modifyGet fun (codes, books) =>
    let result := dictatedResult (codes.headD .ok) books request
    (result, codes.tail, books.note ⟨request, result⟩)

theorem dictated_keeps : dictated.Keeps Execution.direct Prod.snd :=
  fun _ _ => rfl

end Storage

end BankLedger.Ledger
