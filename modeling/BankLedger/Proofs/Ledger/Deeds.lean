import BankLedger.Proofs.Database.Journal
import BankLedger.Proofs.Ledger.Beginning
import BankLedger.Proofs.Ledger.PooledStorage
import BankLedger.Proofs.Ledger.Transaction

/-!
# The deeds of a bank

What a bank asks of the storage behind a pool shows in the journal of the backend: an exchange that
took effect stands there as a call with the texts of its request, and one that failed as a call
without effect or not at all.  So the effects that a transaction has in the journal are those of its
course.
-/

namespace BankLedger.Ledger

open BankLedger.Database BankLedger.Settings BankLedger.Sql

variable {m : Type → Type} [Monad m] {World Connection Handshake : Type}

/-- The query of every request to settle a balance. -/
def settlementQuery : String :=
  "call settle_balance($1, $2)"

/-- The query of every request to record a movement. -/
def recordQuery : String :=
  "call record_movement($1, $2, $3, $4)"

@[simp] theorem query_settleBalance (id : AccountId) (balance : Int64) :
    (Request.settleBalance id balance).query = settlementQuery := rfl

@[simp] theorem query_recordMovement (id : AccountId) (movement : Movement) :
    (Request.recordMovement id movement).query = recordQuery := rfl

theorem settlementQuery_ne_recordQuery : settlementQuery ≠ recordQuery := by
  decide

/-! ## Effects of exchanges -/

/-- What an exchange adds to the effects of a query. -/
def Exchange.effects (query : String) (exchange : Exchange) : List (List WireText) :=
  if exchange.request.query = query ∧ exchange.failed = false then [exchange.request.texts] else []

namespace Exchange

variable {query : String} {exchange : Exchange}

theorem effects_of_failed (failed : exchange.failed = true) : exchange.effects query = [] := by
  rw [effects, failed, if_neg (by simp)]

theorem effects_of_ne (differ : exchange.request.query ≠ query) : exchange.effects query = [] :=
  if_neg fun both => differ both.1

theorem effects_of_succeeded (same : exchange.request.query = query)
    (succeeded : exchange.failed = false) : exchange.effects query = [exchange.request.texts] :=
  if_pos ⟨same, succeeded⟩

theorem effects_of_settles {id : AccountId} {balance : Int64}
    (settles : exchange.request = .settleBalance id balance) :
    exchange.effects recordQuery = [] := by
  apply effects_of_ne
  rw [settles, query_settleBalance]
  exact settlementQuery_ne_recordQuery

theorem effects_of_records {id : AccountId} {movement : Movement}
    (records : exchange.request = .recordMovement id movement) :
    exchange.effects settlementQuery = [] := by
  apply effects_of_ne
  rw [records, query_recordMovement]
  exact settlementQuery_ne_recordQuery.symm

end Exchange

section

variable {backend : Backend m Connection Handshake} {execution : Execution m World}
variable {journal : World → List Deed} (keeps : backend.KeepsJournal execution journal)

include keeps

/-- A request leaves the calls of other queries alone. -/
theorem leaves_callsOf_request {request : Request} {query : String}
    (differ : request.query ≠ query) :
    execution.LeavesBeside (fun world => callsOf query (journal world))
      (pooledStorage backend request) := by
  intro (pool, world)
  rcases keeps.callsOf_executePool request.query query request.wireTexts_parameters pool world with
    ⟨_, unchanged⟩ | called
  · exact congrArg (fun world => callsOf query (journal world)) unchanged
  · rw [if_neg differ, List.append_nil] at called
    exact called

theorem effectsOf_leave (query : String) (request : Request)
    (state : Pool Connection Handshake × World) :
    let pooled := execution.withState (Pool Connection Handshake)
    let left := (pooledStorage backend).leave pooled request state
    effectsOf query (journal left.2) = effectsOf query (journal state.2) ++
      ((pooledStorage backend).exchange pooled request state).effects query := by
  intro pooled left
  obtain ⟨pool, world⟩ := state
  rcases keeps.callsOf_executePool request.query query request.wireTexts_parameters pool world with
    ⟨result, unchanged⟩ | called
  · have failed : ((pooledStorage backend).exchange pooled request (pool, world)).failed = true :=
      congrArg (fun result => result.code.isError) result
    rw [Exchange.effects_of_failed failed, List.append_nil]
    exact congrArg (fun world => effectsOf query (journal world)) unchanged
  · change callsOf query (journal left.2) = _ at called
    by_cases same : request.query = query
    case neg =>
      rw [if_neg same, List.append_nil] at called
      rw [Exchange.effects_of_ne same, List.append_nil, effectsOf, called, effectsOf]
    case pos =>
      rw [if_pos same] at called
      rw [effectsOf, called, Dispatch.effects_append, Dispatch.effects_singleton, effectsOf]
      cases failed : ((pooledStorage backend).exchange pooled request (pool, world)).failed with
      | true =>
          rw [Exchange.effects_of_failed failed]
          exact congrArg _ (if_pos failed)
      | false =>
          rw [Exchange.effects_of_succeeded same failed]
          exact congrArg _ (if_neg (ne_true_of_eq_false failed))

/-- Exchanges that follow each other have their effects one after the other. -/
theorem effectsOf_served (query : String) {start last : Pool Connection Handshake × World}
    {exchanges : List Exchange}
    (served : (pooledStorage backend).Served (execution.withState (Pool Connection Handshake))
      start exchanges last) :
    effectsOf query (journal last.2) =
      effectsOf query (journal start.2) ++ exchanges.flatMap (Exchange.effects query) := by
  induction served with
  | nil state => rw [List.flatMap_nil, List.append_nil]
  | cons request served inductionHypothesis =>
      rw [inductionHypothesis, effectsOf_leave keeps, List.flatMap_cons, List.append_assoc]

/-- A start calls neither query of a transaction. -/
theorem callsOf_of_beginning {pause : Nat → m Unit}
    (pauses : ∀ milliseconds, execution.Leaves journal (pause milliseconds))
    {configuration : Runtime} {world after : World}
    {answer : Except Unstarted (Service Connection Handshake)}
    (beginning : Startup.Beginning backend execution pause configuration world (answer, after))
    {query : String} (differ : Request.loadAccounts.query ≠ query) :
    callsOf query (journal after) = callsOf query (journal world) := by
  have opens : execution.LeavesBeside (fun world => callsOf query (journal world))
      (Startup.openPool backend pause configuration) :=
    Startup.leaves_openPool (keeps.leaves_callsOf query) (leaves_callsOf_request keeps differ)
      (fun milliseconds => (pauses milliseconds).image (callsOf query)) configuration
  have kept := beginning.leaves opens
  exact kept

end

/-! ## Effects of a transaction -/

/-- How a transaction may run that a request describes: there is no such account, or the request is
not valid, or the movement takes its course. -/
inductive RequestCourse (account : Int64) (body : String) (accounts : Accounts) :
    Except BankFailure MovementOutcome → List Exchange → Prop
  | unknown (unknown : accounts.id? account = none) :
      RequestCourse account body accounts (.error (.unknownAccount account)) []
  | invalid {cause : InvalidMovement} (invalid : Movement.ofRequest body = .error cause) :
      RequestCourse account body accounts (.error (.invalidMovement cause)) []
  | failed {id : AccountId} {movement : Movement} {failure : StorageFailure}
      {exchanges : List Exchange} {left : Accounts} (known : accounts.id? account = some id)
      (valid : Movement.ofRequest body = .ok movement)
      (course : TransactionCourse id movement accounts (.error failure) exchanges left) :
      RequestCourse account body accounts (.error (.storage failure)) exchanges
  | carried {id : AccountId} {movement : Movement} {outcome : MovementOutcome}
      {exchanges : List Exchange} {left : Accounts} (known : accounts.id? account = some id)
      (valid : Movement.ofRequest body = .ok movement)
      (course : TransactionCourse id movement accounts (.ok outcome) exchanges left) :
      RequestCourse account body accounts (.ok outcome) exchanges

theorem transactRequest_course (execution : Execution m World) (storage : Storage m)
    (account : Int64) (body : String) (accounts : Accounts) (world : World) :
    let outcome := (execution.withState Accounts).run
      (Bank.transactRequest storage account body) (accounts, world)
    ∃ exchanges, storage.Served execution world exchanges outcome.2.2 ∧
      RequestCourse account body accounts outcome.1 exchanges := by
  simp only [Bank.transactRequest, Execution.run_bind, Execution.run_get]
  cases known : accounts.id? account with
  | none =>
      simp only [Execution.run_pure]
      exact ⟨[], .nil world, .unknown known⟩
  | some id =>
      cases valid : Movement.ofRequest body with
      | error cause =>
          simp only [Execution.run_pure]
          exact ⟨[], .nil world, .invalid valid⟩
      | ok movement =>
          obtain ⟨served, course⟩ := transact_course execution storage id movement accounts world
          simp only [Execution.run_bind, Execution.run_pure]
          refine ⟨_, served, ?_⟩
          cases answer : ((execution.withState Accounts).run (Bank.transact storage id movement)
              (accounts, world)).1 with
          | error failure =>
              rw [answer] at course
              exact .failed known valid course
          | ok outcome =>
              rw [answer] at course
              exact .carried known valid course

/-- What the journal says of a transaction after which the pool is closed: the effects of its
exchanges, and no call at all if it made none. -/
theorem transactRequest_deeds {backend : Backend m Connection Handshake}
    {execution : Execution m World} {journal : World → List Deed}
    (keeps : backend.KeepsJournal execution journal) (account : Int64) (body : String)
    (accounts : Accounts) (pool : Pool Connection Handshake) (world : World) :
    let pooled := execution.withState (Pool Connection Handshake)
    let outcome := (pooled.withState Accounts).run
      (Bank.transactRequest (pooledStorage backend) account body) (accounts, pool, world)
    let closed := pooled.run (Pool.close backend) outcome.2.2
    ∃ exchanges, RequestCourse account body accounts outcome.1 exchanges ∧
      (∀ query, effectsOf query (journal closed.2.2) =
        effectsOf query (journal world) ++ exchanges.flatMap (Exchange.effects query)) ∧
      (exchanges = [] →
        ∀ query, callsOf query (journal closed.2.2) = callsOf query (journal world)) := by
  intro pooled outcome closed
  obtain ⟨exchanges, served, course⟩ :=
    transactRequest_course pooled (pooledStorage backend) account body accounts (pool, world)
  have closing (query : String) :
      callsOf query (journal closed.2.2) = callsOf query (journal outcome.2.2.2) :=
    (keeps.leaves_callsOf query).closePool outcome.2.2
  refine ⟨exchanges, course, ?effects, ?silent⟩
  case effects =>
    intro query
    rw [effectsOf_congr (closing query)]
    exact effectsOf_served keeps query served
  case silent =>
    rintro rfl query
    rw [closing]
    exact congrArg (fun state => callsOf query (journal state.2)) served.eq_of_nil

namespace RequestCourse

variable {account : Int64} {body : String} {accounts : Accounts} {exchanges : List Exchange}

/-- A transaction that fails has recorded nothing. -/
theorem effects_of_error {failure : BankFailure}
    (course : RequestCourse account body accounts (.error failure) exchanges) :
    exchanges.flatMap (Exchange.effects recordQuery) = [] := by
  cases course with
  | unknown => rfl
  | invalid => rfl
  | failed known valid course =>
      cases course with
      | unsettled moved settles failed =>
          simp only [List.flatMap_cons, List.flatMap_nil, Exchange.effects_of_failed failed,
            List.append_nil]
      | unrecorded moved settles settled records failed undoes =>
          simp only [List.flatMap_cons, List.flatMap_nil, Exchange.effects_of_failed failed,
            Exchange.effects_of_settles settles,
            Exchange.effects_of_settles undoes, List.append_nil]

/-- A rejected transaction has made no request, and the overdraft rule refuses its debit. -/
theorem of_rejected (course : RequestCourse account body accounts (.ok .rejected) exchanges) :
    exchanges = [] ∧ accounts.id? account = some ⟨account⟩ ∧
      ∃ movement, Movement.ofRequest body = .ok movement ∧
        (accounts.read ⟨account⟩).move? movement = none := by
  cases course with
  | @carried id movement _ _ _ known valid course =>
      obtain rfl := Accounts.eq_of_id?_eq_some known
      obtain ⟨refused, silent, _⟩ := course.of_rejected
      exact ⟨silent, known, movement, valid, refused⟩

/-- A completed transaction has settled the new balance and recorded its movement, once each. -/
theorem effects_of_completed {after : Account}
    (course : RequestCourse account body accounts (.ok (.completed after)) exchanges) :
    ∃ movement, Movement.ofRequest body = .ok movement ∧
      exchanges.flatMap (Exchange.effects recordQuery) =
        [(Request.recordMovement ⟨account⟩ movement).texts] ∧
      exchanges.flatMap (Exchange.effects settlementQuery) =
        [(Request.settleBalance ⟨account⟩ after.balance).texts] := by
  cases course with
  | @carried id movement _ _ _ known valid course =>
      obtain rfl := Accounts.eq_of_id?_eq_some known
      cases course with
      | completed moved settles settled records recorded =>
          refine ⟨movement, valid, ?_, ?_⟩
          · rw [List.flatMap_cons, Exchange.effects_of_settles settles, List.flatMap_singleton,
              Exchange.effects_of_succeeded (by simp [records]) recorded, records,
              List.nil_append]
          · rw [List.flatMap_cons, Exchange.effects_of_succeeded (by simp [settles]) settled,
              settles, List.flatMap_singleton, Exchange.effects_of_records records,
              List.append_nil]

end RequestCourse

end BankLedger.Ledger
