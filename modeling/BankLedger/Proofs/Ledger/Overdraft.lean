import BankLedger.Proofs.Ledger.Calls
import BankLedger.Proofs.Ledger.Loading

/-!
# The overdraft rule

An account is covered if its limit is not negative and its balance is not below the negated limit.
For a covered account the machine arithmetic of a debit decides over the integers: the balance that
it would leave is compared with the negated limit and nothing else.  Credits, debits and calls on
the bank are taken together as operations, and each of them keeps every account covered and its
limit unchanged, so every run does.
-/

namespace BankLedger.Ledger

open BankLedger.Sql

variable {m : Type → Type} [Monad m] {World : Type}

namespace Account

/-- The account has a limit and keeps to it. -/
structure Covered (account : Account) : Prop where
  limit_nonneg : 0 ≤ account.limit.toInt
  within_limit : -account.limit.toInt ≤ account.balance.toInt

variable {account after : Account} {amount : Nat}

theorem Covered.floor_eq (covered : account.Covered) : account.floor = -account.limit.toInt := by
  have nonneg := covered.limit_nonneg
  have greatest := Int64.toInt_maxValue
  rw [floor]
  omega

/-- Whether a debit is applied is decided over the integers: a balance at or above the negated limit
can always be written. -/
theorem Covered.isSome_debit?_iff (covered : account.Covered) :
    (account.debit? amount).isSome = true ↔
      -account.limit.toInt ≤ account.balance.toInt - amount := by
  have lowest := Int64.toInt_minValue
  have limit := account.limit.toInt_le
  have greatest := Int64.toInt_maxValue
  simp only [debit?, covered.floor_eq, Option.isSome_ite]
  omega

theorem Covered.of_limit_eq (covered : account.Covered) (limit : after.limit = account.limit)
    (within : -account.limit.toInt ≤ after.balance.toInt) : after.Covered :=
  ⟨limit ▸ covered.limit_nonneg, limit ▸ within⟩

theorem Covered.credit (covered : account.Covered) (amount : Nat) :
    (account.credit amount).Covered := by
  have within := covered.within_limit
  have least := account.limit.toInt_le
  have nonneg := covered.limit_nonneg
  have greatest := Int64.toInt_maxValue
  refine covered.of_limit_eq (limit_credit amount account) ?_
  rw [toInt_balance_credit]
  omega

theorem Covered.of_debit?_eq_some (covered : account.Covered)
    (debited : account.debit? amount = some after) : after.Covered := by
  have permitted := covered.isSome_debit?_iff.mp (Option.isSome_of_eq_some debited)
  obtain ⟨limit, balance⟩ := Account.of_debit?_eq_some debited
  apply covered.of_limit_eq limit
  rw [balance]
  exact permitted

theorem Covered.of_move?_eq_some {movement : Movement} (covered : account.Covered)
    (moved : account.move? movement = some after) : after.Covered := by
  simp only [move?] at moved
  cases direction : movement.direction with
  | credit =>
      simp only [direction, Option.some.injEq] at moved
      rw [← moved]
      exact covered.credit _
  | debit =>
      simp only [direction] at moved
      exact covered.of_debit?_eq_some moved

/-- A movement is rejected exactly if it would leave less than the negated limit. -/
theorem Covered.move?_eq_none_iff {movement : Movement} (covered : account.Covered) :
    account.move? movement = none ↔
      account.balance.toInt + movement.net < -account.limit.toInt := by
  have positive := movement.amount_pos
  have within := covered.within_limit
  simp only [move?, Movement.net]
  cases movement.direction with
  | credit =>
      simp only [reduceCtorEq, false_iff]
      omega
  | debit =>
      simp only
      rw [← Option.not_isSome_iff_eq_none, covered.isSome_debit?_iff]
      omega

end Account

/-- A debit of a covered account is applied or refused by what it would leave. -/
theorem Accounts.debit_of_covered {id : AccountId} {accounts : Accounts}
    (covered : (accounts.read id).Covered) (amount : Nat) :
    let rest := (accounts.read id).balance.toInt - amount
    let debited := accounts.debit id amount
    if -(accounts.read id).limit.toInt ≤ rest then
      debited.1 = some (debited.2.read id).balance ∧ (debited.2.read id).balance.toInt = rest
    else debited.1 = none ∧ debited.2 = accounts := by
  intro rest debited
  have decided : ((accounts.read id).debit? amount).isSome = true ↔
      -(accounts.read id).limit.toInt ≤ rest := covered.isSome_debit?_iff
  simp only [debited, debit]
  cases taken : (accounts.read id).debit? amount with
  | none =>
      rw [if_neg]
      · exact ⟨rfl, rfl⟩
      · rw [← decided, taken]
        exact Bool.false_ne_true
  | some after =>
      have permitted : -(accounts.read id).limit.toInt ≤ rest := by
        rw [← decided, taken]
        rfl
      simp only [if_pos permitted, read_write, if_true, true_and]
      exact (Account.of_debit?_eq_some taken).2

namespace TransactionCourse

variable {id : AccountId} {movement : Movement} {accounts left : Accounts}
variable {answer : Except StorageFailure MovementOutcome} {exchanges : List Exchange}

/-- The account of a transaction is as before or as its movement makes it. -/
theorem read_account (course : TransactionCourse id movement accounts answer exchanges left) :
    left.read id = accounts.read id ∨
      (accounts.read id).move? movement = some (left.read id) := by
  cases course with
  | rejected refused => exact .inl rfl
  | unsettled moved settles failed => simp [Accounts.read_write]
  | unrecorded moved settles settled records failed undoes => simp [Accounts.read_write]
  | completed moved settles settled records recorded => simp [Accounts.read_write, moved]

theorem rejected_iff (course : TransactionCourse id movement accounts answer exchanges left) :
    answer = .ok .rejected ↔ (accounts.read id).move? movement = none := by
  cases course with
  | rejected refused => simp [refused]
  | unsettled moved => simp [moved]
  | unrecorded moved => simp [moved]
  | completed moved => simp [moved]

/-- A transaction that is not completed leaves the accounts as they were. -/
theorem read_of_incomplete (course : TransactionCourse id movement accounts answer exchanges left)
    (incomplete : ∀ after, answer ≠ .ok (.completed after)) (other : AccountId) :
    left.read other = accounts.read other := by
  cases answer with
  | error failure => exact course.read_of_error other
  | ok outcome =>
      cases outcome with
      | completed after => exact absurd rfl (incomplete after)
      | rejected => rw [course.of_rejected.2.2]

theorem covered (course : TransactionCourse id movement accounts answer exchanges left)
    (covered : (accounts.read id).Covered) :
    (left.read id).limit = (accounts.read id).limit ∧ (left.read id).Covered := by
  rcases course.read_account with unchanged | moved
  · rw [unchanged]
    exact ⟨rfl, covered⟩
  · exact ⟨Account.limit_of_move? moved, covered.of_move?_eq_some moved⟩

end TransactionCourse

/-! ## Operations -/

/-- What a client does: it moves money in the ledger alone, or it calls the bank. -/
inductive Operation
  | credit (id : AccountId) (amount : UInt64)
  | debit (id : AccountId) (amount : UInt64)
  | bank (call : Call)

namespace Operation

/-- The account that an operation names. -/
def account : Operation → AccountId
  | .credit id _ | .debit id _ => id
  | .bank call => call.account

variable (execution : Execution m World) (storage : Storage m)

/-- The accounts and the world that an operation leaves. -/
def leave : Operation → Accounts × World → Accounts × World
  | .credit id amount, state => ((state.1.credit id amount.toNat).2, state.2)
  | .debit id amount, state => ((state.1.debit id amount.toNat).2, state.2)
  | .bank call, state => call.leave execution storage state

/-- The accounts and the world that some operations leave, the first of the list first. -/
def leaveAll : List Operation → Accounts × World → Accounts × World
  | [], state => state
  | operation :: operations, state =>
      leaveAll operations (operation.leave execution storage state)

/-- An operation changes no account but the one that it names. -/
theorem read_leave_of_ne (operation : Operation) (state : Accounts × World) {other : AccountId}
    (differ : other ≠ operation.account) :
    (operation.leave execution storage state).1.read other = state.1.read other := by
  cases operation with
  | credit id amount =>
      simp only [leave, Accounts.credit, Accounts.read_write]
      exact if_neg differ.symm
  | debit id amount =>
      simp only [leave, Accounts.debit]
      split
      · rw [Accounts.read_write]
        exact if_neg differ.symm
      · rfl
  | bank call => exact call.read_leave_of_ne execution storage state differ

/-- One operation keeps the limit of every account, and every account covered. -/
theorem covered_leave (operation : Operation) (state : Accounts × World) (id : AccountId)
    (covered : (state.1.read id).Covered) :
    let after := (operation.leave execution storage state).1.read id
    after.limit = (state.1.read id).limit ∧ after.Covered := by
  by_cases named : id = operation.account
  case neg =>
    rw [read_leave_of_ne execution storage operation state named]
    exact ⟨rfl, covered⟩
  case pos =>
    subst named
    cases operation with
    | credit id amount =>
        simp only [leave, Accounts.credit, account, Accounts.read_write, if_true]
        exact ⟨Account.limit_credit _ _, covered.credit _⟩
    | debit id amount =>
        simp only [leave, Accounts.debit, account] at covered ⊢
        cases debited : (state.1.read id).debit? amount.toNat with
        | none => exact ⟨rfl, covered⟩
        | some after =>
            simp only [Accounts.read_write, if_true]
            exact ⟨(Account.of_debit?_eq_some debited).1, covered.of_debit?_eq_some debited⟩
    | bank call =>
        cases call with
        | transact id movement =>
            have course := (transact_course execution storage id movement state.1 state.2).2
            simp only [leave, account, Call.account] at covered ⊢
            exact course.covered covered
        | statement id limit =>
            have accounts := (statement_course execution storage id limit state.1 state.2).2.1
            simp only [leave, Call.leave, account, Call.account] at covered ⊢
            rw [accounts]
            exact ⟨rfl, covered⟩

/-- A run keeps the limit of every account, and every account covered. -/
theorem covered_leaveAll (operations : List Operation) (state : Accounts × World) (id : AccountId)
    (covered : (state.1.read id).Covered) :
    let after := (leaveAll execution storage operations state).1.read id
    after.limit = (state.1.read id).limit ∧ after.Covered := by
  induction operations generalizing state with
  | nil => exact ⟨rfl, covered⟩
  | cons operation operations inductionHypothesis =>
      obtain ⟨limit, stillCovered⟩ := covered_leave execution storage operation state id covered
      obtain ⟨laterLimit, laterCovered⟩ := inductionHypothesis _ stillCovered
      exact ⟨laterLimit.trans limit, laterCovered⟩

end Operation

/-- Balances stay within their limits.  If every account has a limit of at least zero and a balance
of at least the negated limit, then so it is after every operation that follows any run, whatever
storage does, and no limit has changed.  The operation touches no account that it does not name.  A
credit adds its amount up to the greatest balance; a debit is applied exactly if it leaves at least
the negated limit, and else changes nothing; and a transaction is rejected by the same rule. -/
theorem balances_stay_within_limits (execution : Execution m World) (storage : Storage m)
    (accounts : Accounts) (world : World) (covered : ∀ id, (accounts.read id).Covered)
    (done : List Operation) (operation : Operation) :
    let state := Operation.leaveAll execution storage done (accounts, world)
    let left := (operation.leave execution storage state).1
    (∀ id, (left.read id).limit = (accounts.read id).limit ∧
      -(left.read id).limit.toInt ≤ (left.read id).balance.toInt) ∧
    (∀ other, other ≠ operation.account → left.read other = state.1.read other) ∧
    (∀ id amount, operation = .credit id amount →
      (state.1.credit id amount.toNat).1 = (left.read id).balance ∧
      (left.read id).balance.toInt =
        min ((state.1.read id).balance.toInt + amount.toNat) Int64.maxValue.toInt) ∧
    (∀ id amount, operation = .debit id amount →
      let rest := (state.1.read id).balance.toInt - amount.toNat
      if -(state.1.read id).limit.toInt ≤ rest then
        (state.1.debit id amount.toNat).1 = some (left.read id).balance ∧
        (left.read id).balance.toInt = rest
      else (state.1.debit id amount.toNat).1 = none ∧ left = state.1) ∧
    (∀ id movement, operation = .bank (.transact id movement) →
      let rest := (state.1.read id).balance.toInt + movement.net
      let answer :=
        ((execution.withState Accounts).run (Bank.transact storage id movement) state).1
      (answer = .ok .rejected ↔ rest < -(state.1.read id).limit.toInt) ∧
      (∀ after, answer = .ok (.completed after) →
        left.read id = after ∧ after.balance.toInt = min rest Int64.maxValue.toInt) ∧
      ((∀ after, answer ≠ .ok (.completed after)) →
        ∀ other, left.read other = state.1.read other)) := by
  intro state left
  have limits := fun id =>
    Operation.covered_leaveAll execution storage done (accounts, world) id (covered id)
  have coveredNow : ∀ id, (state.1.read id).Covered := fun id => (limits id).2
  refine ⟨?within, fun other => operation.read_leave_of_ne execution storage state, ?credited,
    ?debited, ?transacted⟩
  case within =>
    intro id
    obtain ⟨limit, stillCovered⟩ :=
      Operation.covered_leave execution storage operation state id (coveredNow id)
    exact ⟨limit.trans (limits id).1, stillCovered.within_limit⟩
  case credited =>
    rintro id amount rfl
    have after : left.read id = (state.1.read id).credit amount.toNat := by
      simp only [left, Operation.leave, Accounts.credit, Accounts.read_write, if_true]
    rw [after]
    exact ⟨rfl, Account.toInt_balance_credit _ _⟩
  case debited =>
    rintro id amount rfl rest
    exact Accounts.debit_of_covered (coveredNow id) amount.toNat
  case transacted =>
    rintro id movement rfl rest answer
    have course := (transact_course execution storage id movement state.1 state.2).2
    change TransactionCourse id movement state.1 answer _ left at course
    refine ⟨?_, ?_, course.read_of_incomplete⟩
    · rw [← (coveredNow id).move?_eq_none_iff]
      exact course.rejected_iff
    · intro after completed
      rw [completed] at course
      obtain ⟨moved, cached, _⟩ := course.of_completed
      exact ⟨cached, Account.toInt_balance_of_move? moved⟩

/-- An account with the greatest limit is debited down to the lowest balance that the limit allows,
which is not the lowest that can be written.  A gift that is not recorded does not count, and then
the largest of all debits is refused, as is a debit of one. -/
theorem balances_stay_within_limits_at_the_lowest :
    let accounts := (Accounts.ofGreatest 2).write ⟨1⟩ ⟨Int64.maxValue, 0⟩
    let stored := Books.ofRow ⟨1, Int64.maxValue, 0⟩
    let gift : Movement := ⟨5, .credit, "gift", by decide, by decide⟩
    let done : List Operation :=
      [.debit ⟨1⟩ 9223372036854775807, .bank (.transact ⟨1⟩ gift),
        .debit ⟨1⟩ 18446744073709551615]
    let state := Operation.leaveAll Execution.direct Storage.dictated done
      (accounts, [.ok, .fatal, .connectionError], stored)
    let left := ((Operation.debit ⟨1⟩ 1).leave Execution.direct Storage.dictated state).1
    (∀ id, (accounts.read id).Covered) ∧
      (∀ id, (left.read id).limit = (accounts.read id).limit ∧
        -(left.read id).limit.toInt ≤ (left.read id).balance.toInt) ∧
      left.read ⟨1⟩ = ⟨Int64.maxValue, -9223372036854775807⟩ ∧
      (state.1.debit ⟨1⟩ 1).1 = none := by
  intro accounts stored gift done state left
  have covered : ∀ id, (accounts.read id).Covered := by
    intro id
    rw [Accounts.read_write, Accounts.read_ofGreatest]
    split
    · exact ⟨by decide, by decide⟩
    · exact ⟨by decide, by decide⟩
  obtain ⟨within, _⟩ := balances_stay_within_limits Execution.direct Storage.dictated accounts
    ([.ok, .fatal, .connectionError], stored) covered done (.debit ⟨1⟩ 1)
  exact ⟨covered, within, by decide, by decide⟩

end BankLedger.Ledger
