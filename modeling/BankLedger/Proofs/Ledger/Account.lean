import BankLedger.Ledger.Accounts

/-!
# Movements of an account

What a movement does to the balance of an account, over the integers: it adds its net amount, cut at
the largest balance that can be written.  Only a credit is ever cut.
-/

namespace BankLedger.Ledger

/-- What a movement adds to a balance: a credit its amount, a debit the negated amount. -/
def Movement.net (movement : Movement) : Int :=
  match movement.direction with
  | .credit => movement.amount.toInt
  | .debit => -movement.amount.toInt

namespace Account

variable {account after : Account}

@[simp] theorem limit_credit (amount : Nat) (account : Account) :
    (account.credit amount).limit = account.limit := rfl

theorem toInt_balance_credit (amount : Nat) (account : Account) :
    (account.credit amount).balance.toInt =
      min (account.balance.toInt + amount) Int64.maxValue.toInt := by
  have least := account.balance.le_toInt
  have greatest := Int64.toInt_maxValue
  apply Int64.toInt_ofInt_of_le
  · omega
  · omega

/-- A debit that is not rejected takes its amount, and leaves a balance that can be written. -/
theorem of_debit?_eq_some {amount : Nat} (debited : account.debit? amount = some after) :
    after.limit = account.limit ∧ after.balance.toInt = account.balance.toInt - amount := by
  simp only [debit?, Option.ite_none_right_eq_some, Option.some.injEq] at debited
  obtain ⟨⟨least, _⟩, rfl⟩ := debited
  have lowest := Int64.toInt_minValue
  have greatest := account.balance.toInt_lt
  refine ⟨rfl, Int64.toInt_ofInt_of_le ?_ ?_⟩
  · omega
  · omega

variable {movement : Movement}

theorem limit_of_move? (moved : account.move? movement = some after) :
    after.limit = account.limit := by
  simp only [move?] at moved
  cases direction : movement.direction with
  | credit =>
      simp only [direction, Option.some.injEq] at moved
      rw [← moved, limit_credit]
  | debit =>
      simp only [direction] at moved
      exact (of_debit?_eq_some moved).1

theorem toInt_balance_of_move? (moved : account.move? movement = some after) :
    after.balance.toInt =
      min (account.balance.toInt + movement.net) Int64.maxValue.toInt := by
  have positive := movement.amount_pos
  have amount : (movement.amount.toInt.toNat : Int) = movement.amount.toInt :=
    Int.toNat_of_nonneg (Int.le_of_lt positive)
  simp only [move?] at moved
  cases direction : movement.direction with
  | credit =>
      simp only [direction, Option.some.injEq] at moved
      simp only [← moved, toInt_balance_credit, amount, Movement.net, direction]
  | debit =>
      simp only [direction] at moved
      have greatest := account.balance.toInt_le
      rw [(of_debit?_eq_some moved).2, amount]
      simp only [Movement.net, direction]
      omega

/-- Only a debit is ever refused, and only if it would leave less than is allowed. -/
theorem refused_of_move? (refused : account.move? movement = none) :
    movement.direction = .debit ∧
      account.balance.toInt - movement.amount.toInt < account.floor := by
  have positive := movement.amount_pos
  have amount : (movement.amount.toInt.toNat : Int) = movement.amount.toInt :=
    Int.toNat_of_nonneg (Int.le_of_lt positive)
  simp only [move?] at refused
  cases direction : movement.direction with
  | credit => simp only [direction, reduceCtorEq] at refused
  | debit =>
      have lowest := Int64.toInt_minValue
      have greatest := Int64.toInt_maxValue
      have limit := account.limit.toInt_le
      simp only [direction, debit?, amount, ite_eq_right_iff, reduceCtorEq, imp_false,
        floor] at refused ⊢
      refine ⟨trivial, ?_⟩
      omega

end Account

end BankLedger.Ledger
