import BankLedger.Proofs.Ledger.Loading

/-!
# What a load takes in

A load merges the rows of a result into the accounts of a ledger.  A row counts if it tells of an
account of the ledger; of several rows that tell of one account the last is kept.  Neither a row
that cannot be read nor one out of range adds an account, changes one or takes one away.
-/

namespace BankLedger.Ledger

open BankLedger.Sql

variable {m : Type → Type} [Monad m] {World : Type}

/-! ## Accounts of a ledger -/

namespace Accounts

/-- The accounts that a ledger has are those from 1 to its greatest number. -/
def Own (accounts : Accounts) : Prop :=
  ∀ number : Int, number ∈ accounts.entries ↔ 1 ≤ number ∧ number ≤ accounts.greatest.toInt

theorem own_ofGreatest (greatest : Int64) : (ofGreatest greatest).Own := by
  have added (indices : List Nat) (entries : Std.TreeMap Int Account) (number : Int) :
      number ∈ indices.foldl (fun entries (index : Nat) =>
          entries.insert (Int.ofNat index + 1) .blank) entries ↔
        number ∈ entries ∨ ∃ index ∈ indices, (index : Int) + 1 = number := by
    induction indices generalizing entries with
    | nil => simp
    | cons index others inductionHypothesis =>
        rw [List.foldl_cons, inductionHypothesis, Std.TreeMap.mem_insert, Std.compare_eq_iff_eq]
        simp only [List.mem_cons, exists_eq_or_imp, Int.ofNat_eq_natCast, or_left_comm, or_assoc]
  intro number
  rw [ofGreatest, added]
  simp only [Std.TreeMap.not_mem_emptyc, false_or, List.mem_range]
  constructor
  · rintro ⟨index, below, rfl⟩
    omega
  · rintro ⟨positive, small⟩
    exact ⟨(number - 1).toNat, by omega, by omega⟩

end Accounts

/-! ## Rows -/

namespace AccountRow

/-- The row has the number of an account of a ledger with a greatest number. -/
def InRange (greatest : Int64) (stored : AccountRow) : Prop :=
  1 ≤ stored.number.toInt ∧ stored.number.toInt ≤ greatest.toInt

instance (greatest : Int64) : DecidablePred (InRange greatest) :=
  fun _ => inferInstanceAs (Decidable (_ ∧ _))

/-- The first three cells of a row are the number, the limit and the balance of an account. -/
def Tells (cells : List Value) (stored : AccountRow) : Prop :=
  cells.take 3 = [.int stored.number, .int stored.account.limit, .int stored.account.balance]

/-- A row tells of an account of a ledger with a greatest number. -/
def Counts (greatest : Int64) (cells : List Value) : Prop :=
  ∃ stored, Tells cells stored ∧ InRange greatest stored

variable {cells : List Value} {stored : AccountRow}

theorem ofCells?_eq_some_iff : ofCells? cells = some stored ↔ Tells cells stored := by
  constructor
  · intro read
    unfold ofCells? at read
    split at read
    · cases read
      rfl
    · cases read
  · intro tells
    match cells, tells with
    | first :: second :: third :: _, tells =>
        cases tells
        rfl

theorem counts_iff {greatest : Int64} :
    Counts greatest cells ↔ (ofCells? cells).any (InRange greatest) = true := by
  simp only [Counts, ← ofCells?_eq_some_iff, Option.any_eq_true, decide_eq_true_eq]

instance (greatest : Int64) : DecidablePred (Counts greatest) :=
  fun _ => decidable_of_iff _ counts_iff.symm

theorem mem_ofResult {result : ResultSet} :
    stored ∈ ofResult result ↔ ∃ cells ∈ result.rows, Tells cells stored := by
  simp only [ofResult, List.mem_filterMap, ofCells?_eq_some_iff]

theorem ofResult_of_split {result : ResultSet} {before after : List (List Value)}
    (split : result.rows = before ++ cells :: after) (tells : Tells cells stored) :
    ofResult result = before.filterMap ofCells? ++ stored :: after.filterMap ofCells? := by
  rw [ofResult, split, List.filterMap_append,
    List.filterMap_cons_some (ofCells?_eq_some_iff.mpr tells)]

theorem countP_ofResult (greatest : Int64) (result : ResultSet) :
    (ofResult result).countP (InRange greatest) = result.rows.countP (Counts greatest) := by
  rw [ofResult, List.countP_filterMap]
  apply List.countP_congr
  intro cells _
  rw [decide_eq_true_iff, counts_iff]
  cases ofCells? cells <;> rfl

end AccountRow

/-! ## Taking in rows -/

namespace Bank

open AccountRow

variable {loaded : Nat × Accounts} {row : AccountRow}

theorem loadRow_of_inRange (inRange : row.InRange loaded.2.greatest) :
    loadRow loaded row = (loaded.1 + 1, loaded.2.write ⟨row.number⟩ row.account) := by
  have known : loaded.2.id? row.number = some ⟨row.number⟩ := if_pos inRange
  rw [loadRow, known]

theorem loadRow_of_not_inRange (outside : ¬row.InRange loaded.2.greatest) :
    loadRow loaded row = loaded := by
  have unknown : loaded.2.id? row.number = none := if_neg outside
  rw [loadRow, unknown]

/-- A row in range replaces the account with its number, and nothing else. -/
theorem getElem?_loadRow (loaded : Nat × Accounts) (row : AccountRow) (number : Int) :
    (loadRow loaded row).2.entries[number]? =
      if row.number.toInt = number ∧ row.InRange loaded.2.greatest then some row.account
      else loaded.2.entries[number]? := by
  by_cases inRange : row.InRange loaded.2.greatest
  · rw [loadRow_of_inRange inRange, Accounts.write, Std.TreeMap.getElem?_insert]
    simp only [Std.compare_eq_iff_eq, inRange, and_true]
  · rw [loadRow_of_not_inRange inRange, if_neg fun both => inRange both.2]

theorem own_loadRow (own : loaded.2.Own) (row : AccountRow) : (loadRow loaded row).2.Own := by
  by_cases inRange : row.InRange loaded.2.greatest
  · rw [loadRow_of_inRange inRange]
    intro number
    rw [Accounts.write, Std.TreeMap.mem_insert, Std.compare_eq_iff_eq, own number]
    constructor
    · rintro (rfl | known)
      · exact inRange
      · exact known
    · exact Or.inr
  · rwa [loadRow_of_not_inRange inRange]

section

variable (rows : List AccountRow)

/-- The rows in range are counted. -/
theorem fst_foldl_loadRow (loaded : Nat × Accounts) :
    (rows.foldl loadRow loaded).1 = loaded.1 + rows.countP (InRange loaded.2.greatest) := by
  induction rows generalizing loaded with
  | nil => rfl
  | cons row rows inductionHypothesis =>
      rw [List.foldl_cons, inductionHypothesis, greatest_loadRow, List.countP_cons]
      by_cases inRange : row.InRange loaded.2.greatest
      · rw [loadRow_of_inRange inRange, if_pos (decide_eq_true inRange)]
        omega
      · rw [loadRow_of_not_inRange inRange, if_neg (by simpa using inRange)]
        rfl

theorem own_foldl_loadRow (own : loaded.2.Own) : (rows.foldl loadRow loaded).2.Own := by
  induction rows generalizing loaded with
  | nil => exact own
  | cons row rows inductionHypothesis => exact inductionHypothesis (own_loadRow own row)

end

/-- An account that no row has the number of stays as it was. -/
theorem getElem?_foldl_loadRow_of_unnamed {rows : List AccountRow} {number : Int}
    (unnamed : ∀ row ∈ rows, row.number.toInt ≠ number) (loaded : Nat × Accounts) :
    (rows.foldl loadRow loaded).2.entries[number]? = loaded.2.entries[number]? := by
  induction rows generalizing loaded with
  | nil => rfl
  | cons row rows inductionHypothesis =>
      rw [List.forall_mem_cons] at unnamed
      rw [List.foldl_cons, inductionHypothesis unnamed.2, getElem?_loadRow,
        if_neg fun both => unnamed.1 both.1]

/-- An account becomes what the last row with its number tells. -/
theorem getElem?_foldl_loadRow_of_last {before after : List AccountRow}
    (inRange : row.InRange loaded.2.greatest)
    (last : ∀ other ∈ after, other.number ≠ row.number) :
    ((before ++ row :: after).foldl loadRow loaded).2.entries[row.number.toInt]? =
      some row.account := by
  have unnamed : ∀ other ∈ after, other.number.toInt ≠ row.number.toInt :=
    fun other member same => last other member (Int64.toInt_inj.mp same)
  rw [List.foldl_append, List.foldl_cons, getElem?_foldl_loadRow_of_unnamed unnamed,
    getElem?_loadRow, greatest_foldl_loadRow, if_pos ⟨rfl, inRange⟩]

/-- A load is a faithful merge.  Let a ledger have the accounts from 1 to its greatest number, and
let the storage answer a load with any result.  If the code of the result is an error, the load
fails with that code and its message and the accounts stay as they are.  Otherwise it succeeds and
tells how many rows of the result tell of an account of the ledger.  The ledger still has exactly
its own accounts: one that some of these rows tell of is as the last of them says, and every other
is as it was. -/
theorem load_merges_the_rows_of_its_accounts (execution : Execution m World) (storage : Storage m)
    {accounts : Accounts} (own : accounts.Own) (world : World) :
    let result := (execution.run (storage .loadAccounts) world).1
    let left := (execution.run (storage .loadAccounts) world).2
    let outcome := (execution.withState Accounts).run (load storage) (accounts, world)
    (result.code.isError = true →
      outcome = (.error ⟨result.code, result.message⟩, accounts, left)) ∧
    (result.code.isError = false → ∃ loaded : Accounts,
      outcome = (.ok (result.rows.countP (Counts accounts.greatest)), loaded, left) ∧
      loaded.greatest = accounts.greatest ∧ loaded.Own ∧
      (∀ before cells after stored, result.rows = before ++ cells :: after →
        Tells cells stored → InRange accounts.greatest stored →
        (∀ others ∈ after, ∀ other, Tells others other → other.number ≠ stored.number) →
          loaded.entries[stored.number.toInt]? = some stored.account) ∧
      ∀ number : Int,
        (∀ cells ∈ result.rows, ∀ stored, Tells cells stored → stored.number.toInt ≠ number) →
          loaded.entries[number]? = accounts.entries[number]?) := by
  intro result left outcome
  have runs := run_load execution storage accounts world
  constructor
  · intro fails
    exact runs.trans (if_pos fails)
  · intro succeeds
    let loaded := loadRows (ofResult result) accounts
    have loads : outcome = (.ok loaded.1, loaded.2, left) :=
      runs.trans (if_neg (Bool.eq_false_iff.mp succeeds))
    have counted : loaded.1 = result.rows.countP (Counts accounts.greatest) := by
      rw [← countP_ofResult, ← Nat.zero_add (List.countP ..)]
      exact fst_foldl_loadRow _ (0, accounts)
    refine ⟨loaded.2, ?_, greatest_loadRows _ accounts, own_foldl_loadRow _ own, ?_, ?_⟩
    · rw [loads, counted]
    · intro before cells after stored split tells inRange last
      simp only [loaded, loadRows, ofResult_of_split split tells]
      apply getElem?_foldl_loadRow_of_last inRange
      intro other member
      obtain ⟨others, held, read⟩ := List.mem_filterMap.mp member
      exact last others held other (ofCells?_eq_some_iff.mp read)
    · intro number unnamed
      apply getElem?_foldl_loadRow_of_unnamed
      intro stored member
      obtain ⟨cells, held, tells⟩ := mem_ofResult.mp member
      exact unnamed cells held stored tells

/-- Of the rows two tell of the first account and one of the third; one is short, two are out of
range, and one has a null for a balance. -/
theorem load_merges_the_rows_of_three_accounts :
    let rows : List (List Value) :=
      [[.int 1, .int 5, .int 7], [.int 0, .int 1, .int 1], [.int 3, .int 2, .int (-2)],
        [.int 1, .int 9, .int 10], [.int 2], [.int 2, .int 4, .null],
        [.int Int64.maxValue, .int 1, .int 1]]
    let result := (ResultSet.ofFields ["id", "account_limit", "balance"] .ok "").pushRows rows
    let storage : Storage (StateM Unit) := fun _ => return result
    let before := Accounts.ofGreatest 3
    ∃ loaded : Accounts,
      (Execution.direct.withState Accounts).run (load storage) (before, ()) =
        (.ok 3, loaded, ()) ∧
      loaded.greatest = 3 ∧ loaded.Own ∧ loaded.entries[(1 : Int)]? = some ⟨9, 10⟩ ∧
      loaded.entries[(2 : Int)]? = before.entries[(2 : Int)]? ∧
      loaded.entries[(3 : Int)]? = some ⟨2, -2⟩ := by
  intro rows result storage before
  obtain ⟨loaded, loads, greatest, own, last, unnamed⟩ :=
    (load_merges_the_rows_of_its_accounts .direct storage (Accounts.own_ofGreatest 3) ()).2 rfl
  have counted : result.rows.countP (Counts before.greatest) = 3 := by decide
  refine ⟨loaded, ?_, greatest, own, ?_, unnamed 2 ?_, ?_⟩
  · rw [loads]
    exact congrArg (fun count => (Except.ok count, loaded, ())) counted
  · refine last (result.rows.take 3) _ (result.rows.drop 4) ⟨1, ⟨9, 10⟩⟩ rfl rfl (by decide) ?_
    simp only [← ofCells?_eq_some_iff]
    decide
  · simp only [← ofCells?_eq_some_iff]
    decide
  · refine last (result.rows.take 2) _ (result.rows.drop 3) ⟨3, ⟨2, -2⟩⟩ rfl rfl (by decide) ?_
    simp only [← ofCells?_eq_some_iff]
    decide

end Bank

end BankLedger.Ledger
