import BankLedger.Proofs.Postgres.Verdict
import BankLedger.Proofs.Sql.ResultSet

/-!
# Decoded results

The rows of a success are decoded cell by cell.  A row that is too long is cut, one that is too
short is padded with invalid cells, and neither moves a cell to another place: what is decoded at a
place depends on the cell that arrived there and on the type of its column alone.
-/

namespace BankLedger.Postgres

open BankLedger.Sql

namespace QueryResult

variable (vendor : String) {result : QueryResult}

/-- The same result with another cell received at a place, if there is a cell at that place. -/
def withCell (row column : Nat) (cell : RawCell) (result : QueryResult) : QueryResult :=
  { result with rows := result.rows.modify row (·.set column cell) }

@[simp] theorem rows_withCell (row column : Nat) (cell : RawCell) (result : QueryResult) :
    (result.withCell row column cell).rows = result.rows.modify row (·.set column cell) := rfl

@[simp] theorem fields_withCell (row column : Nat) (cell : RawCell) (result : QueryResult) :
    (result.withCell row column cell).fields = result.fields := rfl

/-- The kinds of the columns. -/
def kinds (result : QueryResult) : List Kind :=
  result.fields.map fun field => types.kindOf field.typeId

theorem message_toResultSet (result : QueryResult) :
    (result.toResultSet vendor).message = result.message vendor := by
  rw [toResultSet]
  split
  · rw [ResultSet.message_pushRows]
    rfl
  · rfl

/-! ## Failures -/

theorem toResultSet_of_failure (failed : result.status.code ≠ .ok) :
    result.toResultSet vendor = .status result.verdict.1 (result.message vendor) := by
  rw [toResultSet, if_neg]
  intro success
  exact failed (result.verdict_eq_ok_iff.mp success)

/-- A result whose status is fatal has an error as its code, however it is refined. -/
theorem isError_of_fatal (fatal : result.status.code = .fatal) :
    (result.toResultSet vendor).code.isError = true := by
  rw [code_toResultSet, verdict, fatal]
  exact ServerError.isError_refine result.report

/-! ## Successes -/

section

variable (success : result.status.code = .ok)

include success

theorem fields_toResultSet :
    (result.toResultSet vendor).fields = result.fields.map Field.name := by
  rw [toResultSet, if_pos (result.verdict_eq_ok_iff.mpr success), ResultSet.fields_pushRows]
  rfl

theorem rows_toResultSet :
    (result.toResultSet vendor).rows =
      result.rows.map fun row =>
        ResultSet.fitRow result.fields.length (decodeRow result.kinds row) := by
  rw [toResultSet, if_pos (result.verdict_eq_ok_iff.mpr success), ResultSet.rows_pushRows]
  simp only [ResultSet.ofFields, List.nil_append, List.map_map, Function.comp_def,
    List.length_map]
  rfl

end

/-- A cell of a decoded row comes from the cell received at its place, and is invalid if none was
received there. -/
theorem getElem?_fitRow_decodeRow (row : List RawCell) {column : Nat} {field : Field}
    (described : result.fields[column]? = some field) :
    (ResultSet.fitRow result.fields.length (decodeRow result.kinds row))[column]? =
      some ((row[column]?.map (decodeCell (types.kindOf field.typeId))).getD .invalid) := by
  have within : column < result.fields.length := (List.getElem?_eq_some_iff.mp described).1
  have kind : result.kinds[column]? = some (types.kindOf field.typeId) := by
    rw [kinds, List.getElem?_map, described]
    rfl
  rw [ResultSet.getElem?_fitRow, if_pos within, decodeRow, List.getElem?_zipWith, kind]
  cases row[column]? <;> rfl

theorem cell_toResultSet (success : result.status.code = .ok) {row column : Nat}
    {cells : List RawCell} {field : Field} (received : result.rows[row]? = some cells)
    (described : result.fields[column]? = some field) :
    (result.toResultSet vendor).cell row column =
      (cells[column]?.map (decodeCell (types.kindOf field.typeId))).getD .invalid := by
  rw [ResultSet.cell, rows_toResultSet vendor success, List.getElem?_map, received,
    Option.map_some, Option.bind_some, getElem?_fitRow_decodeRow cells described, Option.getD_some]

/-! ## Changed cells -/

section

variable (row column : Nat) (cell : RawCell) (result : QueryResult)

/-- Another cell received changes neither the verdict nor the shape of what is decoded. -/
theorem shape_withCell :
    let decoded := result.toResultSet vendor
    let changed := (result.withCell row column cell).toResultSet vendor
    changed.code = decoded.code ∧ changed.message = decoded.message ∧
      changed.fields = decoded.fields ∧ changed.rows.length = decoded.rows.length := by
  intro decoded changed
  have codes : changed.code = decoded.code := by
    rw [code_toResultSet, code_toResultSet]
    rfl
  have messages : changed.message = decoded.message := by
    rw [message_toResultSet, message_toResultSet]
    rfl
  refine ⟨codes, messages, ?_⟩
  by_cases success : result.status.code = .ok
  · have still : (result.withCell row column cell).status.code = .ok := success
    constructor
    · rw [fields_toResultSet vendor still, fields_toResultSet vendor success, fields_withCell]
    · rw [rows_toResultSet vendor still, rows_toResultSet vendor success, List.length_map,
        List.length_map, rows_withCell, List.length_modify]
  · have still : (result.withCell row column cell).status.code ≠ .ok := success
    simp only [changed, decoded, toResultSet_of_failure vendor still,
      toResultSet_of_failure vendor success]
    exact ⟨rfl, rfl⟩

/-- Another cell received at one place makes no difference at another place. -/
theorem cell_withCell {otherRow otherColumn : Nat}
    (elsewhere : (otherRow, otherColumn) ≠ (row, column)) :
    ((result.withCell row column cell).toResultSet vendor).cell otherRow otherColumn =
      (result.toResultSet vendor).cell otherRow otherColumn := by
  by_cases success : result.status.code = .ok
  · have still : (result.withCell row column cell).status.code = .ok := success
    rw [ResultSet.cell, ResultSet.cell, rows_toResultSet vendor still,
      rows_toResultSet vendor success, rows_withCell, fields_withCell, List.getElem?_map,
      List.getElem?_map, List.getElem?_modify]
    cases result.rows[otherRow]? with
    | none => rfl
    | some cells =>
        by_cases sameRow : row = otherRow
        · have otherPlace : column ≠ otherColumn := by
            rintro rfl
            exact elsewhere (by rw [sameRow])
          simp only [Option.map_eq_map, Option.map_some, Option.bind_some, if_pos sameRow,
            ResultSet.getElem?_fitRow, decodeRow, List.getElem?_zipWith,
            List.getElem?_set_ne otherPlace]
          rfl
        · simp only [Option.map_eq_map, Option.map_some, if_neg sameRow]
          rfl
  · have still : (result.withCell row column cell).status.code ≠ .ok := success
    rw [toResultSet_of_failure vendor success, toResultSet_of_failure vendor still]
    rfl

end

/-- A result is decoded cell by cell.  If the code of its status is not `ok`, there are no fields
and no rows, and the code is an error if the server refused the query or was not understood.
Otherwise there are the described fields and as many rows as were received, each as wide as the
fields, with every cell decoded from the cell received at its place by the type of its column, or
invalid if none was received there.  So another cell at one place makes no difference anywhere
else. -/
theorem results_are_decoded_cell_by_cell (result : QueryResult) :
    let decoded := result.toResultSet vendor
    (result.status.code ≠ .ok →
      decoded.fields = [] ∧ decoded.rows = [] ∧
        (result.status = .badResponse ∨ result.status = .fatalError →
          decoded.code.isError = true)) ∧
    (result.status.code = .ok →
      decoded.code = .ok ∧ decoded.fields = result.fields.map Field.name ∧
      decoded.rows.length = result.rows.length ∧
      (∀ row ∈ decoded.rows, row.length = result.fields.length) ∧
      ∀ row column cells field, result.rows[row]? = some cells →
        result.fields[column]? = some field →
        decoded.cell row column =
          match cells[column]? with
          | some cell => decodeCell (types.kindOf field.typeId) cell
          | none => .invalid) ∧
    ∀ row column cell,
      let changed := (result.withCell row column cell).toResultSet vendor
      changed.code = decoded.code ∧ changed.message = decoded.message ∧
        changed.fields = decoded.fields ∧ changed.rows.length = decoded.rows.length ∧
        ∀ otherRow otherColumn, (otherRow, otherColumn) ≠ (row, column) →
          changed.cell otherRow otherColumn = decoded.cell otherRow otherColumn := by
  intro decoded
  refine ⟨?failure, ?success, ?changed⟩
  case failure =>
    intro failed
    have empty : decoded = .status result.verdict.1 (result.message vendor) :=
      toResultSet_of_failure vendor failed
    refine ⟨congrArg ResultSet.fields empty, congrArg ResultSet.rows empty, ?_⟩
    intro refused
    apply isError_of_fatal
    rcases refused with status | status
    · rw [status]; rfl
    · rw [status]; rfl
  case success =>
    intro success
    have names : decoded.fields = result.fields.map Field.name := fields_toResultSet vendor success
    have code : decoded.code = .ok := by
      rw [code_toResultSet]
      exact result.verdict_eq_ok_iff.mpr success
    have count : decoded.rows.length = result.rows.length := by
      rw [rows_toResultSet vendor success, List.length_map]
    refine ⟨code, names, count, ?_, ?_⟩
    · intro row member
      rw [decoded.rows_fit row member, names, List.length_map]
    · intro row column cells field received described
      rw [cell_toResultSet vendor success received described]
      cases cells[column]? <;> rfl
  case changed =>
    intro row column cell changed
    obtain ⟨codes, messages, fields, counts⟩ := result.shape_withCell vendor row column cell
    exact ⟨codes, messages, fields, counts, fun _ _ => result.cell_withCell vendor row column cell⟩

/-- Under a column of integers and one of texts, the first row is short and its cell is no text, and
the second row is long.  Another cell in the first row leaves the second as it was. -/
theorem results_are_decoded_cell_by_cell_of_ragged_rows :
    let seven := some (Octets.ofText "7")
    let ragged : QueryResult :=
      ⟨.tuplesOk, [⟨"n", 20⟩, ⟨"t", 25⟩], [[some [255]], [seven, none, seven]], none⟩
    let decoded := ragged.toResultSet "Postgres 15"
    let changed := (ragged.withCell 0 0 seven).toResultSet "Postgres 15"
    decoded.rows.length = 2 ∧ (∀ row ∈ decoded.rows, row.length = 2) ∧
      decoded.cell 0 0 = .invalid ∧ decoded.cell 0 1 = .invalid ∧ decoded.cell 1 0 = .int 7 ∧
      decoded.cell 1 1 = .null ∧ changed.cell 1 0 = decoded.cell 1 0 := by
  intro seven ragged decoded changed
  obtain ⟨_, success, others⟩ := results_are_decoded_cell_by_cell "Postgres 15" ragged
  obtain ⟨_, _, count, widths, cells⟩ := success rfl
  obtain ⟨_, _, _, _, elsewhere⟩ := others 0 0 seven
  refine ⟨count, widths, ?_, ?_, ?_, ?_, elsewhere 1 0 (by decide)⟩
  · rw [cells 0 0 _ _ rfl rfl]
    decide +kernel
  · rw [cells 0 1 _ _ rfl rfl]
    rfl
  · rw [cells 1 0 _ _ rfl rfl]
    decide +kernel
  · rw [cells 1 1 _ _ rfl rfl]
    rfl

end QueryResult

end BankLedger.Postgres
