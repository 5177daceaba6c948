import BankLedger.Sql.Code
import BankLedger.Sql.Value

/-!
# Result sets

A result set has field names, rows of values, a code and a message.  Every row has exactly one cell
for each field: `pushRow` pads a short row with invalid cells and cuts a long one.  A failure is
reported through the code and the message, so there is a result set even if nothing was executed.
-/

namespace BankLedger.Sql

/-- The outcome of a query. -/
structure ResultSet where
  fields : List String
  rows : List (List Value)
  code : Code
  message : String
  rows_fit : ∀ row ∈ rows, row.length = fields.length
deriving DecidableEq

namespace ResultSet

/-- A result set without fields or rows. -/
def status (code : Code) (message : String) : ResultSet :=
  ⟨[], [], code, message, by simp⟩

/-- A result set with fields and no rows. -/
def ofFields (fields : List String) (code : Code) (message : String) : ResultSet :=
  ⟨fields, [], code, message, by simp⟩

/-- The cells cut or padded with invalid cells to the given width. -/
def fitRow (width : Nat) (cells : List Value) : List Value :=
  cells.take width ++ List.replicate (width - cells.length) .invalid

@[simp] theorem length_fitRow (width : Nat) (cells : List Value) :
    (fitRow width cells).length = width := by
  simp only [fitRow, List.length_append, List.length_take, List.length_replicate]
  omega

theorem getElem?_fitRow (width : Nat) (cells : List Value) (index : Nat) :
    (fitRow width cells)[index]? =
      if index < width then some (cells[index]?.getD .invalid) else none := by
  simp only [fitRow, List.getElem?_append, List.length_take, List.getElem?_take,
    List.getElem?_replicate]
  by_cases inRow : index < cells.length
  · by_cases inWidth : index < width
    · rw [if_pos (by omega), if_pos inWidth, if_pos inWidth, List.getElem?_eq_getElem inRow]
      rfl
    · rw [if_neg (by omega), if_neg (by omega), if_neg inWidth]
  · have missing : cells[index]? = none := List.getElem?_eq_none (by omega)
    rw [if_neg (by omega), missing]
    by_cases inWidth : index < width
    · rw [if_pos (by omega), if_pos inWidth]; rfl
    · rw [if_neg (by omega), if_neg inWidth]

/-- Adds a row with one cell for each field. -/
def pushRow (result : ResultSet) (cells : List Value) : ResultSet :=
  { result with
    rows := result.rows ++ [fitRow result.fields.length cells]
    rows_fit := by
      intro row member
      rcases List.mem_append.mp member with held | added
      · exact result.rows_fit row held
      · simp_all }

@[simp] theorem rows_pushRow (result : ResultSet) (cells : List Value) :
    (result.pushRow cells).rows = result.rows ++ [fitRow result.fields.length cells] := rfl

@[simp] theorem fields_pushRow (result : ResultSet) (cells : List Value) :
    (result.pushRow cells).fields = result.fields := rfl

/-- Adds rows in order. -/
def pushRows (result : ResultSet) (rows : List (List Value)) : ResultSet :=
  rows.foldl pushRow result

/-- The position of the first field of a given name. -/
def fieldIndex? (result : ResultSet) (name : String) : Option Nat :=
  result.fields.findIdx? fun field => field == name

/-- The cell at a position, invalid outside the table. -/
def cell (result : ResultSet) (row field : Nat) : Value :=
  (result.rows[row]?.bind fun cells => cells[field]?).getD .invalid

/-- The cell of a row in the first field of a given name, invalid if there is none. -/
def cellNamed (result : ResultSet) (row : Nat) (name : String) : Value :=
  match result.fieldIndex? name with
  | some field => result.cell row field
  | none => .invalid

/-- A row as a JSON object by field name, without its invalid cells. -/
def rowJson (fields : List String) (cells : List Value) : Json :=
  Json.sortedObject <| (fields.zip cells).filterMap fun (field, cell) =>
    cell.json?.map fun json => (field, json)

/-- The rows as JSON objects by field name. -/
def rowsJson (result : ResultSet) : Json :=
  .array (result.rows.map (rowJson result.fields))

end ResultSet

end BankLedger.Sql
