import BankLedger.Sql.ResultSet

/-!
# Rows of result sets

Rows are added in order, each fitted to the fields, and a row of the right width is added as it is.
The fields, the code and the message stay.
-/

namespace BankLedger.Sql.ResultSet

theorem fitRow_length (cells : List Value) : fitRow cells.length cells = cells := by
  simp only [fitRow, List.take_length, Nat.sub_self, List.replicate_zero, List.append_nil]

theorem rows_pushRows (result : ResultSet) (rows : List (List Value)) :
    (result.pushRows rows).rows = result.rows ++ rows.map (fitRow result.fields.length) := by
  induction rows generalizing result with
  | nil => simp only [pushRows, List.foldl_nil, List.map_nil, List.append_nil]
  | cons cells rows inductionHypothesis =>
      calc
        (result.pushRows (cells :: rows)).rows = ((result.pushRow cells).pushRows rows).rows := rfl
        _ = (result.rows ++ [fitRow result.fields.length cells]) ++
              rows.map (fitRow result.fields.length) := inductionHypothesis (result.pushRow cells)
        _ = result.rows ++ (cells :: rows).map (fitRow result.fields.length) := by
          rw [List.append_assoc, List.singleton_append, List.map_cons]

/-- The rows of a result set that is built from its fields are those that were added, fitted. -/
theorem rows_pushRows_ofFields (fields : List String) (code : Code) (message : String)
    (rows : List (List Value)) :
    ((ofFields fields code message).pushRows rows).rows = rows.map (fitRow fields.length) := by
  rw [rows_pushRows, ofFields, List.nil_append]

theorem fields_pushRows (result : ResultSet) (rows : List (List Value)) :
    (result.pushRows rows).fields = result.fields := by
  induction rows generalizing result with
  | nil => rfl
  | cons cells rows inductionHypothesis => exact inductionHypothesis (result.pushRow cells)

theorem code_pushRows (result : ResultSet) (rows : List (List Value)) :
    (result.pushRows rows).code = result.code := by
  induction rows generalizing result with
  | nil => rfl
  | cons cells rows inductionHypothesis => exact inductionHypothesis (result.pushRow cells)

theorem message_pushRows (result : ResultSet) (rows : List (List Value)) :
    (result.pushRows rows).message = result.message := by
  induction rows generalizing result with
  | nil => rfl
  | cons cells rows inductionHypothesis => exact inductionHypothesis (result.pushRow cells)

end BankLedger.Sql.ResultSet
