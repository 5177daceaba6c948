import BankLedger.Database.ConnectionFailure
import BankLedger.Postgres.ServerError
import BankLedger.Postgres.Types
import BankLedger.Sql.Cell
import BankLedger.Sql.ResultSet

/-!
# Results of queries

A query ends with a status, the described fields, the rows as they arrived and perhaps a report of
the server.  Such a result becomes a result set: the status and the report give the code, and the
rows are decoded, each cell by the type of its column, only if the code is `ok`.
-/

namespace BankLedger.Postgres

open BankLedger.Sql BankLedger.Database

/-- How the server answered a query. -/
inductive QueryStatus
  | emptyQuery
  | commandOk
  | tuplesOk
  | copyOut
  | copyIn
  | badResponse
  | nonfatalError
  | fatalError
deriving DecidableEq

/-- The result code of a status, before a fatal one is refined. -/
def QueryStatus.code : QueryStatus → Code
  | .emptyQuery | .commandOk | .tuplesOk => .ok
  | .copyOut | .copyIn => .processing
  | .badResponse | .fatalError => .fatal
  | .nonfatalError => .info

/-- A described column. -/
structure Field where
  name : String
  typeId : Nat
deriving DecidableEq

/-- A cell as it arrived: none is a null. -/
abbrev RawCell := Option Octets

/-- What a query left. -/
structure QueryResult where
  status : QueryStatus
  fields : List Field
  rows : List (List RawCell)
  report : Option ServerError
deriving DecidableEq

namespace QueryResult

/-- The code of a result and the summary that goes with it. -/
def verdict (result : QueryResult) : Code × String :=
  match result.status.code with
  | .ok => (.ok, "Query executed successfully")
  | .fatal => ServerError.refine result.report
  | .processing => (.processing, "Query is still processing")
  | .info => (.info, "Query returned a notice")
  | other => (other, "Unknown query status")

/-- The message of a result. -/
def message (vendor : String) (result : QueryResult) : String :=
  vendorMessage result.verdict.2 vendor ((result.report.map ServerError.text).getD "")

/-- The cells of a row, each decoded by the kind of its column. -/
def decodeRow (kinds : List Kind) (row : List RawCell) : List Value :=
  List.zipWith decodeCell kinds row

/-- The result set of a result. -/
def toResultSet (vendor : String) (result : QueryResult) : ResultSet :=
  if result.verdict.1 = .ok then
    let kinds := result.fields.map fun field => types.kindOf field.typeId
    (ResultSet.ofFields (result.fields.map Field.name) .ok (result.message vendor)).pushRows
      (result.rows.map (decodeRow kinds))
  else .status result.verdict.1 (result.message vendor)

end QueryResult

end BankLedger.Postgres
