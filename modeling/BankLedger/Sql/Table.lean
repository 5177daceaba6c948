import BankLedger.Sql.ResultSet

/-!
# Tables

A result set is printed as a table: a header with the field names, a separator, a line for each row
and a last line with the row count, the code and the message.  A column is as wide as its longest
text, counted in characters, and every cell is padded to the width of its column.
-/

namespace BankLedger.Sql.ResultSet

/-- The number of characters of the longest text. -/
def longest (texts : List String) : Nat :=
  texts.foldl (fun width text => max width text.length) 0

/-- The texts of the cells, row by row. -/
def cellTexts (result : ResultSet) : List (List String) :=
  result.rows.map fun cells => cells.map Value.text

/-- The widths of the columns, each the greatest number of characters among the field name and the
texts of its cells. -/
def columnWidths (result : ResultSet) : List Nat :=
  result.cellTexts.foldl
    (fun widths texts => List.zipWith (fun width text => max width text.length) widths texts)
    (result.fields.map String.length)

/-- A text padded with spaces at its end. -/
def padded (text : String) (width : Nat) : String :=
  text ++ String.ofList (List.replicate (width - text.length) ' ')

/-- A line of cells between bars, without its line end. -/
def tableLine (texts : List String) (widths : List Nat) : String :=
  "|" ++ String.join ((texts.zip widths).map fun (text, width) => s!" {padded text width} |")

/-- The lines of the table above the summary: header, separator and rows. -/
def tableLines (result : ResultSet) : List String :=
  let widths := result.columnWidths
  tableLine result.fields widths ::
    tableLine (widths.map fun width => String.ofList (List.replicate width '-')) widths ::
    result.cellTexts.map fun texts => tableLine texts widths

/-- The last line: row count, code and message. -/
def summaryLine (result : ResultSet) : String :=
  s!"({result.rows.length} rows) {result.code.name}: {result.message}"

/-- The table of a result set. -/
def table (result : ResultSet) : String :=
  String.join (result.tableLines.map (· ++ "\n")) ++ result.summaryLine

end BankLedger.Sql.ResultSet
