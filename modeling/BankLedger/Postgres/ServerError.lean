import BankLedger.Sql.Code
import BankLedger.Text.Octets
import BankLedger.Text.Quoted

/-!
# Errors and notices of the server

The server describes an error or a notice by tagged fields.  The severity that is not localised
wins over the localised one, and alone decides whether the report is an error.  A fatal report is
refined into a result code by its state code first and by its wording second.
-/

namespace BankLedger.Postgres

open BankLedger.Sql BankLedger.Text

/-- What the server reports about an error, or in a notice. -/
structure ServerError where
  severity : String
  code : String
  message : String
  detail : Option String
  hint : Option String
deriving DecidableEq

namespace ServerError

/-- A report without any field. -/
def blank : ServerError :=
  ⟨"", "", "", none, none⟩

/-- Whether the report is an error. -/
def isError (report : ServerError) : Bool :=
  report.severity == "ERROR" || report.severity == "FATAL" || report.severity == "PANIC"

/-- The report as text: severity and message, then detail and hint on lines of their own. -/
def text (report : ServerError) : String :=
  let line (label : String) : Option String → String
    | some value => s!"\n{label}:  {value}"
    | none => ""
  s!"{report.severity}:  {report.message}" ++ line "DETAIL" report.detail ++
    line "HINT" report.hint

/-- A report with a tagged field taken in; the localised severity is kept apart. -/
def addField (report : ServerError × Option String) (field : UInt8 × Octets) :
    ServerError × Option String :=
  let (known, localized) := report
  let value := field.2.toTextLossy
  match Char.ofNat field.1.toNat with
  | 'S' => (known, some value)
  | 'V' => ({ known with severity := value }, localized)
  | 'C' => ({ known with code := value }, localized)
  | 'M' => ({ known with message := value }, localized)
  | 'D' => ({ known with detail := some value }, localized)
  | 'H' => ({ known with hint := some value }, localized)
  | _ => (known, localized)

/-- The report that tagged fields make.  Of several fields of one tag the last counts, and the
localised severity stands in for a missing or empty one. -/
def ofFields (fields : List (UInt8 × Octets)) : ServerError :=
  let (report, localized) := fields.foldl addField (blank, none)
  if report.severity.isEmpty then { report with severity := localized.getD "" } else report

/-- The code and the summary of a fatal result, by the state code and then by the wording.  The
wording is the server's, so a report in another language may stay merely fatal. -/
def refine : Option ServerError → Code × String
  | none => (.fatal, "Fatal error")
  | some report =>
      if report.code == "23505" then (.uniqueConstraintViolation, "Entry already in database")
      else if report.code == "22P02" then (.invalidType, "Query has invalid param syntax")
      else if report.code == "22001" || report.code == "22003" then
        (.invalidRange, "Invalid range for field")
      else if mentions report.message "invalid input syntax" then
        (.invalidType, "Query has invalid param syntax")
      else if mentions report.message "violates unique constraint" then
        (.uniqueConstraintViolation, "Entry already in database")
      else if mentions report.message "too long" || mentions report.message "too short" then
        (.invalidRange, "Invalid range for field")
      else (.fatal, "Fatal error")

theorem isError_refine (report : Option ServerError) : (refine report).1.isError = true := by
  unfold refine
  split
  · rfl
  · repeat' split
    all_goals rfl

end ServerError

end BankLedger.Postgres
