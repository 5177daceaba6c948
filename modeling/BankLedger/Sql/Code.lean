/-!
# Result codes

Every result carries a code from one vocabulary, whatever the database reported.  A code is an error
exactly if results with it have no usable rows.
-/

namespace BankLedger.Sql

/-- How a query, or an operation on a pool, ended. -/
inductive Code
  | ok
  | uniqueConstraintViolation
  | invalidType
  | invalidRange
  | processing
  | info
  | fatal
  | connectionError
  | unknown
  | invalidDatabase
deriving DecidableEq

namespace Code

/-- The codes in their order of declaration. -/
def all : List Code :=
  [.ok, .uniqueConstraintViolation, .invalidType, .invalidRange, .processing, .info, .fatal,
    .connectionError, .unknown, .invalidDatabase]

/-- The name of a code. -/
def name : Code → String
  | .ok => "ok"
  | .uniqueConstraintViolation => "unique_constraint_violation"
  | .invalidType => "invalid_type"
  | .invalidRange => "invalid_range"
  | .processing => "processing"
  | .info => "info"
  | .fatal => "fatal"
  | .connectionError => "connection_error"
  | .unknown => "unknown"
  | .invalidDatabase => "invalid_db"

/-- The code of a given name. -/
def ofName? (name : String) : Option Code :=
  all.find? fun code => code.name == name

/-- Whether results with this code carry no usable rows. -/
def isError : Code → Bool
  | .ok | .info | .processing => false
  | _ => true

end Code

end BankLedger.Sql
