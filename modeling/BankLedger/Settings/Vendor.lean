import BankLedger.Json.Read

/-!
# Vendors

The database products that a configuration can name.
-/

namespace BankLedger.Settings

/-- A database product. -/
inductive Vendor
  | postgres
deriving DecidableEq

namespace Vendor

/-- The name of a product in messages. -/
def name : Vendor → String
  | .postgres => "Postgres 15"

/-- The port on which a product listens unless told otherwise. -/
def defaultPort : Vendor → Nat
  | .postgres => 5432

/-- The spelling of a product in a configuration. -/
def spelling : Vendor → String
  | .postgres => "postgres"

/-- The spellings that are accepted. -/
def spellings : List (String × Vendor) :=
  [("postgres", .postgres), ("postgres15", .postgres)]

/-- Reads the name of a product. -/
def read (depth : Nat) : Json.Reader Vendor :=
  Json.readVariant spellings depth

end Vendor

end BankLedger.Settings
