import BankLedger.Settings.Document

/-!
# The schema of configuration documents

A JSON schema that describes what a configuration document may hold.  The defaults it names are
those that reading uses.
-/

namespace BankLedger.Settings.Schema

/-- A reference to a definition of the schema. -/
def reference (name : String) : Json :=
  .object [("$ref", .string ("#/definitions/" ++ name))]

/-- A description, as the first member of a schema. -/
def described (text : String) (members : List (String × Json)) : List (String × Json) :=
  ("description", .string text) :: members

/-- Some strings as a JSON array. -/
def strings (texts : List String) : Json :=
  .array (texts.map .string)

/-- The members of a schema of integers. -/
def integer (format : String) (signed : Bool) : List (String × Json) :=
  [("type", .string "integer"), ("format", .string format)] ++
    if signed then [] else [("minimum", .float (Binary64.zero false))]

/-- The schema of an integer setting with a default. -/
def integerSetting (text format : String) (signed : Bool) (default : Int) : Json :=
  .object (described text (("default", .integer default) :: integer format signed))

/-- The schema of a secret that has to be there. -/
def secret (text : String) : Json :=
  .object (described text [("allOf", .array [reference "Secret"])])

/-- The members of the schema of a secret that may be missing. -/
def optionalSecret : List (String × Json) :=
  [("anyOf", .array [reference "Secret", .object [("type", .string "null")]])]

/-- The schema of a record. -/
def record (text : String) (required : List String) (properties : List (String × Json)) : Json :=
  .object <| described text <| [("type", .string "object")] ++
    (if required.isEmpty then [] else [("required", strings required)]) ++
    [("properties", .object properties)]

/-- The schema of the connection settings. -/
def connection : Json :=
  record "Database connection settings." ["database", "host", "user"] [
    ("database", secret "Name of the database."),
    ("host", secret "Host name or address of the database server."),
    ("password", .object optionalSecret),
    ("port", .object (described
      "Port of the database server. Defaults to the vendor's port." optionalSecret)),
    ("role", .object (described "Role to assume after logging in." optionalSecret)),
    ("user", secret "Login user.")]

/-- The schema of the ledger settings. -/
def ledger : Json :=
  record "Settings for the account ledger." [] [
    ("maxAccountId", integerSetting "Accounts are numbered from 1 up to this id, inclusive."
      "int64" true LedgerSettings.standard.maxAccountId.toInt),
    ("statementLimit", integerSetting "Number of movements listed in a statement."
      "int64" true LedgerSettings.standard.statementLimit.toInt)]

/-- The schema of the pool settings. -/
def pool : Json :=
  record "Settings for the connection pool." [] [
    ("connectTimeoutMs", integerSetting "timeout for opening one connection (milliseconds)"
      "uint64" false PoolSettings.standard.connectTimeoutMs.toNat),
    ("connections", integerSetting "number of connections the pool opens"
      "uint" false PoolSettings.standard.connections.toNat),
    ("handshakeTimeoutMs", integerSetting
      "give up waiting for the pool to connect after this long (milliseconds)"
      "uint64" false PoolSettings.standard.handshakeTimeoutMs.toNat),
    ("pollIntervalMs", integerSetting
      "delay between two polls of the pool status while it connects (milliseconds)"
      "uint64" false PoolSettings.standard.pollIntervalMs.toNat)]

/-- The definitions that the schema refers to. -/
def definitions : Json :=
  .object [
    ("DatabaseConnectionSettings", connection),
    ("LedgerSettings", ledger),
    ("PoolSettings", pool),
    ("Secret", .object (described
      "A value written in the configuration, or the name of the environment variable holding it."
      [("anyOf", .array [
        .object [("type", .string "string")],
        .object [("type", .string "object"), ("required", strings ["variable"]),
          ("properties", .object [("variable", reference "Variable")])]])])),
    ("Variable", .object (described "The name of an environment variable."
      [("type", .string "string")])),
    ("Vendor", .object (described "The database products we can talk to."
      [("type", .string "string"), ("enum", strings [Vendor.postgres.spelling])]))]

/-- The schema of a configuration document. -/
def document : Json :=
  .object [
    ("$schema", .string "http://json-schema.org/draft-07/schema#"),
    ("title", .string "ParsedConfiguration"),
    ("description", .string
      "Initial configuration, just enough to connect to a database and serve the ledger."),
    ("type", .string "object"),
    ("required", strings ["connection", "version"]),
    ("properties", .object [
      ("connection", reference "DatabaseConnectionSettings"),
      ("ledger", reference "LedgerSettings"),
      ("poolSettings", reference "PoolSettings"),
      ("vendor", .object [("default", .string Vendor.postgres.spelling),
        ("allOf", .array [reference "Vendor"])]),
      ("version", .object (integer "uint32" false))]),
    ("definitions", definitions)]

/-- The text of the schema in its file. -/
def fileText : String :=
  document.indented ++ "\n"

end BankLedger.Settings.Schema
