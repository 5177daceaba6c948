import BankLedger.Json.Record
import BankLedger.Settings.Secret
import BankLedger.Settings.Vendor

/-!
# Configuration documents

A configuration document says how to reach the database, how the pool behaves and how large the
ledger is.  Sections that have their default are left out when a document is written.
-/

namespace BankLedger.Settings

/-- How to reach the database. -/
structure ConnectionSettings where
  host : Secret
  port : Option Secret
  database : Secret
  user : Secret
  password : Option Secret
  role : Option Secret
deriving DecidableEq

/-- How the pool behaves; times are in milliseconds. -/
structure PoolSettings where
  connections : UInt64
  connectTimeoutMs : UInt64
  pollIntervalMs : UInt64
  handshakeTimeoutMs : UInt64
deriving DecidableEq

/-- How large the ledger is. -/
structure LedgerSettings where
  maxAccountId : Int64
  statementLimit : Int64
deriving DecidableEq

/-- A configuration document. -/
structure Document where
  version : UInt32
  vendor : Vendor
  connection : ConnectionSettings
  pool : PoolSettings
  ledger : LedgerSettings
deriving DecidableEq

/-- The pool settings of a document that has none. -/
def PoolSettings.standard : PoolSettings := ⟨4, 5000, 10, 30000⟩

/-- The ledger settings of a document that has none. -/
def LedgerSettings.standard : LedgerSettings := ⟨5, 10⟩

/-- Connection settings that are all taken from variables. -/
def ConnectionSettings.fromVariables : ConnectionSettings where
  host := .variable "DB_HOST"
  port := some (.variable "DB_PORT")
  database := .variable "DB_DATABASE"
  user := .variable "DB_USER"
  password := some (.variable "DB_PASSWORD")
  role := some (.variable "DB_ROLE")

namespace Document

/-- The version of the documents that are understood. -/
def currentVersion : UInt32 := 1

/-- The document to start with: everything is taken from variables. -/
def initial : Document where
  version := currentVersion
  vendor := .postgres
  connection := .fromVariables
  pool := .standard
  ledger := .standard

end Document

/-! ## Writing -/

/-- A member that is left out if there is no value. -/
def optionalMember (name : String) (secret : Option Secret) : List (String × Json) :=
  (secret.map fun value => (name, value.toJson)).toList

/-- The JSON form of connection settings. -/
def ConnectionSettings.toJson (settings : ConnectionSettings) : Json :=
  .object <| [("host", settings.host.toJson)] ++ optionalMember "port" settings.port ++
    [("database", settings.database.toJson), ("user", settings.user.toJson)] ++
    optionalMember "password" settings.password ++ optionalMember "role" settings.role

/-- The JSON form of pool settings. -/
def PoolSettings.toJson (settings : PoolSettings) : Json :=
  .object [("connections", .integer settings.connections.toNat),
    ("connectTimeoutMs", .integer settings.connectTimeoutMs.toNat),
    ("pollIntervalMs", .integer settings.pollIntervalMs.toNat),
    ("handshakeTimeoutMs", .integer settings.handshakeTimeoutMs.toNat)]

/-- The JSON form of ledger settings. -/
def LedgerSettings.toJson (settings : LedgerSettings) : Json :=
  .object [("maxAccountId", .integer settings.maxAccountId.toInt),
    ("statementLimit", .integer settings.statementLimit.toInt)]

/-- The JSON form of a document, without the sections that have their default. -/
def Document.toJson (document : Document) : Json :=
  .object <| [("version", .integer document.version.toNat),
      ("vendor", .string document.vendor.spelling),
      ("connection", document.connection.toJson)] ++
    (if document.pool = .standard then [] else [("poolSettings", document.pool.toJson)]) ++
    (if document.ledger = .standard then [] else [("ledger", document.ledger.toJson)])

/-- The text of a document in its file. -/
def Document.text (document : Document) : String :=
  document.toJson.indented ++ "\n"

/-! ## Reading -/

/-- A field of a record: how to get it from a draft, and how to read it into one. -/
def slot {Draft α : Type} (name : String) (mandatory : Bool) (held : Draft → Option α)
    (put : Draft → α → Draft) (read : Nat → Json.Reader α) : Json.Slot Draft where
  name := name
  mandatory := mandatory
  isFilled draft := (held draft).isSome
  fill depth draft := do return put draft (← read depth)

/-- Reads an integer of sixty-four bits from zero on. -/
def readWord64 (type : String) : Json.Reader UInt64 := do
  return UInt64.ofNat (← Json.readNatural type (UInt64.size - 1))

/-- The connection settings that have been read. -/
structure ConnectionDraft where
  host : Option Secret
  port : Option (Option Secret)
  database : Option Secret
  user : Option Secret
  password : Option (Option Secret)
  role : Option (Option Secret)

/-- The fields of the connection settings. -/
def connectionLayout : Json.Layout ConnectionDraft where
  name := "DatabaseConnectionSettings"
  blank := ⟨none, none, none, none, none, none⟩
  slots := [
    slot "host" true ConnectionDraft.host (fun draft host => { draft with host := some host })
      Secret.read,
    slot "port" false ConnectionDraft.port (fun draft port => { draft with port := some port })
      (fun depth => Json.readOptional (Secret.read depth)),
    slot "database" true ConnectionDraft.database
      (fun draft database => { draft with database := some database }) Secret.read,
    slot "user" true ConnectionDraft.user (fun draft user => { draft with user := some user })
      Secret.read,
    slot "password" false ConnectionDraft.password
      (fun draft password => { draft with password := some password })
      (fun depth => Json.readOptional (Secret.read depth)),
    slot "role" false ConnectionDraft.role (fun draft role => { draft with role := some role })
      (fun depth => Json.readOptional (Secret.read depth))]

/-- Reads connection settings. -/
def ConnectionSettings.read (depth : Nat) : Json.Reader ConnectionSettings := do
  let draft ← connectionLayout.read depth
  return {
    host := draft.host.getD (.plain "")
    port := draft.port.getD none
    database := draft.database.getD (.plain "")
    user := draft.user.getD (.plain "")
    password := draft.password.getD none
    role := draft.role.getD none }

/-- The pool settings that have been read. -/
structure PoolDraft where
  connections : Option UInt64
  connectTimeoutMs : Option UInt64
  pollIntervalMs : Option UInt64
  handshakeTimeoutMs : Option UInt64

/-- The fields of the pool settings. -/
def poolLayout : Json.Layout PoolDraft where
  name := "PoolSettings"
  blank := ⟨none, none, none, none⟩
  slots := [
    slot "connections" false PoolDraft.connections
      (fun draft value => { draft with connections := some value }) (fun _ => readWord64 "usize"),
    slot "connectTimeoutMs" false PoolDraft.connectTimeoutMs
      (fun draft value => { draft with connectTimeoutMs := some value })
      (fun _ => readWord64 "u64"),
    slot "pollIntervalMs" false PoolDraft.pollIntervalMs
      (fun draft value => { draft with pollIntervalMs := some value }) (fun _ => readWord64 "u64"),
    slot "handshakeTimeoutMs" false PoolDraft.handshakeTimeoutMs
      (fun draft value => { draft with handshakeTimeoutMs := some value })
      (fun _ => readWord64 "u64")]

/-- Reads pool settings; a missing field has its default. -/
def PoolSettings.read (depth : Nat) : Json.Reader PoolSettings := do
  let draft ← poolLayout.read depth
  return {
    connections := draft.connections.getD PoolSettings.standard.connections
    connectTimeoutMs := draft.connectTimeoutMs.getD PoolSettings.standard.connectTimeoutMs
    pollIntervalMs := draft.pollIntervalMs.getD PoolSettings.standard.pollIntervalMs
    handshakeTimeoutMs := draft.handshakeTimeoutMs.getD PoolSettings.standard.handshakeTimeoutMs }

/-- The ledger settings that have been read. -/
structure LedgerDraft where
  maxAccountId : Option Int64
  statementLimit : Option Int64

/-- The fields of the ledger settings. -/
def ledgerLayout : Json.Layout LedgerDraft where
  name := "LedgerSettings"
  blank := ⟨none, none⟩
  slots := [
    slot "maxAccountId" false LedgerDraft.maxAccountId
      (fun draft value => { draft with maxAccountId := some value }) (fun _ => Json.readInt64),
    slot "statementLimit" false LedgerDraft.statementLimit
      (fun draft value => { draft with statementLimit := some value }) (fun _ => Json.readInt64)]

/-- Reads ledger settings; a missing field has its default. -/
def LedgerSettings.read (depth : Nat) : Json.Reader LedgerSettings := do
  let draft ← ledgerLayout.read depth
  return {
    maxAccountId := draft.maxAccountId.getD LedgerSettings.standard.maxAccountId
    statementLimit := draft.statementLimit.getD LedgerSettings.standard.statementLimit }

/-- The sections of a document that have been read. -/
structure DocumentDraft where
  version : Option UInt32
  vendor : Option Vendor
  connection : Option ConnectionSettings
  pool : Option PoolSettings
  ledger : Option LedgerSettings

/-- The sections of a document. -/
def documentLayout : Json.Layout DocumentDraft where
  name := "ParsedConfiguration"
  blank := ⟨none, none, none, none, none⟩
  slots := [
    slot "version" true DocumentDraft.version
      (fun draft version => { draft with version := some version })
      (fun _ => do return UInt32.ofNat (← Json.readNatural "u32" (UInt32.size - 1))),
    slot "vendor" false DocumentDraft.vendor
      (fun draft vendor => { draft with vendor := some vendor }) Vendor.read,
    slot "connection" true DocumentDraft.connection
      (fun draft connection => { draft with connection := some connection })
      ConnectionSettings.read,
    slot "poolSettings" false DocumentDraft.pool
      (fun draft pool => { draft with pool := some pool }) PoolSettings.read,
    slot "ledger" false DocumentDraft.ledger
      (fun draft ledger => { draft with ledger := some ledger }) LedgerSettings.read]

/-- Reads a document. -/
def Document.read (depth : Nat) : Json.Reader Document := do
  let draft ← documentLayout.read depth
  return {
    version := draft.version.getD Document.currentVersion
    vendor := draft.vendor.getD .postgres
    connection := draft.connection.getD .fromVariables
    pool := draft.pool.getD .standard
    ledger := draft.ledger.getD .standard }

/-- Why a file gives no document.  The message of a fault in the text includes its place. -/
inductive DocumentFailure
  | malformed (path : String) (line column : Nat) (reason : String)
  | unsupportedVersion (version : UInt32)
  | unreadable (path reason : String)
deriving DecidableEq

/-- The wording of a failure. -/
def DocumentFailure.message : DocumentFailure → String
  | .malformed path line column reason => s!"parse error on {path}:{line}:{column}: {reason}"
  | .unsupportedVersion version => s!"unsupported configuration version {version.toNat}"
  | .unreadable path reason => s!"I/O error: {path}: {reason}"

/-- Reads the text of a file as a document of the current version. -/
def Document.ofText (path text : String) : Except DocumentFailure Document :=
  match Json.readWhole (Document.read Json.fullDepth) text.toList with
  | .error fault =>
      let place := fault.stop.place text.toList
      .error (.malformed path place.line place.column (fault.message text.toList))
  | .ok document =>
      if document.version = currentVersion then .ok document
      else .error (.unsupportedVersion document.version)

/-- Reads what a file holds, or the reason why it could not be read. -/
def Document.ofFile (path : String) (content : Except String Octets) :
    Except DocumentFailure Document :=
  match content with
  | .error reason => .error (.unreadable path reason)
  | .ok octets =>
      match octets.toText? with
      | none => .error (.unreadable path "stream did not contain valid UTF-8")
      | some text => Document.ofText path text

end BankLedger.Settings
