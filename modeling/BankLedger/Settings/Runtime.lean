import BankLedger.Database.Credentials
import BankLedger.Settings.Document
import BankLedger.Text.Digits

/-!
# Runtime configuration

A document becomes a runtime configuration by resolving its secrets and checking its values, in a
fixed order.  Host, database and user have to resolve; a password, a role and a port may be missing,
and an empty port stands for the one of the vendor.
-/

namespace BankLedger.Settings

open BankLedger.Database BankLedger.Text

/-- The configuration that a service runs with. -/
structure Runtime where
  vendor : Vendor
  credentials : Credentials
  pool : PoolSettings
  ledger : LedgerSettings
deriving DecidableEq

/-- Why a document makes no runtime configuration. -/
inductive RuntimeFailure
  | missingVariable (setting : String) (cause : VariableFailure)
  | invalidValue (setting reason : String)
deriving DecidableEq

/-- The wording of a failure. -/
def RuntimeFailure.message : RuntimeFailure → String
  | .missingVariable setting cause =>
      s!"missing environment variable when processing {setting}: {cause.message}"
  | .invalidValue setting reason => s!"invalid value for {setting}: {reason}"

/-- The messages of the causes of a failure. -/
def RuntimeFailure.causes : RuntimeFailure → List String
  | .missingVariable _ cause => [cause.message]
  | .invalidValue .. => []

/-- The greatest number of accounts that a ledger holds. -/
def accountLimit : Nat := 10000

/-- The text of a setting that has to be there. -/
def requiredText (environment : Environment) (setting : String) (secret : Secret) :
    Except RuntimeFailure String :=
  (secret.resolve environment).mapError (.missingVariable setting)

/-- The text of a setting that may be missing. -/
def optionalText (environment : Environment) (setting : String) :
    Option Secret → Except RuntimeFailure (Option String)
  | none => .ok none
  | some secret => (secret.resolveOptional environment).mapError (.missingVariable setting)

/-- The port that a text names; no text and an empty one stand for the default. -/
def portOf (default : Nat) : Option String → Except RuntimeFailure Nat
  | none => .ok default
  | some text =>
      if text.isEmpty then .ok default
      else match readNatural 65535 text.toList with
        | .ok port => .ok port
        | .error failure =>
            .error (.invalidValue "connection.port" s!"{quoted text}: {failure.message}")

/-- Checks the values of the pool and the ledger. -/
def checkSizes (pool : PoolSettings) (ledger : LedgerSettings) : Except RuntimeFailure Unit :=
  if pool.connections.toNat < 1 then
    .error (.invalidValue "poolSettings.connections" "at least one connection is required")
  else if ledger.maxAccountId.toInt < 1 || ledger.statementLimit.toInt < 1 then
    .error (.invalidValue "ledger" "maxAccountId and statementLimit must be positive")
  else if accountLimit < ledger.maxAccountId.toInt then
    .error (.invalidValue "ledger.maxAccountId"
      s!"{ledger.maxAccountId.toInt} is more accounts than the ledger holds, the limit is {accountLimit}")
  else .ok ()

/-- The runtime configuration of a document. -/
def Document.resolve (environment : Environment) (document : Document) :
    Except RuntimeFailure Runtime := do
  let settings := document.connection
  let host ← requiredText environment "connection.host" settings.host
  let database ← requiredText environment "connection.database" settings.database
  let user ← requiredText environment "connection.user" settings.user
  let password ← optionalText environment "connection.password" settings.password
  let role ← optionalText environment "connection.role" settings.role
  let portText ← optionalText environment "connection.port" settings.port
  let port ← portOf document.vendor.defaultPort portText
  checkSizes document.pool document.ledger
  return {
    vendor := document.vendor
    credentials := {
      host := host
      port := port
      database := database
      user := user
      password := password.getD ""
      role := role.getD ""
      connectTimeoutMs := some document.pool.connectTimeoutMs.toNat }
    pool := document.pool
    ledger := document.ledger }

end BankLedger.Settings
