import BankLedger.Command.Arguments
import BankLedger.Command.EnvironmentFile
import BankLedger.Command.Host
import BankLedger.Ledger.Startup
import BankLedger.Ledger.StorageSchema
import BankLedger.Settings.Schema
import BankLedger.Sql.Table

/-!
# Running a command

A command that only concerns the configuration or the schemas is carried out at once.  The others
start a service, use it once and close its pool.  A failure is told by its message and those of its
causes, and the exit code tells a configuration that cannot work from other failures.
-/

namespace BankLedger.Command

open BankLedger.Database BankLedger.Ledger BankLedger.Settings BankLedger.Sql

/-- What the program leaves: its exit code and what it writes. -/
structure Outcome where
  exitCode : Nat
  output : String
  errors : String
deriving DecidableEq

/-- Why a command failed. -/
inductive Failure
  | document (cause : DocumentFailure)
  | configuration (cause : RuntimeFailure)
  | startup (cause : StartupFailure)
  | bank (cause : BankFailure)
  | writing (directory reason : String)
  | panic (cause : Panic)
deriving DecidableEq

namespace Failure

/-- The message of a failure and those of its causes.  A movement that is invalid speaks for
itself. -/
def messages : Failure → List String
  | .document cause => [cause.message]
  | .configuration cause => cause.message :: cause.causes
  | .startup cause => cause.message :: cause.causes
  | .bank (.invalidMovement cause) => [cause.message]
  | .bank cause => cause.message :: cause.causes
  | .writing directory reason => [s!"writing {directory}", s!"I/O error: {reason}", reason]
  | .panic cause => [cause.message]

/-- The exit code of a failure. -/
def exitCode : Failure → Nat
  | .document _ | .configuration _ => 2
  | .startup cause => cause.exitCode
  | .bank _ | .writing .. => 1
  | .panic _ => Panic.exitCode

/-- What the program leaves after a failure. -/
def outcome (failure : Failure) : Outcome :=
  ⟨failure.exitCode, "", String.intercalate ": " failure.messages ++ "\n"⟩

end Failure

/-! ## Tasks -/

/-- What the program leaves after a statement. -/
def statementOutcome (takenAt : String) (statement : Statement) : Outcome :=
  ⟨0, (statement.toJson takenAt).indented ++ "\n", ""⟩

/-- What the program leaves after a movement. -/
def movementOutcome : MovementOutcome → Outcome
  | .completed after => ⟨0, after.toJson.indented ++ "\n", ""⟩
  | .rejected => ⟨3, "", "transaction rejected: the overdraft limit would be exceeded\n"⟩

/-- A result as JSON. -/
def resultJson (result : ResultSet) : Json :=
  .sortedObject [("code", .string result.code.name), ("message", .string result.message),
    ("fields", .array (result.fields.map .string)), ("rows", result.rowsJson)]

/-- What the program leaves after a query. -/
def queryOutcome (asJson : Bool) (result : ResultSet) : Outcome :=
  let text := if asJson then (resultJson result).indented else result.table
  ⟨result.code.isError.toNat, text ++ "\n", ""⟩

section

variable {m : Type → Type} [Monad m] {Connection Handshake : Type}

/-- Carries out a task on a started service. -/
def perform (host : Host m) (backend : Backend m Connection Handshake) (limit : Int64) :
    Task → BankAction (PoolAction m Connection Handshake) (Except Failure Outcome)
  | .statement account => do
      match ← Bank.statementOf (pooledStorage backend) limit account with
      | .error failure => return .error (.bank failure)
      | .ok statement =>
          let takenAt ← liftM (liftM host.now : PoolAction m Connection Handshake String)
          return .ok (statementOutcome takenAt statement)
  | .transact account body => do
      match ← Bank.transactRequest (pooledStorage backend) account body with
      | .error failure => return .error (.bank failure)
      | .ok outcome => return .ok (movementOutcome outcome)
  | .query text parameters asJson => do
      let values := parameters.map Value.string
      return .ok (queryOutcome asJson (← liftM (Pool.execute backend text values)))

/-- The published metrics of a pool. -/
def metricsText (pool : Pool Connection Handshake) : String :=
  (Registry.extend [] (pool.metrics.getD .initial).families).text

/-- Starts a service, carries out a task on it and closes its pool. -/
def serve (host : Host m) (backend : Backend m Connection Handshake) (configuration : Runtime)
    (showsMetrics : Bool) (task : Task) : m (Except Failure Outcome) := do
  match ← Startup.start backend host.pause configuration [] with
  | .error (.failed failure _) => return .error (.startup failure)
  | .error (.panicked panic) => return .error (.panic panic)
  | .ok service =>
      let limit := configuration.ledger.statementLimit
      let ((answer, _), pool) ←
        ((perform host backend limit task).run service.accounts).run service.pool
      let _ ← (Pool.close backend).run pool
      return answer.map fun outcome =>
        if showsMetrics then { outcome with errors := outcome.errors ++ metricsText pool }
        else outcome

/-! ## Configurations -/

/-- The file of a configuration in its directory. -/
def configurationFile : String := "configuration.json"

/-- The file of the schema of configurations. -/
def schemaFile : String := "schema.json"

/-- Reads the document in a directory. -/
def readDocument (host : Host m) (directory : String) : m (Except DocumentFailure Document) := do
  let path := pathIn directory configurationFile
  return Document.ofFile path (← host.readFile path)

/-- The document in a directory, or the one to start with. -/
def loadDocument (host : Host m) : Option String → m (Except DocumentFailure Document)
  | none => return .ok .initial
  | some directory => readDocument host directory

/-- The document with another number of connections, if one is given. -/
def withConnections (connections : Option UInt64) (document : Document) : Document :=
  match connections with
  | none => document
  | some count => { document with pool := { document.pool with connections := count } }

/-- The configuration that a service runs with. -/
def loadConfiguration (host : Host m) (environment : Environment) (invocation : Invocation) :
    m (Except Failure Runtime) := do
  match ← loadDocument host invocation.directory with
  | .error failure => return .error (.document failure)
  | .ok document =>
      let settled := withConnections invocation.connections document
      return (settled.resolve environment).mapError .configuration

/-- Writes a document, and the schema of documents, into a directory. -/
def writeDocument (host : Host m) (directory : String) (document : Document) :
    m (Except String Unit) := do
  match ← host.makeDirectory directory with
  | .error reason => return .error reason
  | .ok () =>
      match ← host.writeFile (pathIn directory configurationFile) document.text with
      | .error reason => return .error reason
      | .ok () => host.writeFile (pathIn directory schemaFile) Schema.fileText

/-! ## The program -/

/-- Carries out what the arguments ask for. -/
def run (host : Host m) (backend : Backend m Connection Handshake) (environment : Environment)
    (invocation : Invocation) : m (Except Failure Outcome) := do
  match invocation.action with
  | .showConfigurationSchema => return .ok ⟨0, Schema.fileText, ""⟩
  | .showStorageSchema => return .ok ⟨0, storageSchema, ""⟩
  | .writeConfiguration directory =>
      match ← writeDocument host directory .initial with
      | .error reason => return .error (.writing directory reason)
      | .ok () => return .ok ⟨0, "", ""⟩
  | .serve task =>
      match ← loadConfiguration host environment invocation with
      | .error failure => return .error failure
      | .ok configuration => serve host backend configuration invocation.showsMetrics task

/-- The environment of the program with that of its file. -/
def loadEnvironment (host : Host m) : m Environment := do
  match ← host.environmentFile with
  | none => return host.environment
  | some content => return EnvironmentFile.load host.environment content

/-- The program: what it leaves, or nothing if its arguments are refused. -/
def program (host : Host m) (backend : Backend m Connection Handshake)
    (arguments : List String) : m (Option Outcome) := do
  let environment ← loadEnvironment host
  match Invocation.read environment arguments with
  | none => return none
  | some invocation =>
      match ← run host backend environment invocation with
      | .ok outcome => return some outcome
      | .error failure => return some failure.outcome

end

end BankLedger.Command
