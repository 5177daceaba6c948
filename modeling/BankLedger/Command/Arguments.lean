import BankLedger.Settings.Environment
import BankLedger.Text.Digits

/-!
# Arguments

The program is told what to do by a command, with options before it and operands after it.  An
option may stand in the environment instead.  Arguments that cannot be understood are refused as a
whole.
-/

namespace BankLedger.Command

open BankLedger.Settings BankLedger.Text

/-- What a service is asked to do. -/
inductive Task
  | statement (account : Int64)
  | transact (account : Int64) (body : String)
  | query (text : String) (parameters : List String) (asJson : Bool)
deriving DecidableEq

/-- What the program is asked to do. -/
inductive Action
  | serve (task : Task)
  | writeConfiguration (directory : String)
  | showConfigurationSchema
  | showStorageSchema
deriving DecidableEq

/-- The understood arguments. -/
structure Invocation where
  directory : Option String
  connections : Option UInt64
  showsMetrics : Bool
  action : Action
deriving DecidableEq

/-- The options that stand before the command. -/
structure Options where
  directory : Option String
  connections : Option String
  logLevel : Option String
  showsMetrics : Bool

namespace Options

/-- No options. -/
def none : Options :=
  ⟨.none, .none, .none, false⟩

/-- The options with the value of one of them; an option is given once. -/
def give (name value : String) (options : Options) : Option Options :=
  match name with
  | "configuration" =>
      if options.directory.isSome then .none else some { options with directory := some value }
  | "connections" =>
      if options.connections.isSome then .none else some { options with connections := some value }
  | "log-level" =>
      if options.logLevel.isSome then .none else some { options with logLevel := some value }
  | _ => .none

/-- The options with a flag. -/
def raise (name : String) (options : Options) : Option Options :=
  if name = "metrics" && !options.showsMetrics then some { options with showsMetrics := true }
  else .none

/-- Whether an option has a value. -/
def takesValue (name : String) : Bool :=
  ["configuration", "connections", "log-level"].contains name

end Options

/-- Whether an argument is an option rather than an operand; a single dash is an operand. -/
def looksLikeOption (argument : String) : Bool :=
  argument.startsWith "-" && argument != "-"

/-- The name of a long option and the value attached to it after an equals sign. -/
def longOption? (argument : String) : Option (String × Option String) :=
  match argument.toList with
  | '-' :: '-' :: text =>
      let name := String.ofList (text.takeWhile (· != '='))
      match text.dropWhile (· != '=') with
      | [] => some (name, none)
      | _ :: value => some (name, some (String.ofList value))
  | _ => none

/-- The options before the command, the command and what stands after it. -/
def readOptions (options : Options) : List String → Option (Options × String × List String)
  | [] => none
  | argument :: rest =>
      if !looksLikeOption argument then some (options, argument, rest)
      else
        match longOption? argument with
        | none => none
        | some (name, some value) => do readOptions (← options.give name value) rest
        | some (name, none) =>
            if !Options.takesValue name then do readOptions (← options.raise name) rest
            else
              match rest with
              | [] => none
              | value :: others =>
                  if looksLikeOption value then none
                  else do readOptions (← options.give name value) others

/-- The operands of a command and whether its flag stands among them.  After two dashes everything
is an operand. -/
def readOperands (flag : Option String) (raised : Bool) :
    List String → Option (List String × Bool)
  | [] => some ([], raised)
  | argument :: rest =>
      if argument = "--" then some (rest, raised)
      else if !looksLikeOption argument then do
        let (operands, raised) ← readOperands flag raised rest
        return (argument :: operands, raised)
      else if flag = some argument && !raised then readOperands flag true rest
      else none

/-- The number of an account. -/
def readAccount (operand : String) : Option Int64 :=
  (readInt64 operand.toList).toOption

/-- The action of a command with operands. -/
def readAction (command : String) (arguments : List String) : Option Action := do
  let flag := if command = "query" then some "--json" else none
  let (operands, raised) ← readOperands flag false arguments
  match command, operands with
  | "statement", [account] => return .serve (.statement (← readAccount account))
  | "transact", [account, body] => return .serve (.transact (← readAccount account) body)
  | "query", text :: parameters => return .serve (.query text parameters raised)
  | "init-config", [directory] =>
      guard (!directory.isEmpty)
      return .writeConfiguration directory
  | "config-schema", [] => return .showConfigurationSchema
  | "sql-schema", [] => return .showStorageSchema
  | _, _ => none

/-- The value of an option, which the environment may hold instead of the arguments. -/
def settled (given : Option String) (held : Variable) : Except Octets (Option String) :=
  match given, held with
  | some value, _ => .ok (some value)
  | none, .unset => .ok none
  | none, .text value => .ok (some value)
  | none, .notText octets => .error octets

/-- The directory of the configuration, which may have a name that is not text. -/
def readDirectory (given : Option String) (held : Variable) : Option (Option String) :=
  match settled given held with
  | .ok none => some none
  | .ok (some directory) => if directory.isEmpty then none else some (some directory)
  | .error octets => some (some octets.toTextLossy)

/-- The number of connections. -/
def readConnections (given : Option String) (held : Variable) : Option (Option UInt64) :=
  match settled given held with
  | .ok none => some none
  | .ok (some digits) =>
      (readNatural (UInt64.size - 1) digits.toList).toOption.map fun count => some (UInt64.ofNat count)
  | .error _ => none

/-- How the arguments are given. -/
def usage : String :=
  String.intercalate "\n"
    ["usage: bank-ledger [OPTION...] COMMAND", "",
     "options:",
     "  --configuration DIRECTORY  the directory of configuration.json",
     "  --connections NUMBER       the number of connections to open",
     "  --log-level LEVEL          how much is logged",
     "  --metrics                  writes the metrics at the end", "",
     "commands:",
     "  statement ACCOUNT          the balance and the latest movements of an account",
     "  transact ACCOUNT BODY      carries out a movement given as JSON",
     "  query [--json] TEXT [PARAMETER...]",
     "                             runs a query",
     "  init-config DIRECTORY      writes a configuration to start with",
     "  config-schema              the JSON schema of configurations",
     "  sql-schema                 the tables and functions that a database has to hold"]

namespace Invocation

/-- Understands the arguments of the program. -/
def read (environment : Environment) (arguments : List String) : Option Invocation := do
  let (options, command, rest) ← readOptions .none arguments
  let action ← readAction command rest
  let directory ← readDirectory options.directory (environment "LEDGER_CONFIGURATION")
  let connections ← readConnections options.connections (environment "SERVER_DB_CONNS")
  let _ ← (settled options.logLevel (environment "RUST_LOG")).toOption
  return ⟨directory, connections, options.showsMetrics, action⟩

end Invocation

end BankLedger.Command
