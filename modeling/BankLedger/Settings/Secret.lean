import BankLedger.Json.Read
import BankLedger.Settings.Environment

/-!
# Secrets

A setting that should not stand in a file is given by the name of an environment variable.  In JSON
a plain setting is a string, and a variable an object with its name.
-/

namespace BankLedger.Settings

/-- A setting, or the name of the variable that holds it. -/
inductive Secret
  | plain (text : String)
  | variable (name : String)
deriving DecidableEq

namespace Secret

/-- The name of the variable, if the setting is not plain. -/
def variableName? : Secret → Option String
  | .plain _ => none
  | .variable name => some name

/-- The text of a setting. -/
def resolve (environment : Environment) : Secret → Except VariableFailure String
  | .plain text => .ok text
  | .variable name => environment.read name

/-- The text of a setting that may be missing: an unset variable is none. -/
def resolveOptional (environment : Environment) (secret : Secret) :
    Except VariableFailure (Option String) :=
  match secret.resolve environment with
  | .ok text => .ok (some text)
  | .error (.unset _) => .ok none
  | .error failure => .error failure

/-- The JSON form of a setting. -/
def toJson : Secret → Json
  | .plain text => .string text
  | .variable name => .object [("variable", .string name)]

/-- The setting that a JSON value writes: a string, or an object with one name of a variable. -/
def ofJson? : Json → Option Secret
  | .string text => some (.plain text)
  | .object members =>
      match members.filter fun member => member.1 == "variable" with
      | [(_, .string name)] => some (.variable name)
      | _ => none
  | _ => none

@[simp] theorem ofJson?_toJson (secret : Secret) : ofJson? secret.toJson = some secret := by
  cases secret <;> rfl

/-- Reads a setting.  That a value is no setting is known only after it has been read. -/
def read (depth : Nat) : Json.Reader Secret := do
  match ofJson? (← Json.readValue depth) with
  | some secret => return secret
  | none => Json.stopPending (.noMatch "Secret")

end Secret

end BankLedger.Settings
