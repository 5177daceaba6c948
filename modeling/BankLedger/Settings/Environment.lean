import BankLedger.Text.Octets

/-!
# Environment variables

An environment gives each name a text, nothing, or a value that is not text.
-/

namespace BankLedger.Settings

/-- What an environment holds under a name. -/
inductive Variable
  | unset
  | notText (octets : Octets)
  | text (value : String)
deriving DecidableEq

/-- The variables by name. -/
abbrev Environment := String → Variable

namespace Environment

/-- The environment without any variable. -/
def empty : Environment := fun _ => .unset

/-- The environment that a list of names and variables describes; the first of a name counts. -/
def ofList (entries : List (String × Variable)) : Environment := fun name =>
  (entries.lookup name).getD .unset

/-- The variable that some octets make. -/
def variableOf (octets : Octets) : Variable :=
  match octets.toText? with
  | some text => .text text
  | none => .notText octets

/-- The environment with a text under a name, unless the name has a text already. -/
def define (name value : String) (environment : Environment) : Environment := fun other =>
  match environment other with
  | .text known => .text known
  | kept => if other = name then .text value else kept

end Environment

/-- Why a variable gives no text. -/
inductive VariableFailure
  | unset (name : String)
  | notText (name : String)
deriving DecidableEq

/-- The wording of a failure. -/
def VariableFailure.message : VariableFailure → String
  | .unset name => s!"the environment variable {name} is not set"
  | .notText name => s!"the environment variable {name} is not valid unicode"

/-- The text of a variable. -/
def Environment.read (environment : Environment) (name : String) :
    Except VariableFailure String :=
  match environment name with
  | .unset => .error (.unset name)
  | .notText _ => .error (.notText name)
  | .text value => .ok value

end BankLedger.Settings
