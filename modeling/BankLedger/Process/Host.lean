import BankLedger.Command.Host
import BankLedger.Process.Fault
import Std.Async.System
import Std.Time

/-!
# The system of the process

The environment, the files and the clock of the system that the process runs on.
-/

namespace BankLedger.Process

open BankLedger.Command BankLedger.Settings

/-! ## The environment -/

/-- The name and the value of a variable, which an equals sign separates.  The name is not empty, so
that an equals sign may begin it. -/
def variableOf? (octets : Octets) : Option (String × Variable) :=
  match octets with
  | [] => none
  | first :: rest =>
      let name : Octets := first :: rest.takeWhile (· != 0x3d)
      match rest.dropWhile (· != 0x3d) with
      | [] => none
      | _ :: value => name.toText?.map fun text => (text, Environment.variableOf value)

/-- The variables in a block, each of which ends with a zero octet. -/
def variablesOf (block : Octets) : List (String × Variable) :=
  (block.splitOn 0).filterMap variableOf?

/-- The environment of the process.  Only a system that shows it as a file tells the variables that
are not text. -/
def environment : IO Environment := do
  match ← (IO.FS.readBinFile "/proc/self/environ").toBaseIO with
  | .ok block => return .ofList (variablesOf block.toList)
  | .error _ =>
      let known ← Std.Async.System.getEnv
      return fun name => ((known.get? name).map Variable.text).getD .unset

/-! ## Files -/

/-- A directory and those it lies in, innermost first, for a path given by the names that lead
there in reverse. -/
def innermostFirst (root : String) : List String → List String
  | [] => if root.isEmpty then [] else [root]
  | name :: above =>
      (root ++ String.intercalate "/" (name :: above).reverse) :: innermostFirst root above

/-- The directories on the way to a path, the path itself first. -/
def ancestors (path : String) : List String :=
  let names := (path.splitOn "/").filter (· != "")
  innermostFirst (if path.startsWith "/" then "/" else "") names.reverse

/-- Makes the first of some directories, and those it lies in as far as they are missing.  Only a
directory has itself as an entry. -/
def makeDirectories : List String → IO Unit
  | [] => return
  | path :: above => do
      match ← (IO.FS.createDir path).toBaseIO with
      | .ok () => return
      | .error (.noFileOrDirectory ..) =>
          makeDirectories above
          IO.FS.createDir path
      | .error fault =>
          if let .error _ ← (IO.FS.realPath (pathIn path ".")).toBaseIO then throw fault

/-- The content of the first of some files that can be read. -/
def readFirst : List String → IO (Option Octets)
  | [] => return none
  | path :: others => do
      match ← (IO.FS.readBinFile path).toBaseIO with
      | .ok content => return some content.toList
      | .error _ => readFirst others

/-- The environment file in the working directory or the nearest one above it. -/
def environmentFile : IO (Option Octets) := do
  let home := toString (← IO.currentDir)
  readFirst ((ancestors home).map (pathIn · ".env"))

/-! ## The clock -/

/-- A moment as a text: date and time in universal time, with as many digits of the second as it
takes in steps of three. -/
def momentText (moment : Std.Time.Timestamp) : String :=
  let fraction := moment.toNanosecondsSinceUnixEpoch.val % 1000000000
  let pattern :=
    if fraction = 0 then ""
    else if fraction % 1000000 = 0 then ".SSS"
    else if fraction % 1000 = 0 then ".SSSSSS"
    else ".SSSSSSSSS"
  (Std.Time.PlainDateTime.ofWallTime (.ofTimestamp moment .zero)).format
    s!"uuuu-MM-dd'T'HH:mm:ss{pattern}'Z'"

/-- The system that the process runs on. -/
def host : IO (Host IO) := do
  return {
    environment := ← environment
    environmentFile := environmentFile
    readFile path := attempt ((·.toList) <$> IO.FS.readBinFile path)
    writeFile path text := attempt (IO.FS.writeFile path text)
    makeDirectory path := attempt (makeDirectories (ancestors path))
    now := momentText <$> Std.Time.Timestamp.now
    pause milliseconds := IO.sleep milliseconds.toUInt32 }

end BankLedger.Process
