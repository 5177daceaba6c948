import BankLedger.Text.Quoted

/-!
# Credentials

What is needed to open a session with a database.  The description of credentials, made for
diagnostics, never shows the password.
-/

namespace BankLedger.Database

open BankLedger.Text

/-- What is needed to open a session.  An empty role stands for the role of the login user, and a
missing timeout for waiting without a limit. -/
structure Credentials where
  host : String
  port : Nat
  database : String
  user : String
  password : String
  role : String
  connectTimeoutMs : Option Nat
deriving DecidableEq

namespace Credentials

/-- The names of the required fields that are empty. -/
def missingFields (credentials : Credentials) : List String :=
  let required := [("host", credentials.host), ("database", credentials.database),
    ("user", credentials.user)]
  (required.filter fun field => field.2.isEmpty).map Prod.fst

/-- Host and port. -/
def address (credentials : Credentials) : String :=
  s!"{credentials.host}:{credentials.port}"

/-- The fraction of a second that some milliseconds make, without trailing zeros. -/
def fractionText (milliseconds : Nat) : String :=
  let digits := (Nat.repr (1000 + milliseconds)).toList.drop 1
  let kept := (digits.reverse.dropWhile (· == '0')).reverse
  if kept.isEmpty then "" else "." ++ String.ofList kept

/-- A length of time in the largest unit that makes it at least one. -/
def durationText (milliseconds : Nat) : String :=
  if milliseconds == 0 then "0ns"
  else if milliseconds < 1000 then s!"{milliseconds}ms"
  else s!"{milliseconds / 1000}{fractionText (milliseconds % 1000)}s"

/-- The credentials for diagnostics, with the password left out. -/
def description (credentials : Credentials) : String :=
  let timeout := match credentials.connectTimeoutMs with
    | none => "None"
    | some milliseconds => s!"Some({durationText milliseconds})"
  "Credentials \x7b host: " ++ quoted credentials.host ++
    ", port: " ++ toString credentials.port ++
    ", database: " ++ quoted credentials.database ++
    ", user: " ++ quoted credentials.user ++
    ", password: " ++ quoted "<redacted>" ++
    ", role: " ++ quoted credentials.role ++
    ", connect_timeout: " ++ timeout ++ " \x7d"

end Credentials

end BankLedger.Database
