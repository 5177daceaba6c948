import BankLedger.Settings.Environment

/-!
# Hosts

What the program needs of the system it runs on, apart from a backend: its environment, its files and
a clock.  The reason why a file cannot be used is told in the words of the system.
-/

namespace BankLedger.Command

open BankLedger.Settings

/-- What the program needs of the system it runs on. -/
structure Host (m : Type → Type) where
  environment : Environment
  /-- The content of the environment file, if there is one. -/
  environmentFile : m (Option Octets)
  readFile : String → m (Except String Octets)
  writeFile : String → String → m (Except String Unit)
  /-- Makes a directory and those it lies in, unless they are there. -/
  makeDirectory : String → m (Except String Unit)
  /-- The time as a text. -/
  now : m String
  /-- Waits for some milliseconds. -/
  pause : Nat → m Unit

/-- The path of a file in a directory. -/
def pathIn (directory name : String) : String :=
  if directory.endsWith "/" then directory ++ name else directory ++ "/" ++ name

end BankLedger.Command
