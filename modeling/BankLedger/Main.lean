import BankLedger.Command.Run
import BankLedger.Postgres.Server
import BankLedger.Process.Host
import BankLedger.Process.Network

/-!
# The program

It takes its arguments from the command line, and ends with the exit code of what it was asked to
do.
-/

open BankLedger

/-- Carries out what the arguments ask for, or tells how they are given. -/
def main (arguments : List String) : IO UInt32 := do
  let host ← Process.host
  match ← Command.program host (Postgres.backend Process.network) arguments with
  | none =>
      IO.eprintln Command.usage
      return 2
  | some outcome =>
      IO.print outcome.output
      IO.eprint outcome.errors
      return outcome.exitCode.toUInt32
