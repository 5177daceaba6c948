import BankLedger.Text.Octets

/-!
# Faults of the system

What the system says when it refuses something: its own words and the number of the fault.
-/

namespace BankLedger.Process

/-- The wording of a numbered fault.  A fault of the network has its number with the other sign, and
one in looking up a name has a number of no meaning to the system. -/
def numbered (words : String) (number : UInt32) : String :=
  let magnitude := number.toInt32.toInt.natAbs
  if magnitude < 1000 then s!"{words.capitalize} (os error {magnitude})" else words

/-- Why the system refused something. -/
def reason : IO.Error → String
  | .alreadyExists _ number words | .otherError number words | .resourceBusy number words
  | .resourceVanished number words | .unsupportedOperation number words
  | .hardwareFault number words | .unsatisfiedConstraints number words
  | .illegalOperation number words | .protocolError number words | .timeExpired number words
  | .interrupted _ number words | .noFileOrDirectory _ number words
  | .invalidArgument _ number words | .permissionDenied _ number words
  | .resourceExhausted _ number words | .inappropriateType _ number words
  | .noSuchThing _ number words => numbered words number
  | .unexpectedEof => "unexpected end of file"
  | .userError words => words

/-- What an action gives, or why the system refused it. -/
def attempt {α : Type} (action : IO α) : IO (Except String α) := do
  return (← action.toBaseIO).mapError reason

end BankLedger.Process
