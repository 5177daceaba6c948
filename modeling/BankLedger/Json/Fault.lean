import BankLedger.Text.Quoted

/-!
# Faults in JSON texts

A reader works on the characters that are left.  When it cannot go on, it reports the reason, the
characters that were left, and how many octets of them it had already looked at.  Line and column
are found only when the fault is reported: lines count from 1, and the column is the number of
octets of the line that were read.

A fault found by looking at a whole value is not tied to a place at first; the record that holds the
value settles it.
-/

namespace BankLedger.Json

open BankLedger.Text

/-- Why a text is not the JSON that was expected. -/
inductive Reason
  | endInValue
  | endInArray
  | endInObject
  | endInString
  | expectedValue
  | expectedWord
  | expectedColon
  | expectedArrayEnd
  | expectedObjectEnd
  | invalidNumber
  | numberOutOfRange
  | invalidEscape
  | controlCharacter
  | loneSurrogate
  | missingSurrogate
  | keyNotString
  | trailingComma
  | trailingCharacters
  | nestedTooDeep
  | wrongType (found expected : String)
  | wrongValue (found expected : String)
  | wrongLength (length : Nat) (record : String) (size : Nat)
  | unknownVariant (found : String) (expected : List String)
  | missingField (name : String)
  | duplicateField (name : String)
  | noMatch (type : String)
deriving DecidableEq

/-- A name as messages mark it. -/
def marked (name : String) : String :=
  "\x60" ++ name ++ "\x60"

/-- The wording of a reason. -/
def Reason.message : Reason → String
  | .endInValue => "EOF while parsing a value"
  | .endInArray => "EOF while parsing a list"
  | .endInObject => "EOF while parsing an object"
  | .endInString => "EOF while parsing a string"
  | .expectedValue => "expected value"
  | .expectedWord => "expected ident"
  | .expectedColon => "expected " ++ marked ":"
  | .expectedArrayEnd => "expected " ++ marked "," ++ " or " ++ marked "]"
  | .expectedObjectEnd => "expected " ++ marked "," ++ " or " ++ marked "\x7d"
  | .invalidNumber => "invalid number"
  | .numberOutOfRange => "number out of range"
  | .invalidEscape => "invalid escape"
  | .controlCharacter => "control character (\\u0000-\\u001F) found while parsing a string"
  | .loneSurrogate => "lone leading surrogate in hex escape"
  | .missingSurrogate => "unexpected end of hex escape"
  | .keyNotString => "key must be a string"
  | .trailingComma => "trailing comma"
  | .trailingCharacters => "trailing characters"
  | .nestedTooDeep => "recursion limit exceeded"
  | .wrongType found expected => s!"invalid type: {found}, expected {expected}"
  | .wrongValue found expected => s!"invalid value: {found}, expected {expected}"
  | .wrongLength length record size =>
      s!"invalid length {length}, expected struct {record} with {size} elements"
  | .unknownVariant found expected =>
      "unknown variant " ++ marked found ++ ", expected " ++
        " or ".intercalate (expected.map marked)
  | .missingField name => "missing field " ++ marked name
  | .duplicateField name => "duplicate field " ++ marked name
  | .noMatch type => s!"data did not match any variant of untagged enum {type}"

/-- Where a reader stopped: the characters that were left, and the octets of them it had looked
at. -/
structure Stop where
  rest : List Char
  seen : Nat
deriving DecidableEq

/-- A reason, with the place it is tied to. -/
structure Fault where
  reason : Reason
  stop : Stop
  settled : Bool
deriving DecidableEq

namespace Fault

/-- A fault that is tied to the place where it was found. -/
def settledAt (reason : Reason) (rest : List Char) (seen : Nat) : Fault :=
  ⟨reason, ⟨rest, seen⟩, true⟩

/-- A fault that some enclosing record has yet to place. -/
def pending (reason : Reason) (rest : List Char) : Fault :=
  ⟨reason, ⟨rest, 0⟩, false⟩

/-- The fault, tied to a place if it was not tied to one before. -/
def settle (fault : Fault) (rest : List Char) : Fault :=
  if fault.settled then fault else settledAt fault.reason rest 0

end Fault

/-! ## Line and column -/

/-- Line and column of a place in a text. -/
structure Place where
  line : Nat
  column : Nat
deriving DecidableEq

/-- The place after one more octet of a character; a line end starts a new line. -/
def Place.next (place : Place) (character : Char) (octets : Nat) : Place :=
  if character == '\n' then ⟨place.line + 1, 0⟩ else ⟨place.line, place.column + octets⟩

/-- The place after some octets of the characters that are left. -/
def Place.look (place : Place) : Nat → List Char → Place
  | 0, _ => place
  | _, [] => place
  | octets + 1, character :: rest =>
      if octets + 1 < character.utf8Size then place.next character (octets + 1)
      else look (place.next character character.utf8Size) (octets + 1 - character.utf8Size) rest
termination_by _ characters => characters.length

/-- The place after some characters. -/
def Place.after (place : Place) : List Char → Place
  | [] => place
  | character :: rest => (place.next character character.utf8Size).after rest

/-- The place in a text where a reader stopped. -/
def Stop.place (whole : List Char) (stop : Stop) : Place :=
  let read := whole.take (whole.length - stop.rest.length)
  ((Place.mk 1 0).after read).look stop.seen stop.rest

/-- The wording of a fault in a text, with its place if it is tied to one. -/
def Fault.message (whole : List Char) (fault : Fault) : String :=
  if fault.settled then
    let place := fault.stop.place whole
    s!"{fault.reason.message} at line {place.line} column {place.column}"
  else fault.reason.message

end BankLedger.Json
