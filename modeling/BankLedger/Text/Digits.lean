/-!
# Digit sequences

Whole numbers written in decimal digits, with and without a sign.  Reading takes a text as a whole:
every character has to belong to the number, and the number has to lie in the stated range.
-/

namespace BankLedger.Text

/-- A decimal digit of ASCII. -/
def isDigit (character : Char) : Bool :=
  '0' ≤ character && character ≤ '9'

/-- The value of a decimal digit. -/
def digitValue (digit : Char) : Nat :=
  digit.toNat - 48

/-- The number that a sequence of digits writes, after the digits already read into `total`. -/
def digitsFrom (total : Nat) (digits : List Char) : Nat :=
  digits.foldl (fun sum digit => sum * 10 + digitValue digit) total

/-- The number that a sequence of digits writes. -/
def digitsValue (digits : List Char) : Nat :=
  digitsFrom 0 digits

/-- Why a text is not a number of the expected range. -/
inductive DigitsError
  | empty
  | invalidDigit
  | tooLarge
  | tooSmall
deriving DecidableEq

/-- The wording of a failed reading. -/
def DigitsError.message : DigitsError → String
  | .empty => "cannot parse integer from empty string"
  | .invalidDigit => "invalid digit found in string"
  | .tooLarge => "number too large to fit in target type"
  | .tooSmall => "number too small to fit in target type"

/-- Reads digits after the number already read into `total`, which may not grow beyond `limit`.
The first character that is no digit or leads beyond the limit decides the failure. -/
def readUpTo (limit total : Nat) : List Char → Except DigitsError Nat
  | [] => .ok total
  | digit :: rest =>
      if !isDigit digit then .error .invalidDigit
      else if limit < total * 10 + digitValue digit then .error .tooLarge
      else readUpTo limit (total * 10 + digitValue digit) rest

/-- Reads a nonempty sequence of digits that writes a number of at most `limit`. -/
def readDigits (limit : Nat) (text : List Char) : Except DigitsError Nat :=
  if text.isEmpty then .error .invalidDigit else readUpTo limit 0 text

/-- The text without a plus sign in front. -/
def dropPlus : List Char → List Char
  | '+' :: rest => rest
  | text => text

/-- Reads a number of at most `limit`, with an optional plus sign. -/
def readNatural (limit : Nat) (text : List Char) : Except DigitsError Nat :=
  if text.isEmpty then .error .empty else readDigits limit (dropPlus text)

/-- Reads a number from `-least` up to `greatest`, with an optional sign. -/
def readInteger (least greatest : Nat) (text : List Char) : Except DigitsError Int :=
  match text with
  | '-' :: digits =>
      match readDigits least digits with
      | .ok value => .ok (-(value : Int))
      | .error .tooLarge => .error .tooSmall
      | .error failure => .error failure
  | _ => (readNatural greatest text).map Int.ofNat

/-- Reads a sixty-four bit integer, with an optional sign. -/
def readInt64 (text : List Char) : Except DigitsError Int64 :=
  (readInteger 0x8000000000000000 0x7fffffffffffffff text).map Int64.ofInt

end BankLedger.Text
