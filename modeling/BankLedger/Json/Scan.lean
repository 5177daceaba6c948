import BankLedger.Json.Fault
import BankLedger.Json.Value
import BankLedger.Text.Digits

/-!
# Scanning JSON

The scalars of a JSON text and the blanks between its tokens.  A reader takes characters from what
is left, or stops with a fault.  Two differences to a plain grammar are part of the rules: a number
that does not fit into sixty-four bits, or is a negative zero, counts as a floating-point number,
and a floating-point number is scaled by powers of ten in double precision.
-/

namespace BankLedger.Json

open BankLedger.Text

/-- A reader takes characters from what is left, or stops with a fault. -/
abbrev Reader := StateT (List Char) (Except Fault)

/-- Stops with the octets already read. -/
def stopHere {α : Type} (reason : Reason) : Reader α := fun rest =>
  .error (.settledAt reason rest 0)

/-- Stops having looked at one more octet. -/
def stopAtNext {α : Type} (reason : Reason) : Reader α := fun rest =>
  .error (.settledAt reason rest 1)

/-- Stops with a fault that an enclosing record has yet to place. -/
def stopPending {α : Type} (reason : Reason) : Reader α := fun rest =>
  .error (.pending reason rest)

/-- A blank between tokens. -/
def isGap (character : Char) : Bool :=
  character == ' ' || character == '\n' || character == '\t' || character == '\r'

/-- Skips the blanks in front. -/
def skipGaps : Reader Unit :=
  modify fun rest => rest.dropWhile isGap

/-- The next character, if there is one, without taking it. -/
def peek : Reader (Option Char) := do
  return (← get).head?

/-- Skips blanks and looks at the next character. -/
def peekToken : Reader (Option Char) := do
  skipGaps
  peek

/-- Takes the next character. -/
def advance : Reader Unit :=
  modify List.tail

/-- Takes the characters of a word; the first that differs is taken as well. -/
def takeWord : List Char → Reader Unit
  | [] => pure ()
  | expected :: word => do
      match ← peek with
      | none => stopHere .endInValue
      | some found =>
          if found == expected then do
            advance
            takeWord word
          else stopAtNext .expectedWord

/-! ## Strings -/

/-- The number that four hexadecimal digits write. -/
def hexNumber? (digits : List Char) : Option Nat := do
  let values ← digits.mapM Octets.hexValue?
  return values.foldl (fun total value => total * 16 + value) 0

/-- Takes the four digits of an escape, for which four octets have to be left. -/
def takeHex : Reader Nat := fun rest =>
  if octetCount (rest.take 4) < 4 then .error (.settledAt .endInString [] 0)
  else match hexNumber? (rest.take 4) with
    | some value => .ok (value, rest.drop 4)
    | none => .error (.settledAt .invalidEscape rest 4)

/-- Takes a character that has to follow the first half of a surrogate pair. -/
def takeSurrogateMark (mark : Char) : Reader Unit := do
  match ← peek with
  | none => stopHere .endInString
  | some found => if found == mark then advance else stopAtNext .missingSurrogate

/-- Takes the digits of an escape, and of the second half if the first belongs to a pair. -/
def takeCodePoint : Reader Char := do
  let code ← takeHex
  if 0xDC00 ≤ code && code ≤ 0xDFFF then stopHere .loneSurrogate
  else if 0xD800 ≤ code && code ≤ 0xDBFF then do
    takeSurrogateMark '\\'
    takeSurrogateMark 'u'
    let second ← takeHex
    if 0xDC00 ≤ second && second ≤ 0xDFFF then
      return Char.ofNat (0x10000 + (code - 0xD800) * 0x400 + (second - 0xDC00))
    else stopHere .loneSurrogate
  else return Char.ofNat code

/-- The character that a short escape stands for. -/
def shortEscape? : Char → Option Char
  | '"' => some '"'
  | '\\' => some '\\'
  | '/' => some '/'
  | 'b' => some '\x08'
  | 'f' => some '\x0c'
  | 'n' => some '\n'
  | 'r' => some '\r'
  | 't' => some '\t'
  | _ => none

/-- Takes an escape after its backslash. -/
def takeEscape : Reader Char := do
  match ← peek with
  | none => stopHere .endInString
  | some found =>
      if found == 'u' then do
        advance
        takeCodePoint
      else match shortEscape? found with
        | some character => do
            advance
            return character
        | none => stopAtNext .invalidEscape

/-- Takes the characters of a string up to its closing quote, at most `steps` of them. -/
def takeString : Nat → Reader (List Char)
  | 0 => stopHere .endInString
  | steps + 1 => do
      match ← peek with
      | none => stopHere .endInString
      | some found =>
          if found == '"' then do
            advance
            return []
          else if found == '\\' then do
            advance
            let character ← takeEscape
            return character :: (← takeString steps)
          else if found.toNat < 32 then stopAtNext .controlCharacter
          else do
            advance
            return found :: (← takeString steps)

/-- Takes the rest of a string whose opening quote has been taken. -/
def stringBody : Reader String := do
  let rest ← get
  return String.ofList (← takeString (rest.length + 1))

/-! ## Numbers -/

/-- A number as it was written: an integer of sixty-four bits, or a floating-point number. -/
inductive Number
  | integer (value : Int)
  | float (value : Binary64)
deriving DecidableEq

/-- The greatest number of sixty-four bits. -/
def wordLimit : Nat :=
  UInt64.size - 1

/-- Takes digits while the number they write fits into sixty-four bits.  Answers that number and
the count of digits taken. -/
def takeDigits : Nat → List Char → Nat × Nat × List Char
  | value, [] => (value, 0, [])
  | value, character :: rest =>
      if isDigit character && value * 10 + digitValue character ≤ wordLimit then
        let (total, count, after) := takeDigits (value * 10 + digitValue character) rest
        (total, count + 1, after)
      else (value, 0, character :: rest)

/-- Scales a magnitude by a power of ten, at most `steps` times by the greatest power there is. -/
def scaleByTens : Nat → Binary64 → Int → Option Binary64
  | 0, magnitude, _ => some magnitude
  | steps + 1, magnitude, exponent =>
      if exponent.natAbs ≤ 308 then
        let power := Binary64.ofDecimal false 1 exponent.natAbs
        if exponent < 0 then some (magnitude.divMagnitude power)
        else
          let product := magnitude.mulMagnitude power
          if product.isInfinite then none else some product
      else if magnitude.isZero then some magnitude
      else if 0 < exponent then none
      else scaleByTens steps (magnitude.divMagnitude (Binary64.ofDecimal false 1 308))
        (exponent + 308)

/-- The floating-point number of a significand and a power of ten. -/
def makeFloat (negative : Bool) (significand : Nat) (exponent : Int) : Reader Number :=
  match scaleByTens 4 (Binary64.ofNat significand) exponent with
  | some magnitude => return .float (if negative then magnitude.negate else magnitude)
  | none => stopHere .numberOutOfRange

/-- Takes digits of an exponent while they write a number of thirty-one bits. -/
def takeExponentDigits : Nat → List Char → Nat × List Char
  | value, [] => (value, [])
  | value, character :: rest =>
      if isDigit character && value * 10 + digitValue character < 0x80000000 then
        takeExponentDigits (value * 10 + digitValue character) rest
      else (value, character :: rest)

/-- Takes an exponent, whose mark is next. -/
def takeExponent (negative : Bool) (significand : Nat) (start : Int) : Reader Number := do
  advance
  let sign ← peek
  if sign == some '+' || sign == some '-' then advance
  match ← peek with
  | none => stopHere .endInValue
  | some first =>
      if !isDigit first then stopAtNext .invalidNumber
      else do
        let (value, after) := takeExponentDigits 0 (← get)
        set after
        if (after.head?.map isDigit).getD false then
          if significand != 0 && sign != some '-' then stopAtNext .numberOutOfRange
          else do
            modify fun rest => rest.dropWhile isDigit
            return .float (Binary64.zero negative)
        else
          makeFloat negative significand (if sign == some '-' then start - value else start + value)

/-- Ends a floating-point number, with an exponent if one is next. -/
def endFloat (negative : Bool) (significand : Nat) (exponent : Int) : Reader Number := do
  let next ← peek
  if next == some 'e' || next == some 'E' then takeExponent negative significand exponent
  else makeFloat negative significand exponent

/-- Takes a fraction, whose point is next.  Digits that no longer fit are dropped. -/
def takeFraction (negative : Bool) (significand : Nat) (exponent : Int) : Reader Number := do
  advance
  let (value, count, after) := takeDigits significand (← get)
  set after
  let more := (after.head?.map isDigit).getD false
  if count == 0 && !more then
    if after.isEmpty then stopHere .endInValue else stopAtNext .invalidNumber
  else do
    modify fun rest => rest.dropWhile isDigit
    endFloat negative value (exponent - count)

/-- The number of an integer without fraction and exponent. -/
def ofInteger (negative : Bool) (value : Nat) : Number :=
  if !negative then .integer value
  else if value == 0 || 0x8000000000000000 < value then .float (Binary64.ofNat value).negate
  else .integer (-(value : Int))

/-- Takes what follows the integer digits of a number. -/
def endNumber (negative : Bool) (value : Nat) : Reader Number := do
  let (digits, after) := (← get).span isDigit
  set after
  let next ← peek
  if next == some '.' then takeFraction negative value digits.length
  else if next == some 'e' || next == some 'E' then takeExponent negative value digits.length
  else if digits.isEmpty then return ofInteger negative value
  else makeFloat negative value digits.length

/-- Takes a number after its sign. -/
def takeNumber (negative : Bool) : Reader Number := do
  match ← peek with
  | none => stopHere .endInValue
  | some first =>
      if !isDigit first then stopAtNext .invalidNumber
      else if first == '0' then do
        advance
        if ((← peek).map isDigit).getD false then stopAtNext .invalidNumber
        else endNumber negative 0
      else do
        let (value, _, after) := takeDigits 0 (← get)
        set after
        endNumber negative value

/-- Takes a number whose first character, a sign or a digit, is next. -/
def takeSignedNumber : Reader Number := do
  if (← peek) == some '-' then do
    advance
    takeNumber true
  else takeNumber false

end BankLedger.Json
