import BankLedger.Json.Scan

/-!
# Skipping JSON values

A value that nobody asked for is skipped, nested to any depth: the open arrays and objects are kept
in a list.  Skipping is laxer than reading in two ways, since the value itself is not made: a number
may be out of range, and the halves of a surrogate pair may stand alone.
-/

namespace BankLedger.Json

open BankLedger.Text

/-- An array or object that is still open. -/
inductive Bracket
  | array
  | object
deriving DecidableEq

/-- The character that closes a bracket. -/
def Bracket.closing : Bracket → Char
  | .array => ']'
  | .object => '\x7d'

/-- The fault of a text that ends inside a bracket. -/
def Bracket.unclosed : Bracket → Reason
  | .array => .endInArray
  | .object => .endInObject

/-- The fault of a value that is followed by neither a comma nor the end of its bracket. -/
def Bracket.expectedEnd : Bracket → Reason
  | .array => .expectedArrayEnd
  | .object => .expectedObjectEnd

/-- Skips an escape after its backslash. -/
def skipEscape : Reader Unit := do
  match ← peek with
  | none => stopHere .endInString
  | some found =>
      if found == 'u' then do
        advance
        discard takeHex
      else if (shortEscape? found).isSome then advance
      else stopAtNext .invalidEscape

/-- Skips the characters of a string and its closing quote, at most `steps` characters. -/
def skipString : Nat → Reader Unit
  | 0 => stopHere .endInString
  | steps + 1 => do
      match ← peek with
      | none => stopHere .endInString
      | some found =>
          if found == '"' then advance
          else if found == '\\' then do
            advance
            skipEscape
            skipString steps
          else if found.toNat < 32 then stopHere .controlCharacter
          else do
            advance
            skipString steps

/-- Skips the rest of a string whose opening quote has been taken. -/
def skipStringBody : Reader Unit := do
  skipString ((← get).length + 1)

/-- Skips the digits in front. -/
def skipDigits : Reader Unit :=
  modify fun rest => rest.dropWhile isDigit

/-- Skips an exponent, whose mark is next. -/
def skipExponent : Reader Unit := do
  advance
  let sign ← peek
  if sign == some '+' || sign == some '-' then advance
  if ((← peek).map isDigit).getD false then skipDigits else stopAtNext .invalidNumber

/-- Skips an exponent if there is one. -/
def skipOptionalExponent : Reader Unit := do
  let next ← peek
  if next == some 'e' || next == some 'E' then skipExponent

/-- Skips a fraction, whose point is next. -/
def skipFraction : Reader Unit := do
  advance
  if ((← peek).map isDigit).getD false then do
    skipDigits
    skipOptionalExponent
  else stopAtNext .invalidNumber

/-- Skips a number after its sign. -/
def skipNumber : Reader Unit := do
  match ← peek with
  | none => stopHere .invalidNumber
  | some first =>
      if !isDigit first then stopAtNext .invalidNumber
      else do
        if first == '0' then do
          advance
          if ((← peek).map isDigit).getD false then stopAtNext .invalidNumber
        else skipDigits
        if (← peek) == some '.' then skipFraction else skipOptionalExponent

/-- Skips a value that is neither an array nor an object. -/
def skipScalar (first : Char) : Reader Unit :=
  if first == 'n' then do advance; takeWord "ull".toList
  else if first == 't' then do advance; takeWord "rue".toList
  else if first == 'f' then do advance; takeWord "alse".toList
  else if first == '"' then do advance; skipStringBody
  else if first == '-' then do advance; skipNumber
  else if isDigit first then skipNumber
  else stopAtNext .expectedValue

/-- Skips the name of a member and its colon. -/
def skipName : Reader Unit := do
  match ← peekToken with
  | some '"' => do advance; skipStringBody
  | _ => if (← get).isEmpty then stopHere .endInObject else stopAtNext .keyNotString
  match ← peekToken with
  | some ':' => advance
  | _ => if (← get).isEmpty then stopHere .endInObject else stopAtNext .expectedColon

/-- What is to be skipped next: a value, the end of a bracket just opened, or what follows a value
inside a bracket. -/
inductive SkipState
  | value
  | opened (bracket : Bracket)
  | between (bracket : Bracket)

/-- Goes on after a value: at the innermost open bracket, or not at all. -/
def SkipState.afterValue : List Bracket → Option (SkipState × List Bracket)
  | [] => none
  | bracket :: outer => some (.between bracket, outer)

/-- Skips a part of a value.  Answers what is to be skipped next, with the brackets outside it, or
none at the end of the outermost value. -/
def skipPart (state : SkipState) (outer : List Bracket) :
    Reader (Option (SkipState × List Bracket)) := do
  match state, ← peekToken with
  | .value, none => stopHere .endInValue
  | .value, some '[' => do
      advance
      return some (.opened .array, outer)
  | .value, some '\x7b' => do
      advance
      return some (.opened .object, outer)
  | .value, some first => do
      skipScalar first
      return SkipState.afterValue outer
  | .opened bracket, none => stopHere bracket.unclosed
  | .opened bracket, some next =>
      if next == bracket.closing then do
        advance
        return SkipState.afterValue outer
      else do
        if bracket = .object then skipName
        return some (.value, bracket :: outer)
  | .between bracket, none => stopHere bracket.unclosed
  | .between bracket, some next =>
      if next == ',' then do
        advance
        if bracket = .object then skipName
        return some (.value, bracket :: outer)
      else if next == bracket.closing then do
        advance
        return SkipState.afterValue outer
      else stopAtNext bracket.expectedEnd

/-- Skips parts of a value, at most `steps` of them. -/
def skipParts : Nat → SkipState → List Bracket → Reader Unit
  | 0, _, _ => stopHere .endInValue
  | steps + 1, state, outer => do
      match ← skipPart state outer with
      | none => pure ()
      | some (next, brackets) => skipParts steps next brackets

/-- Skips a value. -/
def skipValue : Reader Unit := do
  skipParts (2 * (← get).length + 2) .value []

end BankLedger.Json
