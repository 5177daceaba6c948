import BankLedger.Json.Skip

/-!
# Reading JSON by type

Readers for scalars of a known type, for optional values, for named variants, for values of any type
and for whole texts.  Arrays and objects may be nested to a limited depth; `depth` is the number of
levels that are left, counting the one that would be refused.
-/

namespace BankLedger.Json

open BankLedger.Text

/-- The levels of nesting of a whole text, counting the one that is refused. -/
def fullDepth : Nat := 128

/-- The word for a truth value. -/
def boolWord (value : Bool) : String :=
  marked (if value then "true" else "false")

/-- The description of a number in a fault. -/
def Number.description : Number → String
  | .integer value => "integer " ++ marked (toString value)
  | .float value => "floating point " ++ marked value.jsonText

/-- Takes the next value as far as a fault describes it, and stops since its type is wrong. -/
def stopWrongType {α : Type} (expected : String) : Reader α := do
  match ← peek with
  | some 'n' => do
      advance
      takeWord "ull".toList
      stopHere (.wrongType "null" expected)
  | some 't' => do
      advance
      takeWord "rue".toList
      stopHere (.wrongType ("boolean " ++ boolWord true) expected)
  | some 'f' => do
      advance
      takeWord "alse".toList
      stopHere (.wrongType ("boolean " ++ boolWord false) expected)
  | some '"' => do
      advance
      let text ← stringBody
      stopHere (.wrongType ("string " ++ quoted text) expected)
  | some '[' => stopHere (.wrongType "sequence" expected)
  | some '\x7b' => stopHere (.wrongType "map" expected)
  | some first =>
      if first == '-' || isDigit first then do
        let number ← takeSignedNumber
        stopHere (.wrongType number.description expected)
      else stopAtNext .expectedValue
  | none => stopHere .expectedValue

/-- Whether a number starts with a character. -/
def startsNumber (first : Char) : Bool :=
  first == '-' || isDigit first

/-- Reads an integer between two bounds; a fault names its type. -/
def readInteger (type : String) (least greatest : Int) : Reader Int := do
  match ← peekToken with
  | none => stopHere .endInValue
  | some first =>
      if startsNumber first then do
        let number ← takeSignedNumber
        match number with
        | .integer value =>
            if least ≤ value && value ≤ greatest then return value
            else stopHere (.wrongValue number.description type)
        | .float _ => stopHere (.wrongType number.description type)
      else stopWrongType type

/-- Reads a signed integer of sixty-four bits. -/
def readInt64 : Reader Int64 := do
  return Int64.ofInt (← readInteger "i64" (-0x8000000000000000) 0x7fffffffffffffff)

/-- Reads an integer from zero up to a bound; a fault names its type. -/
def readNatural (type : String) (greatest : Nat) : Reader Nat := do
  return (← readInteger type 0 greatest).toNat

/-- Reads a string; a fault says what the string stands for. -/
def readStringAs (expected : String) : Reader String := do
  match ← peekToken with
  | none => stopHere .endInValue
  | some '"' => do
      advance
      stringBody
  | some _ => stopWrongType expected

/-- Reads a string. -/
def readString : Reader String :=
  readStringAs "a string"

/-- Reads a value that may be null. -/
def readOptional {α : Type} (read : Reader α) : Reader (Option α) := do
  match ← peekToken with
  | some 'n' => do
      advance
      takeWord "ull".toList
      return none
  | _ => return some (← read)

/-- Reads a null. -/
def readUnit : Reader Unit := do
  match ← peekToken with
  | none => stopHere .endInValue
  | some 'n' => do
      advance
      takeWord "ull".toList
  | some _ => stopWrongType "unit"

/-! ## Arrays and objects -/

/-- Goes to the next element of an array, if there is one. -/
def nextElement (first : Bool) : Reader Bool := do
  match ← peekToken with
  | none => stopHere .endInArray
  | some ']' => return false
  | some next =>
      if first then return true
      else if next == ',' then do
        advance
        match ← peekToken with
        | none => stopHere .endInValue
        | some ']' => stopAtNext .trailingComma
        | some _ => return true
      else stopAtNext .expectedArrayEnd

/-- Goes to the quote in front of the next member's name, if there is a member. -/
def nextMember (first : Bool) : Reader Bool := do
  match ← peekToken with
  | none => stopHere .endInObject
  | some '\x7d' => return false
  | some next =>
      if first then
        if next == '"' then return true else stopAtNext .keyNotString
      else if next == ',' then do
        advance
        match ← peekToken with
        | none => stopHere .endInValue
        | some '"' => return true
        | some '\x7d' => stopAtNext .trailingComma
        | some _ => stopAtNext .keyNotString
      else stopAtNext .expectedObjectEnd

/-- Takes the colon after the name of a member. -/
def takeColon : Reader Unit := do
  match ← peekToken with
  | none => stopHere .endInObject
  | some ':' => advance
  | some _ => stopAtNext .expectedColon

/-- Takes the name of a member, whose quote is next. -/
def takeName : Reader String := do
  advance
  stringBody

/-- Takes the end of an array. -/
def endArray : Reader Unit := do
  match ← peekToken with
  | none => stopHere .endInArray
  | some ']' => advance
  | some ',' => do
      advance
      match ← peekToken with
      | some ']' => stopAtNext .trailingComma
      | _ => stopAtNext .trailingCharacters
  | some _ => stopAtNext .trailingCharacters

/-- Takes the end of an object. -/
def endObject : Reader Unit := do
  match ← peekToken with
  | none => stopHere .endInObject
  | some '\x7d' => advance
  | some ',' => stopAtNext .trailingComma
  | some _ => stopAtNext .trailingCharacters

/-- Reads the elements of an array, at most `steps` of them. -/
def readElements {α : Type} (read : Reader α) : Nat → Bool → Reader (List α)
  | 0, _ => return []
  | steps + 1, first => do
      if ← nextElement first then do
        let element ← read
        return element :: (← readElements read steps false)
      else return []

/-- Reads the members of an object, at most `steps` of them. -/
def readMembers {α : Type} (read : Reader α) : Nat → Bool → Reader (List (String × α))
  | 0, _ => return []
  | steps + 1, first => do
      if ← nextMember first then do
        let name ← takeName
        takeColon
        let value ← read
        return (name, value) :: (← readMembers read steps false)
      else return []

/-- A number as a value. -/
def Number.toJson : Number → Json
  | .integer value => .integer value
  | .float value => .float value

/-- Reads a value that is neither an array nor an object. -/
def readScalar (first : Char) : Reader Json :=
  if first == 'n' then do
    advance
    takeWord "ull".toList
    return .null
  else if first == 't' then do
    advance
    takeWord "rue".toList
    return .bool true
  else if first == 'f' then do
    advance
    takeWord "alse".toList
    return .bool false
  else if first == '"' then do
    advance
    return .string (← stringBody)
  else if startsNumber first then do
    return (← takeSignedNumber).toJson
  else stopAtNext .expectedValue

/-- Reads a value of any type. -/
def readValue : Nat → Reader Json
  | 0 => stopAtNext .nestedTooDeep
  | depth + 1 => do
      match ← peekToken with
      | none => stopHere .endInValue
      | some '[' =>
          if depth = 0 then stopAtNext .nestedTooDeep
          else do
            advance
            let elements ← readElements (readValue depth) ((← get).length + 1) true
            endArray
            return .array elements
      | some '\x7b' =>
          if depth = 0 then stopAtNext .nestedTooDeep
          else do
            advance
            let members ← readMembers (readValue depth) ((← get).length + 1) true
            endObject
            return .object members
      | some first => readScalar first

/-! ## Variants -/

/-- Reads the name of a variant. -/
def readVariantName {α : Type} (variants : List (String × α)) : Reader α := do
  let name ← readStringAs "variant identifier"
  match variants.lookup name with
  | some value => return value
  | none => stopHere (.unknownVariant name (variants.map Prod.fst))

/-- Reads a variant: its name, or an object with the name and a null. -/
def readVariant {α : Type} (variants : List (String × α)) (depth : Nat) : Reader α := do
  match ← peekToken with
  | none => stopHere .endInValue
  | some '"' => readVariantName variants
  | some '\x7b' =>
      if depth ≤ 1 then stopAtNext .nestedTooDeep
      else do
        advance
        let value ← readVariantName variants
        takeColon
        readUnit
        match ← peekToken with
        | some '\x7d' => do
            advance
            return value
        | some _ => stopHere .expectedValue
        | none => stopHere .endInObject
  | some _ => stopAtNext .expectedValue

/-! ## Whole texts -/

/-- Reads a whole text; after the value only blanks may follow. -/
def readWhole {α : Type} (read : Reader α) (text : List Char) : Except Fault α := do
  let whole : Reader α := do
    let value ← read
    match ← peekToken with
    | none => return value
    | some _ => stopAtNext .trailingCharacters
  return (← whole text).1

end BankLedger.Json
