import BankLedger.Json.Value
import BankLedger.Sql.Kind

/-!
# Values

A value is a query parameter or a decoded cell.  The payload always fits the kind.  An invalid value
carries nothing: it stands for a cell that could not be interpreted, and is never a null.
-/

namespace BankLedger.Sql

/-- A value with the payload that belongs to its kind. -/
inductive Value
  | null
  | int (value : Int64)
  | bool (value : Bool)
  | float (value : Binary64)
  | string (text : String)
  | blob (octets : Octets)
  | intArray (elements : List Int64)
  | boolArray (elements : List Bool)
  | floatArray (elements : List Binary64)
  | stringArray (elements : List String)
  | blobArray (elements : List Octets)
  | invalid
deriving DecidableEq

namespace Value

/-- The kind of a value. -/
def kind : Value → Kind
  | .null => .null
  | .int _ => .int
  | .bool _ => .bool
  | .float _ => .float
  | .string _ => .string
  | .blob _ => .blob
  | .intArray _ => .intArray
  | .boolArray _ => .boolArray
  | .floatArray _ => .floatArray
  | .stringArray _ => .stringArray
  | .blobArray _ => .blobArray
  | .invalid => .invalid

/-- The number of elements of an array, 0 for every other value. -/
def elementCount : Value → Nat
  | .intArray elements => elements.length
  | .boolArray elements => elements.length
  | .floatArray elements => elements.length
  | .stringArray elements => elements.length
  | .blobArray elements => elements.length
  | _ => 0

/-- Whether the value is null. -/
def isNull : Value → Bool
  | .null => true
  | _ => false

/-- Whether the value is invalid. -/
def isInvalid : Value → Bool
  | .invalid => true
  | _ => false

/-- The payload of an integer. -/
def int? : Value → Option Int64
  | .int value => some value
  | _ => none

/-- The payload of a truth value. -/
def bool? : Value → Option Bool
  | .bool value => some value
  | _ => none

/-- The payload of a floating-point number. -/
def float? : Value → Option Binary64
  | .float value => some value
  | _ => none

/-- The payload of a text. -/
def string? : Value → Option String
  | .string text => some text
  | _ => none

/-- The elements of an array of integers. -/
def intArray? : Value → Option (List Int64)
  | .intArray elements => some elements
  | _ => none

/-- The elements of an array of truth values. -/
def boolArray? : Value → Option (List Bool)
  | .boolArray elements => some elements
  | _ => none

/-- The elements of an array of floating-point numbers. -/
def floatArray? : Value → Option (List Binary64)
  | .floatArray elements => some elements
  | _ => none

/-- The elements of an array of texts. -/
def stringArray? : Value → Option (List String)
  | .stringArray elements => some elements
  | _ => none

/-- A value that may be missing; a missing one is null. -/
def ofOption {α : Type} (wrap : α → Value) : Option α → Value
  | some payload => wrap payload
  | none => .null

/-- Equality of the numbers and texts meant, so that NaN differs from itself. -/
def equals : Value → Value → Bool
  | .float left, .float right => left.equals right
  | .floatArray left, .floatArray right =>
      left.length == right.length && (left.zip right).all fun (one, other) => one.equals other
  | left, right => left == right

/-- Octets as a JSON array of numbers. -/
def octetsJson (octets : Octets) : Json :=
  .array (octets.map fun octet => .integer octet.toNat)

/-- The JSON form of a value; an invalid value has none. -/
def json? : Value → Option Json
  | .null => some .null
  | .int value => some (.integer value.toInt)
  | .bool value => some (.bool value)
  | .float value => some (.float value)
  | .string text => some (.string text)
  | .blob octets => some (octetsJson octets)
  | .intArray elements => some (.array (elements.map fun value => .integer value.toInt))
  | .boolArray elements => some (.array (elements.map .bool))
  | .floatArray elements => some (.array (elements.map .float))
  | .stringArray elements => some (.array (elements.map .string))
  | .blobArray elements => some (.array (elements.map octetsJson))
  | .invalid => none

/-- Texts in braces with a comma between each two. -/
def braced (elements : List String) : String :=
  "\x7b" ++ ",".intercalate elements ++ "\x7d"

/-- The word for a truth value. -/
def boolText (value : Bool) : String :=
  if value then "true" else "false"

/-- The text of a value in a table. -/
def text : Value → String
  | .null => "null"
  | .int value => toString value.toInt
  | .bool value => boolText value
  | .float value => value.plainText
  | .string text => text
  | .blob octets => s!"<blob: {octets.length} bytes>"
  | .intArray elements => braced (elements.map fun value => toString value.toInt)
  | .boolArray elements => braced (elements.map boolText)
  | .floatArray elements => braced (elements.map Binary64.plainText)
  | .stringArray elements => braced elements
  | .blobArray elements => s!"<blob[]: {elements.length} elements>"
  | .invalid => "<invalid>"

end Value

end BankLedger.Sql
