/-!
# Kinds of values

A kind is the type tag of a value.  Five of the scalar kinds have an array kind; null and invalid
stand apart, and are neither scalars of a column nor arrays.
-/

namespace BankLedger.Sql

/-- The kind of a value. -/
inductive Kind
  | null
  | int
  | bool
  | float
  | string
  | blob
  | intArray
  | boolArray
  | floatArray
  | stringArray
  | blobArray
  | invalid
deriving DecidableEq

namespace Kind

/-- The kinds in their order of declaration. -/
def all : List Kind :=
  [.null, .int, .bool, .float, .string, .blob, .intArray, .boolArray, .floatArray, .stringArray,
    .blobArray, .invalid]

/-- The name of a kind. -/
def name : Kind → String
  | .null => "null"
  | .int => "int"
  | .bool => "bool"
  | .float => "float"
  | .string => "string"
  | .blob => "blob"
  | .intArray => "int[]"
  | .boolArray => "bool[]"
  | .floatArray => "float[]"
  | .stringArray => "string[]"
  | .blobArray => "blob[]"
  | .invalid => "invalid"

/-- The kind of a given name. -/
def ofName? (name : String) : Option Kind :=
  all.find? fun kind => kind.name == name

/-- The array kind that holds elements of this kind. -/
def array? : Kind → Option Kind
  | .int => some .intArray
  | .bool => some .boolArray
  | .float => some .floatArray
  | .string => some .stringArray
  | .blob => some .blobArray
  | _ => none

/-- The kind of the elements of an array kind; any other kind is its own element kind. -/
def element : Kind → Kind
  | .intArray => .int
  | .boolArray => .bool
  | .floatArray => .float
  | .stringArray => .string
  | .blobArray => .blob
  | kind => kind

/-- Whether values of this kind have elements. -/
def isArray (kind : Kind) : Bool :=
  kind.element != kind

end Kind

end BankLedger.Sql
