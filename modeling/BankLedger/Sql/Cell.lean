import BankLedger.Sql.ArrayLiteral
import BankLedger.Sql.Value

/-!
# Decoding cells

A cell arrives as text or as a null, and is decoded by the kind of its column.  A null is null
whatever the kind.  A text that cannot be read as the kind is invalid, and so is an array with a
null or with one element that cannot be read.
-/

namespace BankLedger.Sql

open BankLedger.Text

/-- Reads an integer between blanks. -/
def readInt? (text : String) : Option Int64 :=
  (readInt64 (trim text.toList)).toOption

/-- Reads a truth value between blanks, by its letter or its word in any letter case. -/
def readBool? (text : String) : Option Bool :=
  let word := String.ofList ((trim text.toList).map Char.toLower)
  if word == "t" || word == "true" then some true
  else if word == "f" || word == "false" then some false
  else none

/-- Reads a floating-point number between blanks. -/
def readFloat? (text : String) : Option Binary64 :=
  Binary64.ofText? (trim text.toList)

/-- The texts of the elements, none if one of them is null. -/
def elementTexts? (elements : List ArrayLiteral.Element) : Option (List String) :=
  elements.mapM fun element =>
    match element with
    | .text text => some text
    | .null => none

/-- Reads the elements of an array of the given kind. -/
def readElements? (kind : Kind) (texts : List String) : Option Value :=
  match kind with
  | .intArray => (texts.mapM readInt?).map .intArray
  | .boolArray => (texts.mapM readBool?).map .boolArray
  | .floatArray => (texts.mapM readFloat?).map .floatArray
  | .stringArray => some (.stringArray texts)
  | _ => none

/-- Reads a text as a value of the given kind. -/
def readText? (kind : Kind) (text : String) : Option Value :=
  match kind with
  | .int => (readInt? text).map .int
  | .bool => (readBool? text).map .bool
  | .float => (readFloat? text).map .float
  | .string => some (.string text)
  | _ =>
      if kind.isArray then do
        let elements ← (ArrayLiteral.split text).toOption
        let texts ← elementTexts? elements
        readElements? kind texts
      else none

/-- Decodes a cell of a column of the given kind. -/
def decodeCell (kind : Kind) (cell : Option Octets) : Value :=
  match cell with
  | none => .null
  | some octets => (octets.toText?.bind (readText? kind)).getD .invalid

end BankLedger.Sql
