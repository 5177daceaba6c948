import BankLedger.Sql.Value
import BankLedger.Text.Blank

/-!
# Parameters

A query parameter is sent as text, or as a null.  An array becomes a literal, in which a text is
quoted exactly if it would read back differently without quotes: if it is empty, spells `NULL`, or
holds a brace, a comma, a quote, a backslash or a blank.
-/

namespace BankLedger.Sql

open BankLedger.Text

/-- A parameter as it is sent: a text, or none for a null. -/
abbrev WireText := Option String

/-- Why a parameter cannot be sent.  Positions count from 1. -/
inductive ParameterError
  | unsupported (position : Nat) (kind : Kind)
  | invalid (position : Nat)
deriving DecidableEq

/-- The wording of a parameter error. -/
def ParameterError.message : ParameterError → String
  | .unsupported position kind =>
      s!"parameter ${position} has kind '{kind.name}', which cannot be sent to the database"
  | .invalid position =>
      s!"parameter ${position} is invalid and cannot be sent as a value or as null"

/-- A character that means something in an array literal. -/
def isArraySpecial (character : Char) : Bool :=
  character == '\x7b' || character == '\x7d' || character == ',' || character == '"' ||
    character == '\\' || isBlank character

/-- Whether a text would read back differently if it stood in an array literal without quotes. -/
def needsQuotes (element : List Char) : Bool :=
  element.isEmpty || element.map Char.toUpper == ['N', 'U', 'L', 'L'] ||
    element.any isArraySpecial

/-- A character inside quotes: quotes and backslashes are escaped. -/
def escapeQuoted (character : Char) : List Char :=
  if character == '"' || character == '\\' then ['\\', character] else [character]

/-- A text as an element of an array literal. -/
def quoteElement (element : List Char) : List Char :=
  if needsQuotes element then '"' :: element.flatMap escapeQuoted ++ ['"'] else element

/-- A text as an element of an array literal. -/
def elementText (element : String) : String :=
  String.ofList (quoteElement element.toList)

/-- The text of a value that can be sent, none for a null. -/
def wireText (position : Nat) : Value → Except ParameterError WireText
  | .null => .ok none
  | .int value => .ok (some (toString value.toInt))
  | .bool value => .ok (some (Value.boolText value))
  | .float value => .ok (some value.wireText)
  | .string text => .ok (some text)
  | .intArray elements =>
      .ok (some (Value.braced (elements.map fun value => toString value.toInt)))
  | .boolArray elements => .ok (some (Value.braced (elements.map Value.boolText)))
  | .floatArray elements => .ok (some (Value.braced (elements.map Binary64.wireText)))
  | .stringArray elements => .ok (some (Value.braced (elements.map elementText)))
  | .blob _ => .error (.unsupported position .blob)
  | .blobArray _ => .error (.unsupported position .blobArray)
  | .invalid => .error (.invalid position)

/-- The texts of values from a position on; the first that cannot be sent decides the failure. -/
def wireTextsFrom (position : Nat) : List Value → Except ParameterError (List WireText)
  | [] => .ok []
  | value :: rest => do
      let text ← wireText position value
      let texts ← wireTextsFrom (position + 1) rest
      return text :: texts

/-- The texts of the parameters of a query, in order. -/
def wireTexts (parameters : List Value) : Except ParameterError (List WireText) :=
  wireTextsFrom 1 parameters

end BankLedger.Sql
