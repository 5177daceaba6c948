import BankLedger.Number.Layout
import BankLedger.Text.Octets

/-!
# JSON values and their text

A JSON value keeps the members of an object in the order in which they are written; `sortedObject`
makes an object whose members are ordered by name and unique.  A value has two texts: a compact one
without any blank, and an indented one with a member or an element on each line.
-/

namespace BankLedger

/-- A JSON value. -/
inductive Json
  | null
  | bool (value : Bool)
  | integer (value : Int)
  | float (value : Binary64)
  | string (text : String)
  | array (elements : List Json)
  | object (members : List (String × Json))

namespace Json

/-- The first two digits of the code point of a control character are always zero. -/
def escapeControl (character : Char) : List Char :=
  ['\\', 'u', '0', '0', Octets.hexDigit (character.toNat / 16),
    Octets.hexDigit (character.toNat % 16)]

/-- A character as it is written inside a string: quotes, backslashes and control characters are
escaped, and nothing else. -/
def escapeCharacter (character : Char) : List Char :=
  if character == '"' then ['\\', '"']
  else if character == '\\' then ['\\', '\\']
  else if character == '\x08' then ['\\', 'b']
  else if character == '\t' then ['\\', 't']
  else if character == '\n' then ['\\', 'n']
  else if character == '\x0c' then ['\\', 'f']
  else if character == '\r' then ['\\', 'r']
  else if character.toNat < 32 then escapeControl character
  else [character]

/-- A string in double quotes. -/
def quote (text : String) : List Char :=
  '"' :: text.toList.flatMap escapeCharacter ++ ['"']

/-- The text of a number, `null` if it has no digits. -/
def floatText (value : Binary64) : List Char :=
  if value.isNaN || value.isInfinite then "null".toList else value.jsonText.toList

/-- Parts with a separator between each two. -/
def joinWith (separator : List Char) : List (List Char) → List Char
  | [] => []
  | [part] => part
  | part :: rest => part ++ separator ++ joinWith separator rest

mutual

/-- The text of a value without any blank. -/
def compactCharacters : Json → List Char
  | .null => "null".toList
  | .bool value => (if value then "true" else "false").toList
  | .integer value => (toString value).toList
  | .float value => floatText value
  | .string text => quote text
  | .array elements => '[' :: joinWith [','] (compactElements elements) ++ [']']
  | .object members => '{' :: joinWith [','] (compactMembers members) ++ ['}']

/-- The compact texts of some elements. -/
def compactElements : List Json → List (List Char)
  | [] => []
  | element :: rest => compactCharacters element :: compactElements rest

/-- The compact texts of some members. -/
def compactMembers : List (String × Json) → List (List Char)
  | [] => []
  | (name, value) :: rest =>
      (quote name ++ ':' :: compactCharacters value) :: compactMembers rest

end

/-- A new line that is indented by two spaces for each level. -/
def newLine (level : Nat) : List Char :=
  '\n' :: List.replicate (2 * level) ' '

/-- The parts of an array or object at the given level, each on a line of its own. -/
def indentedBlock (level : Nat) (opening closing : Char) (parts : List (List Char)) : List Char :=
  if parts.isEmpty then [opening, closing]
  else opening :: newLine (level + 1) ++ joinWith (',' :: newLine (level + 1)) parts ++
    newLine level ++ [closing]

mutual

/-- The indented text of a value at the given level. -/
def indentedCharacters (level : Nat) : Json → List Char
  | .null => "null".toList
  | .bool value => (if value then "true" else "false").toList
  | .integer value => (toString value).toList
  | .float value => floatText value
  | .string text => quote text
  | .array elements => indentedBlock level '[' ']' (indentedElements (level + 1) elements)
  | .object members => indentedBlock level '{' '}' (indentedMembers (level + 1) members)

/-- The indented texts of some elements. -/
def indentedElements (level : Nat) : List Json → List (List Char)
  | [] => []
  | element :: rest => indentedCharacters level element :: indentedElements level rest

/-- The indented texts of some members. -/
def indentedMembers (level : Nat) : List (String × Json) → List (List Char)
  | [] => []
  | (name, value) :: rest =>
      (quote name ++ ':' :: ' ' :: indentedCharacters level value) :: indentedMembers level rest

end

/-- The text of a value without any blank. -/
def compact (value : Json) : String :=
  String.ofList value.compactCharacters

/-- The text of a value with a member or an element on each line. -/
def indented (value : Json) : String :=
  String.ofList (value.indentedCharacters 0)

/-- Puts a member into members ordered by name, in the place of one of the same name. -/
def insertMember (name : String) (value : Json) : List (String × Json) → List (String × Json)
  | [] => [(name, value)]
  | (other, held) :: rest =>
      if name < other then (name, value) :: (other, held) :: rest
      else if name == other then (name, value) :: rest
      else (other, held) :: insertMember name value rest

/-- An object with its members ordered by name; of several of one name, the last is kept. -/
def sortedObject (members : List (String × Json)) : Json :=
  .object (members.foldl (fun sorted member => insertMember member.1 member.2 sorted) [])

end Json

end BankLedger
