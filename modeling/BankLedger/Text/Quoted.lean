import BankLedger.Text.Unprintable

/-!
# Quoted texts

A text that comes from outside is quoted where a message repeats it, so that every character of it
can be told from the message.  Quotes and backslashes are escaped, the common control characters
have short escapes, and characters without a visible form are shown by their codes.
-/

namespace BankLedger.Text

/-- The lowercase hexadecimal digits of a code. -/
def hexCode (code : Nat) : List Char :=
  Nat.toDigits 16 code

/-- A character as a quoted text shows it. -/
def quotedCharacter (character : Char) : List Char :=
  if character == '"' then ['\\', '"']
  else if character == '\\' then ['\\', '\\']
  else if character == '\n' then ['\\', 'n']
  else if character == '\r' then ['\\', 'r']
  else if character == '\t' then ['\\', 't']
  else if character == '\x00' then ['\\', '0']
  else if isUnprintable character then
    ['\\', 'u', '\x7b'] ++ hexCode character.toNat ++ ['\x7d']
  else [character]

/-- A text in double quotes. -/
def quoted (text : String) : String :=
  String.ofList ('"' :: text.toList.flatMap quotedCharacter ++ ['"'])

/-- Whether a text occurs in another. -/
def occursIn (part : List Char) : List Char → Bool
  | [] => part.isEmpty
  | character :: rest => part.isPrefixOf (character :: rest) || occursIn part rest

/-- Whether a text occurs in another. -/
def mentions (whole part : String) : Bool :=
  occursIn part.toList whole.toList

end BankLedger.Text
