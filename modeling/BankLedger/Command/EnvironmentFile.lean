import BankLedger.Settings.Environment
import BankLedger.Text.Blank

/-!
# Environment files

A file of lines `NAME=value` adds to the environment of a program.  A value may stand in quotes,
which may span lines, or refer to another variable after a dollar sign; a comment runs from a number
sign to the end of its line.  Variables that have a text keep it, and a line that cannot be
understood ends the reading.
-/

namespace BankLedger.Command.EnvironmentFile

open BankLedger.Settings BankLedger.Text

/-! ## Lines -/

/-- What the next character of a line means. -/
inductive LineState
  | plain
  | blank
  | escape
  | double
  | doubleEscape
  | single
  | singleEscape
deriving DecidableEq

/-- The state after a character outside quotes. -/
def LineState.opened (character : Char) : LineState :=
  if character = '\\' then .escape
  else if character = '"' then .double
  else if character = '\'' then .single
  else .plain

/-- The state after a character. -/
def LineState.next (state : LineState) (character : Char) : LineState :=
  match state with
  | .blank => .opened character
  | .plain =>
      if isBlank character && character != '\n' && character != '\r' then .blank
      else .opened character
  | .escape => .plain
  | .double =>
      if character = '\\' then .doubleEscape else if character = '"' then .plain else .double
  | .doubleEscape => .double
  | .single =>
      if character = '\\' then .singleEscape else if character = '\'' then .plain else .single
  | .singleEscape => .single

/-- The state after a line and the line without its comment, which comes after a blank. -/
def endOfLine (state : LineState) : List Char → Option LineState × List Char
  | [] => (some state, [])
  | character :: rest =>
      if state = .blank && character = '#' then (none, [])
      else
        let (last, kept) := endOfLine (state.next character) rest
        (last, character :: kept)

/-- The lines of a text, each with its line break. -/
def physicalLines : List Char → List (List Char)
  | [] => []
  | character :: rest =>
      if character = '\n' then [character] :: physicalLines rest
      else
        match physicalLines rest with
        | [] => [[character]]
        | line :: lines => (character :: line) :: lines

/-- The lines of a text, those within quotes joined.  An unfinished line at the end is missing. -/
def joinLines (held : List Char) (state : LineState) : List (List Char) → List (List Char)
  | [] => []
  | line :: lines =>
      if (trimStart (held ++ line)).head? = some '#' then joinLines [] .plain lines
      else
        let (last, kept) := endOfLine state line
        match last with
        | none | some .plain => (held ++ kept) :: joinLines [] .plain lines
        | some open_ => joinLines (held ++ kept) open_ lines

/-! ## Values -/

/-- What the next character of a value means. -/
inductive ValueState
  | plain
  | escape (inQuotes : Bool)
  | double
  | single
  | name (inQuotes : Bool) (read : List Char)
  | bracedName (inQuotes : Bool) (read : List Char)
  | ended
deriving DecidableEq

/-- The character that an escaped one stands for. -/
def unescape? : Char → Option Char
  | '\\' => some '\\'
  | '\'' => some '\''
  | '"' => some '"'
  | '$' => some '$'
  | 'n' => some '\n'
  | _ => none

/-- The state inside or outside double quotes. -/
def ValueState.resumed (inQuotes : Bool) : ValueState :=
  if inQuotes then .double else .plain

/-- The text that a name refers to, empty if there is none. -/
def referredText (environment : Environment) (name : List Char) : List Char :=
  match environment (String.ofList name) with
  | .text value => value.toList
  | _ => []

/-- What a character of a value adds to its text, and the state after it; none if it may not stand
there. -/
def valueStep (environment : Environment) (state : ValueState) (character : Char) :
    Option (List Char × ValueState) :=
  match state with
  | .ended => if character = ' ' || character = '\t' then some ([], .ended) else none
  | .escape inQuotes =>
      (unescape? character).map fun meant => ([meant], .resumed inQuotes)
  | .single => if character = '\'' then some ([], .plain) else some ([character], .single)
  | .name inQuotes read =>
      if character.isAlphanum then some ([], .name inQuotes (read ++ [character]))
      else if character = '\x7b' && read.isEmpty then some ([], .bracedName inQuotes [])
      else
        let text := referredText environment read
        if character = '$' then some (text, .name inQuotes [])
        else some (text ++ [character], .resumed inQuotes)
  | .bracedName inQuotes read =>
      if character = '\x7d' then some (referredText environment read, .resumed inQuotes)
      else some ([], .bracedName inQuotes (read ++ [character]))
  | .double =>
      if character = '$' then some ([], .name true [])
      else if character = '"' then some ([], .plain)
      else if character = '\\' then some ([], .escape true)
      else some ([character], .double)
  | .plain =>
      if character = '$' then some ([], .name false [])
      else if character = '\'' then some ([], .single)
      else if character = '"' then some ([], .double)
      else if character = '\\' then some ([], .escape false)
      else if character = ' ' || character = '\t' then some ([], .ended)
      else some ([character], .plain)

/-- The text that a value ends with, none if it may not end there. -/
def valueEnd (environment : Environment) : ValueState → Option (List Char)
  | .plain | .ended | .escape false => some []
  | .name false read => some (referredText environment read)
  | _ => none

/-- The text of a value. -/
def readValue (environment : Environment) (state : ValueState) : List Char → Option (List Char)
  | [] => valueEnd environment state
  | character :: rest =>
      if state = .ended && character = '#' then some []
      else do
        let (added, state) ← valueStep environment state character
        let others ← readValue environment state rest
        return added ++ others

/-! ## Assignments -/

/-- A character that a name may start with. -/
def startsName (character : Char) : Bool :=
  character.isAlpha || character = '_'

/-- A character of a name. -/
def continuesName (character : Char) : Bool :=
  character.isAlphanum || character = '_' || character = '.'

/-- The name at the start of a text, and the text after it and the blanks that follow. -/
def readName (text : List Char) : Option (List Char × List Char) :=
  if text.head?.any startsName then
    some (text.takeWhile continuesName, trimStart (text.dropWhile continuesName))
  else none

/-- The name that is assigned to at the start of a line, and the text after the equals sign.  The
word `export` may stand before it. -/
def readTarget (line : List Char) : Option (List Char × List Char) := do
  match ← readName line with
  | (name, '=' :: value) => return (name, trimStart value)
  | (name, rest) =>
      guard (name = "export".toList)
      match ← readName rest with
      | (name, '=' :: value) => return (name, trimStart value)
      | _ => none

/-- What a line says. -/
inductive Line
  | empty
  | assignment (name value : String)
  | faulty
deriving DecidableEq

/-- What an assignment says. -/
def readAssignment (environment : Environment) (line : List Char) : Line :=
  match readTarget line with
  | none => .faulty
  | some (name, value) =>
      if value.isEmpty || value.head? = some '#' then .assignment (String.ofList name) ""
      else
        match readValue environment .plain value with
        | some text => .assignment (String.ofList name) (String.ofList text)
        | none => .faulty

/-- What a line says. -/
def readLine (environment : Environment) (line : List Char) : Line :=
  let content := trim line
  if content.isEmpty || content.head? = some '#' then .empty
  else readAssignment environment content

/-- The environment with the assignments of some lines. -/
def defineAll (environment : Environment) : List (List Char) → Environment
  | [] => environment
  | line :: lines =>
      match readLine environment line with
      | .empty => defineAll environment lines
      | .assignment name value => defineAll (environment.define name value) lines
      | .faulty => environment

/-- The environment with the assignments of a file. -/
def load (environment : Environment) (content : Octets) : Environment :=
  match content.toText? with
  | some text =>
      let characters := text.toList
      let body := if characters.head? = some '\uFEFF' then characters.tail else characters
      defineAll environment (joinLines [] .plain (physicalLines body))
  | none => environment

end BankLedger.Command.EnvironmentFile
