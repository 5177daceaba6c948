import BankLedger.Database.ConnectionFailure
import BankLedger.Postgres.Frame
import BankLedger.Sql.Parameter

/-!
# Messages of the client

What a session sends.  A query is a sequence of five messages: the statement is parsed, its
parameters are bound, the result is described, the statement is executed without a limit of rows,
and the server is asked to answer.  Statement and portal have no names, and all formats are text.
-/

namespace BankLedger.Postgres

open BankLedger.Database BankLedger.Sql

/-- A message of the client. -/
inductive ClientMessage
  | startup (settings : List (String × String))
  | password (secret : Octets)
  | saslStart (mechanism : String) (data : Octets)
  | saslReply (data : Octets)
  | parse (query : String)
  | bind (parameters : List WireText)
  | describe
  | execute
  | sync
  | copyFail (reason : String)
  | terminate
deriving DecidableEq

namespace ClientMessage

/-- The largest number that a length may be. -/
def longest : Nat := 0x7fffffff

/-- A text with the zero octet that ends it; a text that holds one cannot be sent. -/
def terminated (text : Octets) : Except ConnectionFailure Octets :=
  if text.contains 0 then .error (.transport "string contains embedded null")
  else .ok (text ++ [0])

/-- A parameter with its length, which is -1 for a null. -/
def parameter : WireText → Except ConnectionFailure Octets
  | none => .ok (Octets.ofNat32 0xffffffff)
  | some text =>
      let octets := Octets.ofText text
      if longest < octets.length then .error (.protocol "value too large to transmit")
      else .ok (Octets.ofNat32 octets.length ++ octets)

/-- Some parameters with their number. -/
def counted (parameters : List WireText) : Except ConnectionFailure Octets := do
  let texts ← parameters.mapM parameter
  if 65535 < parameters.length then .error (.protocol "value too large to transmit")
  else .ok (Octets.ofNat16 parameters.length ++ texts.flatten)

/-- The names and values of some settings. -/
def settingTexts : List (String × String) → Except ConnectionFailure Octets
  | [] => .ok [0]
  | (name, value) :: others => do
      let nameText ← terminated (Octets.ofText name)
      let valueText ← terminated (Octets.ofText value)
      let rest ← settingTexts others
      return nameText ++ valueText ++ rest

/-- The tag of a message; the first message of a session has none. -/
def tag? : ClientMessage → Option Char
  | .startup _ => none
  | .password _ | .saslStart .. | .saslReply _ => some 'p'
  | .parse _ => some 'P'
  | .bind _ => some 'B'
  | .describe => some 'D'
  | .execute => some 'E'
  | .sync => some 'S'
  | .copyFail _ => some 'f'
  | .terminate => some 'X'

/-- The body of a message. -/
def body : ClientMessage → Except ConnectionFailure Octets
  | .startup settings => do return Octets.ofNat32 0x00030000 ++ (← settingTexts settings)
  | .password secret => terminated secret
  | .saslStart mechanism data => do
      let name ← terminated (Octets.ofText mechanism)
      return name ++ Octets.ofNat32 data.length ++ data
  | .saslReply data => .ok data
  | .parse query => do
      let text ← terminated (Octets.ofText query)
      return 0 :: text ++ Octets.ofNat16 0
  | .bind parameters => do
      return 0 :: 0 :: Octets.ofNat16 0 ++ (← counted parameters) ++ Octets.ofNat16 0
  | .describe => .ok (Octets.ofText "P" ++ [0])
  | .execute => .ok (0 :: Octets.ofNat32 0)
  | .sync => .ok []
  | .copyFail reason => terminated (Octets.ofText reason)
  | .terminate => .ok []

/-- A message as it is sent. -/
def encode (message : ClientMessage) : Except ConnectionFailure Octets := do
  let body ← message.body
  if longest < body.length + 4 then .error (.transport "value too large to transmit")
  else .ok ((message.tag?.map fun tag => UInt8.ofNat tag.toNat).toList ++ Frame.sized body)

/-- Some messages as they are sent, one after the other. -/
def encodeAll : List ClientMessage → Except ConnectionFailure Octets
  | [] => .ok []
  | message :: others => do
      let octets ← message.encode
      let rest ← encodeAll others
      return octets ++ rest

/-- The messages of a query. -/
def ofQuery (query : String) (parameters : List WireText) : List ClientMessage :=
  [.parse query, .bind parameters, .describe, .execute, .sync]

end ClientMessage

end BankLedger.Postgres
