import BankLedger.Digest.Hmac
import BankLedger.Text.Base64
import BankLedger.Text.Digits

/-!
# SCRAM

In this exchange a client proves that it knows a password without sending it, and the server proves
that it knows what was derived from the password.  The client sends a nonce; the server adds to it
and names a salt and a number of rounds; the client sends a proof; and the server answers with its
signature, which the client checks.
-/

namespace BankLedger.Postgres.Scram

open BankLedger.Digest BankLedger.Text

/-- The mechanism that a client uses. -/
def mechanism : String := "SCRAM-SHA-256"

/-- The greatest number of rounds that a client agrees to. -/
def mostRounds : Nat := 100000

/-- Why an exchange fails.  Offsets count octets from 0. -/
inductive Failure
  | outOfOrder
  | foreignNonce
  | tooManyRounds
  | endOfMessage
  | unexpected (offset : Nat) (wanted found : Char)
  | trailing (offset : Nat)
  | illFormedText (fault : Octets.TextFault)
  | rounds (cause : DigitsError)
  | base64 (cause : Base64.Failure)
  | refused (reason : String)
  | wrongSignature
deriving DecidableEq

/-- The wording of a failure. -/
def Failure.message : Failure → String
  | .outOfOrder => "invalid SCRAM state"
  | .foreignNonce => "invalid nonce"
  | .tooManyRounds => "SCRAM iteration count exceeds the maximum allowed"
  | .endOfMessage => "unexpected EOF"
  | .unexpected offset wanted found =>
      s!"unexpected character at byte {offset}: expected \x60{wanted}\x60 but got \x60{found}"
  | .trailing offset => s!"unexpected trailing data at byte {offset}"
  | .illFormedText fault => fault.message
  | .rounds cause => cause.message
  | .base64 cause => cause.message
  | .refused reason => s!"SCRAM error: {reason}"
  | .wrongSignature => "SCRAM verification error"

/-! ## Messages of the server -/

/-- A place in a message: the octets before it and the characters after it. -/
structure Cursor where
  offset : Nat
  rest : List Char

/-- Reads a message of the server. -/
abbrev Reader := StateT Cursor (Except Failure)

/-- Takes one given character. -/
def expect (wanted : Char) : Reader Unit := fun cursor =>
  match cursor.rest with
  | [] => .error .endOfMessage
  | found :: rest =>
      if found = wanted then .ok ((), ⟨cursor.offset + found.utf8Size, rest⟩)
      else .error (.unexpected cursor.offset wanted found)

/-- Takes the characters of a class that come next. -/
def takeWhile (isMember : Char → Bool) : Reader (List Char) := fun cursor =>
  let taken := cursor.rest.takeWhile isMember
  let size := taken.foldl (fun sum character => sum + character.utf8Size) 0
  .ok (taken, ⟨cursor.offset + size, cursor.rest.dropWhile isMember⟩)

/-- Requires that the message ends. -/
def finished : Reader Unit := fun cursor =>
  if cursor.rest.isEmpty then .ok ((), cursor) else .error (.trailing cursor.offset)

/-- Takes an attribute with a value from a class of characters. -/
def namedValue (name : Char) (isMember : Char → Bool) : Reader (List Char) := do
  expect name
  expect '='
  takeWhile isMember

/-- A character of a nonce. -/
def isNonceCharacter (character : Char) : Bool :=
  '!' ≤ character && character ≤ '~' && character != ','

/-- A character of a value in base64. -/
def isBase64Character (character : Char) : Bool :=
  (Base64.value? character).isSome || character == '='

/-- A character of the reason of a refusal. -/
def isReasonCharacter (character : Char) : Bool :=
  character != '\x00' && character != '=' && character != ','

/-- The first message of a server. -/
structure ServerFirst where
  nonce : List Char
  salt : List Char
  rounds : Nat

/-- Reads the first message of a server. -/
def readFirst : Reader ServerFirst := do
  let nonce ← namedValue 'r' isNonceCharacter
  expect ','
  let salt ← namedValue 's' isBase64Character
  expect ','
  let digits ← namedValue 'i' isDigit
  match readNatural (UInt32.size - 1) digits with
  | .error cause => throw (.rounds cause)
  | .ok rounds =>
      finished
      return ⟨nonce, salt, rounds⟩

/-- The last message of a server: its signature, or why it refuses. -/
inductive ServerFinal
  | signature (base64 : List Char)
  | refusal (reason : List Char)

/-- Reads the last message of a server. -/
def readFinal : Reader ServerFinal := do
  let final ← match (← get).rest.head? with
    | some 'e' => ServerFinal.refusal <$> namedValue 'e' isReasonCharacter
    | _ => ServerFinal.signature <$> namedValue 'v' isBase64Character
  finished
  return final

/-- Reads a message of the server as a whole. -/
def readMessage {Message : Type} (reader : Reader Message) (data : Octets) :
    Except Failure (String × Message) :=
  match data.readText with
  | .error fault => .error (.illFormedText fault)
  | .ok text => (reader.run' ⟨0, text.toList⟩).map fun message => (text, message)

/-! ## Keys -/

/-- The keys that are derived from a password, a salt and a number of rounds. -/
structure Keys where
  client : Octets
  stored : Octets
  server : Octets

/-- Derives the keys. -/
def Keys.derive (password salt : Octets) (rounds : Nat) : Keys :=
  let salted := stretch password salt rounds
  let client := hmac salted (Octets.ofText "Client Key")
  ⟨client, Sha256.digest client, hmac salted (Octets.ofText "Server Key")⟩

/-- The proof of the client for the messages of an exchange. -/
def Keys.proof (keys : Keys) (exchanged : String) : Octets :=
  List.zipWith (· ^^^ ·) keys.client (hmac keys.stored (Octets.ofText exchanged))

/-- The signature of the server for the messages of an exchange. -/
def Keys.signature (keys : Keys) (exchanged : String) : Octets :=
  hmac keys.server (Octets.ofText exchanged)

/-! ## The client -/

/-- The start of the first message of the client, which tells that the channel is not bound. -/
def channelHeader : String := "n,,"

/-- The first message of the client without its header. -/
def clientFirstBare (nonce : String) : String :=
  s!"n=,r={nonce}"

/-- The last message of the client without its proof. -/
def clientFinalBare (nonce : String) : String :=
  let header := String.ofList (Base64.encode (Octets.ofText channelHeader))
  s!"c={header},r={nonce}"

/-- The messages that proof and signature are made for. -/
def exchanged (clientNonce serverFirst nonce : String) : String :=
  s!"{clientFirstBare clientNonce},{serverFirst},{clientFinalBare nonce}"

/-- Where an exchange stands.  Each is started with a nonce of its own. -/
inductive Exchange
  | started (nonce : String)
  | proved (keys : Keys) (exchanged : String)
  | over

/-- The first message of the client. -/
def clientFirst (nonce : String) : Octets :=
  Octets.ofText (channelHeader ++ clientFirstBare nonce)

/-- The last message of the client, after the first one of the server. -/
def prove (password data : Octets) : Exchange → Except Failure (Octets × Exchange)
  | .started clientNonce => do
      let (text, first) ← readMessage readFirst data
      let nonce := String.ofList first.nonce
      if !clientNonce.toList.isPrefixOf first.nonce then .error .foreignNonce
      else if mostRounds < first.rounds then .error .tooManyRounds
      else
        let salt ← (Base64.decode first.salt).mapError .base64
        let keys := Keys.derive password salt first.rounds
        let messages := exchanged clientNonce text nonce
        let proof := String.ofList (Base64.encode (keys.proof messages))
        let bare := clientFinalBare nonce
        return (Octets.ofText s!"{bare},p={proof}", .proved keys messages)
  | .proved .. | .over => .error .outOfOrder

/-- Checks the last message of the server. -/
def verify (data : Octets) : Exchange → Except Failure Exchange
  | .proved keys messages => do
      let (_, final) ← readMessage readFinal data
      match final with
      | .refusal reason => .error (.refused (String.ofList reason))
      | .signature text =>
          let signature ← (Base64.decode text).mapError .base64
          if signature = keys.signature messages then .ok .over else .error .wrongSignature
  | .started _ | .over => .error .outOfOrder

end BankLedger.Postgres.Scram
