import BankLedger.Postgres.Session

/-!
# Scripted servers

A server that follows a script: each time a client receives, it gets the next piece of the script,
and after the last one nothing.  Only an exchange that proves a password depends on what the client
sent; there the script has templates, in which the server fills in the nonce of the client or the
signature that is right for the password.  The server remembers what it got.
-/

namespace BankLedger.Postgres

open BankLedger.Database BankLedger.Text

/-- A piece of a script. -/
inductive ServerTurn
  | send (octets : Octets)
  | continueExchange (template : String)
  | finishExchange (template : String)

/-- A server that a client is connected to: the rest of its script, what it got, the exchange that
it takes part in, and whether the proof of the client was right. -/
structure ScriptedServer where
  turns : List ServerTurn
  received : Octets
  exchange : Option (Scram.Keys × String)
  proofHeld : Option Bool

/-- The servers that clients are connected to, and the scripts of those still to come. -/
structure ScriptedNetwork where
  servers : Array ScriptedServer
  scripts : List (List ServerTurn)

/-- A message that a server got: its tag, which the first one does not have, and its body. -/
structure ReceivedMessage where
  tag : String
  body : Octets

namespace ScriptedServer

/-- A server before its first turn. -/
def ofScript (turns : List ServerTurn) : ScriptedServer :=
  ⟨turns, [], none, none⟩

/-- The messages that a server got. -/
def messages (server : ScriptedServer) : List ReceivedMessage :=
  match Frame.readAll (0 :: server.received) with
  | [] => []
  | greeting :: others =>
      ⟨"", greeting.body⟩ :: others.map fun frame =>
        ⟨String.singleton (Char.ofNat frame.tag.toNat), frame.body⟩

/-- Octets as characters of one octet each. -/
def narrowText (octets : Octets) : String :=
  String.ofList (octets.map fun octet => Char.ofNat octet.toNat)

/-- What stands before a proof. -/
def proofMark : String := ",p="

/-- The nonce of every client of scripted servers. -/
def clientNonce : String := "abcdefghijklmnopqrstuvwx"

/-- A client of scripted servers has the same nonce in every exchange. -/
def clientNonces (_number : Nat) : String := clientNonce

/-- The proofs that the client sent. -/
def proofs (server : ScriptedServer) : List String :=
  server.messages.filterMap fun message =>
    match (narrowText message.body).splitOn proofMark with
    | [_, proof] => if message.tag = "p" then some proof else none
    | _ => none

/-- A message with its nonce and its proof replaced by placeholders, if it has them. -/
def mask (message : ReceivedMessage) : ReceivedMessage :=
  let text := narrowText message.body
  if message.tag = "p" && (text.splitOn clientNonce).length > 1 then
    let front := ((text.replace clientNonce "<nonce>").splitOn proofMark).headD ""
    let proof := if (text.splitOn proofMark).length > 1 then proofMark ++ "<proof>" else ""
    { message with body := Octets.ofText (front ++ proof) }
  else message

/-- The frame that goes on with or ends an exchange. -/
def exchangeFrame (request : Nat) (text : String) : Octets :=
  (Frame.mk (UInt8.ofNat 'R'.toNat) (Octets.ofNat32 request ++ Octets.ofText text)).octets

/-- The exchange that the first message of a server starts, if the client agrees to it. -/
def exchangeOf (password text : String) : Option (Scram.Keys × String) := do
  let (_, first) ← (Scram.readMessage Scram.readFirst (Octets.ofText text)).toOption
  let salt ← (Base64.decode first.salt).toOption
  guard (first.rounds ≤ Scram.mostRounds)
  let nonce := String.ofList first.nonce
  return (Scram.Keys.derive (Octets.ofText password) salt first.rounds,
    Scram.exchanged clientNonce text nonce)

/-- Octets in base64. -/
def base64 (octets : Octets) : String :=
  String.ofList (Base64.encode octets)

/-- What a server sends in a turn. -/
def takeTurn (password : String) (turn : ServerTurn) (server : ScriptedServer) :
    Octets × ScriptedServer :=
  match turn with
  | .send octets => (octets, server)
  | .continueExchange template =>
      let text := template.replace "<nonce>" clientNonce
      let exchange := server.exchange.orElse fun () => exchangeOf password text
      (exchangeFrame 11 text, { server with exchange := exchange })
  | .finishExchange template =>
      match server.exchange with
      | none => (exchangeFrame 12 template, server)
      | some (keys, exchanged) =>
          let held := server.proofs.getLast? = some (base64 (keys.proof exchanged))
          let text := template.replace "<verifier>" (base64 (keys.signature exchanged))
          (exchangeFrame 12 text, { server with proofHeld := some held })

/-- What a server sends next. -/
def nextTurn (password : String) (server : ScriptedServer) : Octets × ScriptedServer :=
  match server.turns with
  | [] => ([], server)
  | turn :: turns => takeTurn password turn { server with turns := turns }

end ScriptedServer

namespace ScriptedNetwork

/-- A network before the first client connects. -/
def ofScripts (scripts : List (List ServerTurn)) : ScriptedNetwork :=
  ⟨#[], scripts⟩

/-- Connects a client with the next server. -/
def dial : StateM ScriptedNetwork (Except String Nat) :=
  modifyGet fun world =>
    match world.scripts with
    | [] => (.error "Connection refused (os error 111)", world)
    | turns :: scripts =>
        (.ok world.servers.size, ⟨world.servers.push (.ofScript turns), scripts⟩)

/-- Lets a server get some octets, which does not fail. -/
def send (line : Nat) (octets : Octets) : StateM ScriptedNetwork (Except String Unit) :=
  modifyGet fun world =>
    (.ok (), { world with
      servers := world.servers.modify line fun server =>
        { server with received := server.received ++ octets } })

/-- What a server sends next. -/
def receive (password : String) (line : Nat) : StateM ScriptedNetwork (Except String Octets) :=
  modifyGet fun world =>
    match world.servers[line]? with
    | none => (.ok [], world)
    | some server =>
        let (octets, server) := server.nextTurn password
        (.ok octets, { world with servers := world.servers.setIfInBounds line server })

/-- The network of the scripted servers, which know one password. -/
def network (password : String) : Network (StateM ScriptedNetwork) Nat where
  dial _ := dial
  send := send
  receive := receive password
  hangUp _ := return ()
  freshNonces := return ScriptedServer.clientNonces
  patience := 0x100000000

end ScriptedNetwork

end BankLedger.Postgres
