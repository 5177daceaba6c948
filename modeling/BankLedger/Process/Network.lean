import BankLedger.Postgres.Session
import BankLedger.Process.Fault
import Std.Async.DNS
import Std.Async.TCP
import Std.Async.Timer

/-!
# The network of the process

Lines to servers are TCP connections.  A server is asked under each of its addresses until one of
them answers.
-/

namespace BankLedger.Process

open BankLedger.Database BankLedger.Postgres
open Std.Async Std.Net

/-- A connection with a server. -/
structure Line where
  socket : TCP.Socket.Client

namespace Line

/-- The place of a server: a port under an address. -/
def place (port : UInt16) : IPAddr → SocketAddress
  | .v4 address => .v4 ⟨address, port⟩
  | .v6 address => .v6 ⟨address, port⟩

/-- Connects with a server in a place, if it answers in time. -/
def openSocket (timeoutMs : Option Nat) (port : UInt16) (address : IPAddr) :
    IO TCP.Socket.Client := do
  let socket ← TCP.Socket.Client.mk
  let connecting := socket.connect (place port address)
  match timeoutMs with
  | none => connecting.block
  | some milliseconds =>
      let expiring : Async Unit := do
        sleep (.ofNat milliseconds)
        throw (IO.userError "connection timed out")
      (Async.race connecting expiring).block
  return socket

/-- Connects with a server under the first of its addresses that answers; otherwise the reason of
the last counts. -/
def openFirst (timeoutMs : Option Nat) (port : UInt16) (reason : String) :
    List IPAddr → IO (Except String TCP.Socket.Client)
  | [] => return .error reason
  | address :: others => do
      match ← attempt (openSocket timeoutMs port address) with
      | .ok socket => return .ok socket
      | .error reason => openFirst timeoutMs port reason others

/-- Opens a line to the server that credentials name. -/
def dial (credentials : Credentials) : IO (Except String Line) := do
  let port := credentials.port.toUInt16
  match ← attempt (DNS.getAddrInfo credentials.host (toString port)).block with
  | .error reason => return .error s!"failed to lookup address information: {reason}"
  | .ok addresses =>
      let timeout := credentials.connectTimeoutMs
      match ← openFirst timeout port "host resolved to no addresses" addresses.toList with
      | .error reason => return .error reason
      | .ok socket => return .ok ⟨socket⟩

/-- Sends octets. -/
def send (line : Line) (octets : Octets) : IO (Except String Unit) :=
  attempt (line.socket.send (ByteArray.mk octets.toArray)).block

/-- Receives some octets, none if the server has closed its side. -/
def receive (line : Line) : IO (Except String Octets) := do
  match ← attempt (line.socket.recv? 8192).block with
  | .error reason => return .error reason
  | .ok received => return .ok ((received.map (·.toList)).getD [])

/-- Closes the own side. -/
def hangUp (line : Line) : IO Unit := do
  let _ ← attempt line.socket.shutdown.block

end Line

/-- A visible character of a nonce, which is not a comma. -/
def nonceCharacter (octet : UInt8) : Char :=
  let code := 0x21 + octet.toNat % 93
  if code = 0x2c then '~' else Char.ofNat code

/-- A nonce of twenty-four characters, for a seed that nobody else knows and a number. -/
def nonceOf (seed : Octets) (number : Nat) : String :=
  let digest := Digest.Sha256.digest (seed ++ Octets.ofText number.repr)
  String.ofList ((digest.take 24).map nonceCharacter)

/-- The network of the process. -/
def network : Network IO Line where
  dial := Line.dial
  send := Line.send
  receive := Line.receive
  hangUp := Line.hangUp
  freshNonces := do
    let seed ← IO.getRandomBytes 32
    return nonceOf seed.toList
  patience := 0x4000000000000000

end BankLedger.Process
