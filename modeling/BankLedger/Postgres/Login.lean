import BankLedger.Database.Credentials
import BankLedger.Digest.Md5
import BankLedger.Postgres.ClientMessage
import BankLedger.Postgres.Dialogue
import BankLedger.Postgres.Scram

/-!
# The login

A session starts with the client naming its user and its database.  The server then asks for a proof
of the password in one of several ways, reports its settings, and is ready.
-/

namespace BankLedger.Postgres

open BankLedger.Database BankLedger.Digest

/-- A login that is under way, with the exchange that was started last, if one was, and how many
were started. -/
structure Login where
  exchange : Option Scram.Exchange
  started : Nat

namespace Login

/-- A login before the first message of the server. -/
def initial : Login :=
  ⟨none, 0⟩

/-- The first message of a session. -/
def greeting (credentials : Credentials) : ClientMessage :=
  .startup [("user", credentials.user), ("database", credentials.database),
    ("application_name", "ledger"), ("client_encoding", "UTF8")]

/-- The proof of a password by old digests, for a salt of the server. -/
def md5Proof (user password : String) (salt : Octets) : Octets :=
  let inner := (Md5.digest (Octets.ofText password ++ Octets.ofText user)).toHex
  Octets.ofText ("md5" ++ (Md5.digest (Octets.ofText inner ++ salt)).toHex)

/-- Sends a message and goes on. -/
def reply (login : Login) (message : ClientMessage) : Turn Login Unit :=
  match message.encode with
  | .ok octets => .proceed login octets
  | .error failure => .fail failure

/-- Starts an exchange with its own nonce if the server offers its mechanism. -/
def startExchange (nonces : Nat → String) (mechanisms : Octets) (login : Login) :
    Turn Login Unit :=
  match mechanismNames mechanisms with
  | .error cause => .fail (.transport cause.message)
  | .ok names =>
      if names.contains Scram.mechanism then
        let nonce := nonces login.started
        reply ⟨some (.started nonce), login.started + 1⟩
          (.saslStart Scram.mechanism (Scram.clientFirst nonce))
      else .fail (.authentication "the server offers no supported SASL mechanism")

/-- Goes on with an exchange. -/
def continueExchange (credentials : Credentials) (data : Octets) (login : Login) :
    Turn Login Unit :=
  match login.exchange with
  | none => .fail (.protocol "SASL continue without SASL start")
  | some exchange =>
      match Scram.prove (Octets.ofText credentials.password) data exchange with
      | .error failure => .fail (.authentication failure.message)
      | .ok (answer, exchange) => reply { login with exchange := exchange } (.saslReply answer)

/-- Ends an exchange. -/
def finishExchange (data : Octets) (login : Login) : Turn Login Unit :=
  match login.exchange with
  | none => .fail (.protocol "SASL final without SASL start")
  | some exchange =>
      match Scram.verify data exchange with
      | .error failure => .fail (.authentication failure.message)
      | .ok exchange => .proceed { login with exchange := exchange } []

/-- Ends the login with what the server reports. -/
def refuse (fields : Octets) : Turn Login Unit :=
  match readReport fields with
  | .error cause => .fail (.transport cause.message)
  | .ok report => .fail (.authentication report.text)

/-- Takes note of a notice, which has to be readable. -/
def note (fields : Octets) (login : Login) : Turn Login Unit :=
  match readReport fields with
  | .error cause => .fail (.transport cause.message)
  | .ok _ => .proceed login []

/-- The dialogue of a login, for the nonces of its exchanges by their numbers. -/
def dialogue (credentials : Credentials) (nonces : Nat → String) : Dialogue Login Unit :=
  fun login message =>
    match message with
    | .authenticated | .parameterStatus | .keyData => .proceed login []
    | .passwordRequest => reply login (.password (Octets.ofText credentials.password))
    | .md5Request salt =>
        reply login (.password (md5Proof credentials.user credentials.password salt))
    | .saslRequest mechanisms => startExchange nonces mechanisms login
    | .saslContinue data => continueExchange credentials data login
    | .saslFinal data => finishExchange data login
    | .notice fields => note fields login
    | .report fields => refuse fields
    | .ready => .finish ()
    | _ => .fail (.protocol "unexpected message during startup")

end Login

end BankLedger.Postgres
