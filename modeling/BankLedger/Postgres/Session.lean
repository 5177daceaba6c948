import BankLedger.Postgres.Identifier
import BankLedger.Postgres.Login
import BankLedger.Postgres.Reply

/-!
# Sessions

A session talks to a server over a line, one dialogue after the other, and keeps what it has
received and not yet read.  A failure of the transport breaks a session for good; a query that
cannot be sent leaves it as it was.
-/

namespace BankLedger.Postgres

open BankLedger.Database BankLedger.Sql

/-- What connects a client with servers.  Receiving nothing means that the server has closed its
side.  A login draws a nonce for each exchange that the server may ask for.  A client loses patience
with a server after receiving a number of times in one dialogue. -/
structure Network (m : Type → Type) (Line : Type) where
  dial : Credentials → m (Except String Line)
  send : Line → Octets → m (Except String Unit)
  receive : Line → m (Except String Octets)
  hangUp : Line → m Unit
  freshNonces : m (Nat → String)
  patience : Nat

/-- A session with a server. -/
structure Session (Line : Type) where
  line : Line
  unread : Octets
  broken : Bool

/-- The session for diagnostics. -/
def Session.description {Line : Type} (peer : Option String) (session : Session Line) : String :=
  let peerText := match peer with
    | some address => s!"Some({address})"
    | none => "None"
  s!"PgConnection \x7b peer: {peerText}, broken: {session.broken}, .. \x7d"

namespace Network

variable {m : Type → Type} [Monad m] {Line State Result : Type}

/-- Sends some octets, if there are any. -/
def say (network : Network m Line) (line : Line) (octets : Octets) : m (Except String Unit) :=
  if octets.isEmpty then return .ok () else network.send line octets

/-- Leads a dialogue that stands in a state, with some octets unread, to its end.  A failure in
sending ends it. -/
def converse (network : Network m Line) (line : Line) (dialogue : Dialogue State Result) :
    Nat → State → Octets → m (Except ConnectionFailure Result × Octets)
  | 0, _, unread => return (.error Dialogue.streamEnded, unread)
  | patience + 1, state, unread => do
      let hearing := dialogue.hear state unread
      match ← network.say line hearing.sent with
      | .error reason => return (.error (.transport reason), hearing.unread)
      | .ok () =>
          match hearing.stance with
          | .ended outcome => return (outcome, hearing.unread)
          | .listening state =>
              match ← network.receive line with
              | .error reason => return (.error (.transport reason), hearing.unread)
              | .ok [] => return (.error Dialogue.streamEnded, hearing.unread)
              | .ok octets =>
                  network.converse line dialogue patience state (hearing.unread ++ octets)

/-- Sends some octets and leads the dialogue that they open. -/
def ask (network : Network m Line) (line : Line) (octets : Octets)
    (dialogue : Dialogue State Result) (state : State) (unread : Octets) :
    m (Except ConnectionFailure Result × Octets) := do
  match ← network.send line octets with
  | .error reason => return (.error (.transport reason), unread)
  | .ok () => network.converse line dialogue network.patience state unread

end Network

namespace Session

variable {m : Type → Type} [Monad m] {Line : Type}

/-- Whether an outcome breaks a session. -/
def breaks {Result : Type} : Except ConnectionFailure Result → Bool
  | .error (.transport _) => true
  | _ => false

/-- Runs a query with parameters. -/
def query (network : Network m Line) (session : Session Line) (text : String)
    (parameters : List WireText) : m (Except ConnectionFailure QueryResult × Session Line) := do
  if session.broken then return (.error .broken, session)
  match ClientMessage.encodeAll (ClientMessage.ofQuery text parameters) with
  | .error failure => return (.error failure, session)
  | .ok octets =>
      let (outcome, unread) ←
        network.ask session.line octets Reply.dialogue Reply.initial session.unread
      return (outcome, { session with unread := unread, broken := breaks outcome })

/-- Takes leave of the server, unless the session is broken, and hangs up, whether the server can be
told or not. -/
def close (network : Network m Line) (session : Session Line) : m Unit := do
  if !session.broken then
    match ClientMessage.terminate.encode with
    | .ok octets => let _ ← network.send session.line octets
    | .error _ => return
  network.hangUp session.line

/-- Logs in over a line. -/
def logIn (network : Network m Line) (credentials : Credentials) (line : Line) :
    m (Except ConnectionFailure (Session Line)) := do
  match (Login.greeting credentials).encode with
  | .error failure => return .error failure
  | .ok octets =>
      let nonces ← network.freshNonces
      let (outcome, unread) ←
        network.ask line octets (Login.dialogue credentials nonces) Login.initial []
      return outcome.map fun () => ⟨line, unread, false⟩

/-- Assumes a role, if there is one to assume. -/
def assumeRole (network : Network m Line) (role : String) (session : Session Line) :
    m (Except ConnectionFailure (Session Line)) := do
  if role.isEmpty then return .ok session
  let (outcome, session) ← session.query network (setRole role) []
  match outcome with
  | .error failure => return .error failure
  | .ok result =>
      match result.report with
      | some report => return .error (.server report.text)
      | none => return .ok session

/-- Logs in over a line and assumes the role of the credentials. -/
def begin (network : Network m Line) (credentials : Credentials) (line : Line) :
    m (Except ConnectionFailure (Session Line)) := do
  match ← logIn network credentials line with
  | .error failure => return .error failure
  | .ok session => assumeRole network credentials.role session

/-- Opens a line to the server that credentials name. -/
def dial (network : Network m Line) (credentials : Credentials) : m (Except String Line) := do
  if credentials.connectTimeoutMs = some 0 then return .error "cannot set a 0 duration timeout"
  network.dial credentials

/-- Opens a session.  A session that cannot be opened leaves no line. -/
def connect (network : Network m Line) (credentials : Credentials) :
    m (Except ConnectionFailure (Session Line)) := do
  match ← dial network credentials with
  | .error reason => return .error (.unreachable credentials.address reason)
  | .ok line =>
      match ← begin network credentials line with
      | .ok session => return .ok session
      | .error failure =>
          network.hangUp line
          return .error failure

end Session

end BankLedger.Postgres
