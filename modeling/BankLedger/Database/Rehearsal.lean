import BankLedger.Database.Backend
import BankLedger.Text.Quoted

/-!
# Rehearsed backends

A rehearsed backend follows a script instead of talking to a server: it says how connections and
handshakes turn out and how queries are answered.  It numbers its connections and remembers every
query that reached it.
-/

namespace BankLedger.Database

open BankLedger.Sql BankLedger.Text

/-- How a handshake turns out, after how many looks at it. -/
inductive HandshakeScript
  | succeedAfter (polls : Nat)
  | failAfter (polls : Nat)
deriving DecidableEq

/-- How queries that contain a text are answered.  A rule may be used a limited number of times. -/
structure AnswerRule where
  pattern : String
  usesLeft : Option Nat
  result : ResultSet

/-- A query that reached the backend. -/
structure DispatchedQuery where
  connection : Nat
  query : String
  parameters : List WireText

/-- A rehearsed handshake: the looks to go and the connection that it opened, if it succeeds. -/
structure RehearsedHandshake where
  pollsLeft : Nat
  connection : Option Nat

/-- A script and what happened so far.  Of a list of failures every attempt takes the first; none
lets the attempt go on. -/
structure Rehearsal where
  opened : Nat
  closed : Nat
  refusesConnections : Bool
  connectFailures : List (Option ConnectionFailure)
  startFailures : List (Option ConnectionFailure)
  handshakes : List HandshakeScript
  rules : List AnswerRule
  /-- The queries that reached the backend, in order. -/
  dispatched : Array DispatchedQuery

namespace Rehearsal

/-- The vendor of rehearsed databases. -/
def vendor : String :=
  "Mock 1"

/-- The octets that a connection takes in memory: those of its number. -/
def connectionSize : Nat := 8

/-- A script in which everything succeeds at once. -/
def initial : Rehearsal :=
  ⟨0, 0, false, [], [], [], [], #[]⟩

/-- The connections that were opened and not closed.  An abandoned handshake leaves its
connection open. -/
def openCount (rehearsal : Rehearsal) : Nat :=
  rehearsal.opened - rehearsal.closed

/-- The most connections that were busy at once: queries run one after the other. -/
def mostBusy (rehearsal : Rehearsal) : Nat :=
  min 1 rehearsal.dispatched.size

/-- Opens the next connection. -/
def openNext : StateM Rehearsal Nat :=
  modifyGet fun rehearsal => (rehearsal.opened, { rehearsal with opened := rehearsal.opened + 1 })

/-- Takes the failure that the script has for the next connection. -/
def takeConnectFailure : StateM Rehearsal (Option ConnectionFailure) :=
  modifyGet fun rehearsal =>
    (rehearsal.connectFailures.head?.join,
      { rehearsal with connectFailures := rehearsal.connectFailures.tail })

/-- Takes the failure that the script has for the next start of a handshake. -/
def takeStartFailure : StateM Rehearsal (Option ConnectionFailure) :=
  modifyGet fun rehearsal =>
    (rehearsal.startFailures.head?.join,
      { rehearsal with startFailures := rehearsal.startFailures.tail })

/-- Takes the script of the next handshake; one without a script succeeds at once. -/
def takeHandshake : StateM Rehearsal HandshakeScript :=
  modifyGet fun rehearsal =>
    (rehearsal.handshakes.head?.getD (.succeedAfter 0),
      { rehearsal with handshakes := rehearsal.handshakes.tail })

/-- Opens a connection unless connections are refused. -/
def openUnlessRefused (credentials : Credentials) :
    StateM Rehearsal (Except ConnectionFailure Nat) := do
  if (← get).refusesConnections then
    let user := credentials.user
    return .error (.authentication s!"password authentication failed for user \"{user}\"")
  return .ok (← openNext)

/-- Opens a connection as the script says.  Between the two checks of the script something else
may happen. -/
def connectAmid {n : Type → Type} [Monad n] [MonadLiftT (StateM Rehearsal) n]
    (credentials : Credentials) (meanwhile : n Unit) : n (Except ConnectionFailure Nat) := do
  match ← liftM takeConnectFailure with
  | some failure => return .error failure
  | none =>
      meanwhile
      liftM (openUnlessRefused credentials)

/-- Starts a handshake as the script says; one that will succeed opens its connection now. -/
def startHandshake : StateM Rehearsal (Except ConnectionFailure RehearsedHandshake) := do
  match ← takeStartFailure with
  | some failure => return .error failure
  | none =>
      match ← takeHandshake with
      | .succeedAfter polls => return .ok ⟨polls, some (← openNext)⟩
      | .failAfter polls => return .ok ⟨polls, none⟩

/-- A look at a handshake. -/
def pollHandshake : RehearsedHandshake → Progress Nat RehearsedHandshake
  | ⟨polls + 1, connection⟩ => .pending ⟨polls, connection⟩
  | ⟨0, some connection⟩ => .ready connection
  | ⟨0, none⟩ => .failed (.server "the database system is starting up")

/-- The answer to a query for which there is no rule. -/
def defaultAnswer : ResultSet :=
  .status .ok (vendorMessage "Query executed successfully" vendor "")

/-- Whether a rule answers a query. -/
def AnswerRule.applies (rule : AnswerRule) (query : String) : Bool :=
  rule.usesLeft != some 0 && mentions query rule.pattern

/-- The answer of the first rule that applies, and the rules with one use of it gone. -/
def answer (query : String) : List AnswerRule → ResultSet × List AnswerRule
  | [] => (defaultAnswer, [])
  | rule :: rules =>
      if AnswerRule.applies rule query then
        (rule.result, { rule with usesLeft := rule.usesLeft.map (· - 1) } :: rules)
      else
        let (result, rules) := answer query rules
        (result, rule :: rules)

/-- Answers a query and remembers it. -/
def execute (connection : Nat) (query : String) (parameters : List WireText) :
    StateM Rehearsal (Nat × ResultSet) :=
  modifyGet fun rehearsal =>
    let (result, rules) := answer query rehearsal.rules
    ((connection, result),
      { rehearsal with
        rules := rules
        dispatched := rehearsal.dispatched.push ⟨connection, query, parameters⟩ })

/-- Closes a connection. -/
def close (_connection : Nat) : StateM Rehearsal Unit :=
  modify fun rehearsal => { rehearsal with closed := rehearsal.closed + 1 }

/-- The backend that follows the script. -/
def backend : Backend (StateM Rehearsal) Nat RehearsedHandshake where
  vendor := vendor
  connectionSize := connectionSize
  connect credentials := connectAmid credentials (pure ())
  startHandshake _ := startHandshake
  pollHandshake handshake := return pollHandshake handshake
  execute := execute
  close := close

end Rehearsal

end BankLedger.Database
