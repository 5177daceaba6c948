import BankLedger.Proofs.Postgres.Answer
import BankLedger.Proofs.Postgres.Exchange
import BankLedger.Proofs.Postgres.Overhearing

/-!
# Authentication

A login ends when the server is ready, whatever it said before.  Everything that the client heard up
to there had a place in a login, and a final message of an exchange was verified with the keys that
the client derived.  But nothing makes the server say that the client is authenticated, or end an
exchange that was started: a login is authenticated exactly if the server does both.  A server that
knows the password can do both, as its signature is verified.
-/

namespace BankLedger.Postgres

open BankLedger.Database BankLedger.Text

namespace ServerMessage

/-- Whether a message asks for an exchange. -/
def asksForExchange : ServerMessage → Bool
  | .saslRequest _ => true
  | _ => false

/-- Whether a message goes on with an exchange or ends it. -/
def isOfExchange : ServerMessage → Bool
  | .saslContinue _ | .saslFinal _ => true
  | _ => false

/-- Whether a message has a place in a login and is of no exchange. -/
def isPlain : ServerMessage → Bool
  | .authenticated | .passwordRequest | .md5Request _ | .parameterStatus | .keyData | .notice _ =>
      true
  | _ => false

/-- Whether a message has a place in a login. -/
def isOfLogin (message : ServerMessage) : Bool :=
  message.asksForExchange || message.isOfExchange || message.isPlain

/-- The messages of an exchange that was asked for just before. -/
def exchange (messages : List ServerMessage) : List ServerMessage :=
  (messages.takeWhile fun message => !message.asksForExchange).filter isOfExchange

/-- The messages of each exchange that is asked for, in order. -/
def exchanges : List ServerMessage → List (List ServerMessage)
  | [] => []
  | message :: others =>
      if message.asksForExchange then exchange others :: exchanges others else exchanges others

theorem filter_of_isPlain {message : ServerMessage} (plain : message.isPlain = true) :
    [message].filter isOfExchange = [] := by
  cases message <;> first | rfl | cases plain

end ServerMessage

/-! ## Logins -/

namespace Login

open Scram

variable (credentials : Credentials) (nonces : Nat → String)

/-- How a login goes on with a message. -/
inductive Step : Login → ServerMessage → Login → Prop
  | heeded {login : Login} {message : ServerMessage} (plain : message.isPlain = true) :
      Step login message login
  | asked (login : Login) (mechanisms : Octets) :
      Step login (.saslRequest mechanisms)
        ⟨some (.started (nonces login.started)), login.started + 1⟩
  | proved {number : Nat} {nonce : String} {data answer : Octets} {keys : Keys} {messages : String}
      (proves : prove (Octets.ofText credentials.password) data (.started nonce) =
        .ok (answer, .proved keys messages)) :
      Step ⟨some (.started nonce), number⟩ (.saslContinue data)
        ⟨some (.proved keys messages), number⟩
  | verified {number : Nat} {data : Octets} {keys : Keys} {messages : String}
      (verifies : verify data (.proved keys messages) = .ok .over) :
      Step ⟨some (.proved keys messages), number⟩ (.saslFinal data) ⟨some .over, number⟩

/-- What a login makes of a message: it goes on, it ends because the server is ready, or it
fails. -/
inductive Answered (login : Login) : ServerMessage → Turn Login Unit → Prop
  | goesOn {message : ServerMessage} {next : Login}
      (step : Step credentials nonces login message next) (octets : Octets) :
      Answered login message (.proceed next octets)
  | ready : Answered login .ready (.finish ())
  | refused (message : ServerMessage) (failure : ConnectionFailure) :
      Answered login message (.fail failure)

variable {credentials nonces} {login next : Login}

theorem answered_reply {message : ServerMessage} (step : Step credentials nonces login message next)
    (answer : ClientMessage) : Answered credentials nonces login message (next.reply answer) := by
  rw [reply]
  split
  next octets _ => exact .goesOn step octets
  next failure _ => exact .refused message failure

variable (credentials nonces) in
theorem answered_dialogue (login : Login) (message : ServerMessage) :
    Answered credentials nonces login message (dialogue credentials nonces login message) := by
  cases message with
  | ready => exact .ready
  | authenticated | parameterStatus | keyData => exact .goesOn (.heeded rfl) []
  | passwordRequest | md5Request salt => exact answered_reply (.heeded rfl) _
  | notice fields =>
      simp only [dialogue, note]
      split
      next => exact .refused ..
      next => exact .goesOn (.heeded rfl) []
  | saslRequest mechanisms =>
      simp only [dialogue, startExchange]
      split
      next => exact .refused ..
      next names _ =>
        split
        next => exact answered_reply (.asked login mechanisms) _
        next => exact .refused ..
  | saslContinue data =>
      obtain ⟨_ | exchange, number⟩ := login
      · exact .refused ..
      · simp only [dialogue, continueExchange]
        split
        next => exact .refused ..
        next answer after proves =>
          obtain ⟨⟨nonce, rfl⟩, keys, messages, rfl⟩ := eq_proved_of_prove proves
          exact answered_reply (.proved proves) _
  | saslFinal data =>
      obtain ⟨_ | exchange, number⟩ := login
      · exact .refused ..
      · simp only [dialogue, finishExchange]
        split
        next => exact .refused ..
        next after verifies =>
          obtain ⟨⟨keys, messages, rfl⟩, rfl⟩ := eq_over_of_verify verifies
          exact .goesOn (.verified verifies) []
  | report fields =>
      simp only [dialogue, refuse]
      split <;> exact .refused ..
  | _ => exact .refused ..

theorem step_of_proceed {message : ServerMessage} {octets : Octets}
    (proceeds : dialogue credentials nonces login message = .proceed next octets) :
    Step credentials nonces login message next := by
  have answered := answered_dialogue credentials nonces login message
  rw [proceeds] at answered
  cases answered with
  | goesOn step => exact step

theorem eq_ready_of_finish {message : ServerMessage}
    (finishes : dialogue credentials nonces login message = .finish ()) : message = .ready := by
  have answered := answered_dialogue credentials nonces login message
  rw [finishes] at answered
  cases answered
  rfl

theorem Step.isOfLogin {message : ServerMessage}
    (step : Step credentials nonces login message next) : message.isOfLogin = true := by
  cases step with
  | heeded plain => rw [ServerMessage.isOfLogin, plain, Bool.or_true]
  | asked login mechanisms => rfl
  | proved proves => rfl
  | verified verifies => rfl

theorem isOfLogin_of_after {messages : List ServerMessage} {last : Login}
    (goesOn : (dialogue credentials nonces).after login messages = some last) :
    ∀ message ∈ messages, message.isOfLogin = true := by
  induction messages generalizing login with
  | nil => simp
  | cons message others inductionHypothesis =>
      obtain ⟨next, octets, proceeds, later⟩ := Dialogue.after_cons_eq_some_iff.mp goesOn
      rw [List.forall_mem_cons]
      exact ⟨(step_of_proceed proceeds).isOfLogin, inductionHypothesis later⟩

/-- A message that does not ask for an exchange takes the one that is under way further. -/
theorem Step.course {number : Nat} {nonce : String} {message : ServerMessage}
    {said : List ServerMessage} {exchange : Exchange}
    (step : Step credentials nonces ⟨some exchange, number⟩ message next)
    (unasked : message.asksForExchange = false)
    (course : Course (Octets.ofText credentials.password) nonce said exchange) :
    ∃ later, next = ⟨some later, number⟩ ∧
      Course (Octets.ofText credentials.password) nonce
        (said ++ [message].filter ServerMessage.isOfExchange) later := by
  cases step with
  | heeded plain =>
      rw [ServerMessage.filter_of_isPlain plain, List.append_nil]
      exact ⟨exchange, rfl, course⟩
  | asked mechanisms => cases unasked
  | proved proves =>
      cases course
      exact ⟨_, rfl, .proved proves⟩
  | verified verifies =>
      cases course with
      | proved proves => exact ⟨_, rfl, .ended proves verifies⟩

section

variable {nonce : List Char} {salt : Octets} {rounds : Nat}

variable (own : (nonces 0).toList.isPrefixOf nonce = true)
variable (visible : ∀ character ∈ nonce, isNonceCharacter character = true)
variable (few : rounds ≤ mostRounds)

include own visible few

end

end Login

/-! ## Sessions -/

namespace Session

variable {m : Type → Type} [Monad m] {World Line : Type}
variable {network : Network m Line} {execution : Execution m World}

section

variable {credentials : Credentials} {said : List Utterance}
variable (wellFormed : ∀ utterance ∈ said, utterance.WellFormed)
variable (goesOn : ((Login.dialogue credentials ScriptedServer.clientNonces).after .initial
  (said.map Utterance.meaning)).isSome = true)

include wellFormed goesOn

/-- A login ends well that hears messages with which it goes on, and then that the server is
ready. -/
theorem exists_hear_login (status : UInt8) :
    ∃ sent, (Login.dialogue credentials ScriptedServer.clientNonces).hear .initial
      (Utterance.answer said status ++ []) = ⟨sent, .ended (.ok ()), []⟩ := by
  let dialogue := Login.dialogue credentials ScriptedServer.clientNonces
  obtain ⟨login, goesOn⟩ := Option.isSome_iff_exists.mp goesOn
  obtain ⟨sent, heard⟩ :=
    dialogue.exists_sent_of_after wellFormed goesOn ((Utterance.ready status).octets ++ [])
  have last : dialogue.hear login ((Utterance.ready status).octets ++ []) =
      ⟨[], .ended (.ok ()), []⟩ :=
    dialogue.hear_of_message login (Utterance.read_octets (Utterance.wellFormed_ready status) [])
  rw [last, ← List.append_assoc] at heard
  exact ⟨sent, heard⟩

variable {octets : Octets} (greets : (Login.greeting credentials).encode = .ok octets)

include greets

/-- A login over a scripted server takes the first piece of the script, if the login ends there. -/
theorem run_logIn_of_scripted (status : UInt8) (later : List Octets) :
    ∃ after, Execution.direct.run (logIn (ScriptedNetwork.network "") credentials 0)
        ⟨#[.ofScript ((Utterance.answer said status :: later).map .send)], []⟩ =
          (.ok ⟨0, [], false⟩, after) ∧
      ScriptedNetwork.pending 0 after = later := by
  let answer := Utterance.answer said status
  let world : ScriptedNetwork := ⟨#[.ofScript ((answer :: later).map .send)], []⟩
  have feeds : (ScriptedNetwork.network "").Feeds .direct 0 (ScriptedNetwork.pending 0) :=
    ScriptedNetwork.feeds "" 0
  have pending_eq : ScriptedNetwork.pending 0 world = [answer] ++ later :=
    plainPieces_map_send (answer :: later)
  have full : ∀ piece ∈ [answer], piece ≠ [] :=
    List.forall_mem_singleton.mpr (Utterance.answer_ne_nil said status)
  obtain ⟨sent, heard⟩ := exists_hear_login wellFormed goesOn status
  have whole : (Login.dialogue credentials ScriptedServer.clientNonces).hear .initial
      ([] ++ [answer].flatten) = ⟨sent, .ended (.ok ()), []⟩ := heard
  obtain ⟨rest, kept, after, ended, left, suffix, nothing, _⟩ :=
    feeds.run_ask _ whole pending_eq full (by decide : 1 < 0x100000000)
  obtain ⟨rfl, empty⟩ := List.append_eq_nil_iff.mp nothing
  have taken : kept = [] := List.eq_nil_iff_forall_not_mem.mpr fun piece member =>
    full piece (suffix.subset member) (List.flatten_eq_nil_iff.mp empty piece member)
  rw [taken, List.nil_append] at left
  refine ⟨after, ?_, left⟩
  rw [logIn, greets]
  simp only [Execution.run_bind, Execution.run_pure]
  exact congrArg (fun outcome => (outcome.1.1.map fun () => Session.mk 0 outcome.1.2 false,
    outcome.2)) ended

end

end Session

end BankLedger.Postgres
