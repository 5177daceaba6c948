import Mathlib.Data.List.Induction
import BankLedger.Proofs.Postgres.Authentication
import BankLedger.Proofs.Postgres.Course

/-!
# Assuming a role

A session with a role to assume asks the server for it after the login, and is opened unless the
server reports an error.  That is not to say that the role was assumed: the server may answer with
anything else up to the message that it is ready.  This module says what the session knows of that
answer, and which answers tell that the statement was carried out.
-/

namespace BankLedger.Postgres

open BankLedger.Database

namespace ServerMessage

/-- Whether a message that is no report settles the status of a reply. -/
def settles : ServerMessage → Bool
  | .commandComplete | .emptyQuery => true
  | message => message.startsCopy || message.isUnexpected

theorem settles_of_startsCopy {message : ServerMessage} (copies : message.startsCopy = true) :
    message.settles = true := by
  cases message <;> first | rfl | cases copies

end ServerMessage

/-- An answer without reports tells that a statement without a result was carried out: it has the
message for that, before which no columns were described and no copy was started, and no message
after it settles the status otherwise. -/
def Completed (answer : List ServerMessage) : Prop :=
  ∃ before after, answer = before ++ .commandComplete :: after ∧
    (∀ message ∈ before, message.describes = false ∧ message.startsCopy = false) ∧
    ∀ message ∈ after, message.settles = false

/-- The last message completes the answer, or it settles nothing and the answer was complete. -/
theorem completed_append_singleton (answer : List ServerMessage) (last : ServerMessage) :
    Completed (answer ++ [last]) ↔
      last = .commandComplete ∧
          (∀ message ∈ answer, message.describes = false ∧ message.startsCopy = false) ∨
        last.settles = false ∧ Completed answer := by
  constructor
  · rintro ⟨before, after, whole, plain, unsettled⟩
    rcases List.eq_nil_or_concat after with rfl | ⟨between, final, rfl⟩
    · obtain ⟨rfl, same⟩ := List.append_inj' whole rfl
      cases same
      exact .inl ⟨rfl, plain⟩
    · rw [List.concat_eq_append, ← List.cons_append, ← List.append_assoc] at whole
      obtain ⟨rfl, same⟩ := List.append_inj' whole rfl
      cases same
      rw [List.concat_eq_append] at unsettled
      exact .inr ⟨unsettled last (by simp), before, between, rfl, plain,
        fun message member => unsettled message (List.mem_append_left _ member)⟩
  · rintro (⟨rfl, plain⟩ | ⟨unsettled, before, after, rfl, plain, rest⟩)
    · exact ⟨answer, [], rfl, plain, by simp⟩
    · refine ⟨before, after ++ [last], by simp, plain, ?_⟩
      rw [List.forall_mem_append, List.forall_mem_singleton]
      exact ⟨rest, unsettled⟩

namespace Reply

/-! ## Where a reply stands -/

/-- Where a reply stands after an answer so far.  Once a copy was started, a completion settles
nothing; that the status was no success then is part of where it stands. -/
structure Stands (answer : List ServerMessage) (reply : Reply) : Prop where
  described : reply.described = answer.any ServerMessage.describes
  copying : reply.copying = answer.any ServerMessage.startsCopy
  reported : reply.report.isSome = answer.any ServerMessage.isReport
  copied : reply.report = none → reply.copying = true → reply.status ≠ .commandOk
  completed : reply.report = none →
    (.commandComplete ∈ answer ∧ reply.status = .commandOk ↔ Completed answer)

theorem stands_initial : Stands [] initial where
  described := rfl
  copying := rfl
  reported := rfl
  copied _ := nofun
  completed _ := by simp [Completed]

/-- When a message makes or leaves the status of a reply a success without rows. -/
theorem statusAfter_eq_commandOk_iff {reply : Reply} (unreported : reply.report = none)
    (copied : reply.copying = true → reply.status ≠ .commandOk) (message : ServerMessage) :
    reply.statusAfter message = .commandOk ↔
      message = .commandComplete ∧ reply.described = false ∧ reply.copying = false ∨
        message.settles = false ∧ reply.status = .commandOk := by
  cases message with
  | commandComplete =>
      rw [statusAfter, complete]
      cases copying : reply.copying with
      | true => simpa [ServerMessage.settles] using copied copying
      | false => simp [ServerMessage.settles, unreported]
  | _ =>
      simp [statusAfter, ServerMessage.settles, ServerMessage.startsCopy,
        ServerMessage.isUnexpected]

theorem Stands.plain_iff {answer : List ServerMessage} {reply : Reply}
    (stands : Stands answer reply) :
    reply.described = false ∧ reply.copying = false ↔
      ∀ message ∈ answer, message.describes = false ∧ message.startsCopy = false := by
  rw [stands.described, stands.copying, List.any_eq_false, List.any_eq_false]
  simp only [Bool.not_eq_true]
  exact ⟨fun ⟨undescribed, uncopied⟩ message member =>
    ⟨undescribed message member, uncopied message member⟩,
    fun both => ⟨fun message member => (both message member).1,
      fun message member => (both message member).2⟩⟩

/-- A message takes a reply further with the answer. -/
theorem Stands.follows {answer : List ServerMessage} {reply next : Reply}
    {message : ServerMessage} {said : Octets} (stands : Stands answer reply)
    (follows : Follows reply message next said) : Stands (answer ++ [message]) next := by
  constructor
  case described => simp [follows.described, stands.described]
  case copying => simp [follows.copying, stands.copying]
  case reported => simp [follows.reported, stands.reported]
  case copied =>
    intro nothing copying
    obtain ⟨unreported, status⟩ := follows.unreported nothing
    have copied := stands.copied unreported
    rw [status, ne_eq, statusAfter_eq_commandOk_iff unreported copied]
    rw [follows.copying, Bool.or_eq_true] at copying
    -- A completion starts no copy, and a message that starts one settles the status otherwise.
    rintro (⟨rfl, _, uncopied⟩ | ⟨unsettled, success⟩)
    · rw [uncopied] at copying
      simp [ServerMessage.startsCopy] at copying
    · rcases copying with copying | copies
      · exact copied copying success
      · rw [ServerMessage.settles_of_startsCopy copies] at unsettled
        cases unsettled
  case completed =>
    intro nothing
    obtain ⟨unreported, status⟩ := follows.unreported nothing
    rw [completed_append_singleton, ← stands.completed unreported, ← stands.plain_iff, status,
      statusAfter_eq_commandOk_iff unreported (stands.copied unreported), List.mem_append,
      List.mem_singleton]
    by_cases completes : message = .commandComplete
    · subst completes
      simp [ServerMessage.settles]
    · simp only [completes, Ne.symm completes, false_and, false_or, or_false]
      exact and_left_comm

/-- Where a reply stands after an answer with which it went on. -/
theorem stands_of_after {answer : List ServerMessage} {reply : Reply}
    (goesOn : dialogue.after initial answer = some reply) : Stands answer reply := by
  -- The last message decides, so the induction takes the answer from its end.
  induction answer using List.reverseRecOn generalizing reply with
  | nil =>
      cases goesOn
      exact stands_initial
  | append_singleton answer last inductionHypothesis =>
      obtain ⟨next, said, earlier, turn⟩ := Dialogue.after_append_singleton_eq_some_iff.mp goesOn
      exact (inductionHypothesis earlier).follows (follows_of_proceed turn)

end Reply

namespace Session

variable {m : Type → Type} [Monad m] {World Line : Type}
variable {network : Network m Line} {execution : Execution m World}

/-- What a session that was opened with a role to assume knows of it.  Let a session be opened with
such credentials over any network.  Opening it over the same network, overheard, does the same, and
the note has what the server said: the messages of a login up to the first one that the server is
ready, then the answer to the statement for the role up to the second one, and what the session has
not read yet.  The answer reports no error, and the session is healthy.  The answer tells that the
statement was carried out, with a status to match, exactly if it is completed; the session does not
insist on it. -/
theorem role_is_confirmed_iff_answer_completes {credentials : Credentials} {session : Session Line}
    {world after : World} (configured : credentials.role.isEmpty = false)
    (opened : execution.run (connect network credentials) world = (.ok session, after)) :
    ∃ nonces received login answer reply,
      (execution.withState Note).run (connect network.noting credentials) (.empty, world) =
        (.ok session, ⟨[nonces], received⟩, after) ∧
      ServerMessage.readAll received =
        login ++ .ready :: (answer ++ .ready :: ServerMessage.readAll session.unread) ∧
      (∀ message ∈ login, message.isOfLogin = true) ∧
      Reply.dialogue.after .initial answer = some reply ∧
      (∀ message ∈ answer, message.isReport = false) ∧ session.broken = false ∧
      (.commandComplete ∈ answer ∧ reply.result.status = .commandOk ↔ Completed answer) := by
  obtain ⟨overheard, same, ends⟩ :=
    overhearsOpening_connect network execution credentials .empty world
  rw [opened] at same ends
  obtain ⟨nonces, received, rfl, sent, rest, loggedIn, assumes⟩ := ends session rfl
  obtain ⟨result, unreported, healthy, said, heard⟩ := assumes configured
  obtain ⟨login, final, last, whole, logsIn, loggedIn⟩ :=
    (Login.dialogue credentials nonces).exists_messages_of_hear loggedIn
  cases Login.eq_ready_of_finish loggedIn
  obtain ⟨answer, final, reply, told, goesOn, finishes⟩ :=
    Reply.dialogue.exists_messages_of_hear heard
  obtain ⟨rfl, rfl⟩ := Reply.eq_ready_of_finish finishes
  have stands := Reply.stands_of_after goesOn
  have nothing : reply.report = none := unreported
  have silent : ∀ message ∈ answer, message.isReport = false := by
    have reported := stands.reported
    rw [nothing, Option.isSome_none, eq_comm, List.any_eq_false] at reported
    exact fun message member => Bool.eq_false_iff.mpr (reported message member)
  rw [told] at whole
  exact ⟨nonces, received, login, answer, reply, same, whole, Login.isOfLogin_of_after logsIn,
    goesOn, silent, healthy, stands.completed nothing⟩

section

variable {credentials : Credentials} {said answer : List Utterance}

/-- A session is opened over a scripted server that says messages with which the login goes on, and
then answers the statement for the role with messages that report no error. -/
theorem run_connect_of_scripted_role (wellFormed : ∀ utterance ∈ said, utterance.WellFormed)
    (goesOn : ((Login.dialogue credentials ScriptedServer.clientNonces).after .initial
      (said.map Utterance.meaning)).isSome = true)
    {greeting question : Octets} (greets : (Login.greeting credentials).encode = .ok greeting)
    (prompt : credentials.connectTimeoutMs ≠ some 0)
    (configured : credentials.role.isEmpty = false)
    (asks : ClientMessage.encodeAll (ClientMessage.ofQuery (setRole credentials.role) []) =
      .ok question)
    (answerable : ∀ utterance ∈ answer, utterance.WellFormed)
    (unready : ∀ utterance ∈ answer, utterance.isReady = false)
    (unreported : (answer.foldl Reply.heed .initial).report = none)
    (patient : (Utterance.answer answer 73).length < 0x100000000) :
    ∃ after, Execution.direct.run (connect (ScriptedNetwork.network "") credentials)
      (.ofScripts [[Utterance.answer said 73, Utterance.answer answer 73].map .send]) =
        (.ok ⟨0, [], false⟩, after) := by
  let network := ScriptedNetwork.network ""
  let script := [Utterance.answer said 73, Utterance.answer answer 73]
  let dialled : ScriptedNetwork := ⟨#[.ofScript (script.map .send)], []⟩
  have dials : Execution.direct.run (dial network credentials) (.ofScripts [script.map .send]) =
      (.ok 0, dialled) := by
    rw [dial, if_neg prompt]
    rfl
  obtain ⟨between, logsIn, pending_eq⟩ :=
    run_logIn_of_scripted wellFormed goesOn greets 73 [Utterance.answer answer 73]
  have full : ∀ piece ∈ ScriptedNetwork.pending 0 between, piece ≠ [] := by
    rw [pending_eq]
    exact List.forall_mem_singleton.mpr (Utterance.answer_ne_nil answer 73)
  have stream : (⟨0, [], false⟩ : Session Nat).unread ++
      (ScriptedNetwork.pending 0 between).flatten = Utterance.answer answer 73 ++ [] := by
    rw [pending_eq, List.flatten_singleton, List.append_nil]
    rfl
  obtain ⟨unread, after, answered, nothing, _⟩ :=
    run_query_of_answer (ScriptedNetwork.feeds "" 0) rfl asks answerable unready full stream patient
  obtain ⟨rfl, _⟩ := List.append_eq_nil_iff.mp nothing
  have silent : (answer.foldl Reply.heed .initial).result.report = none := unreported
  refine ⟨after, ?_⟩
  rw [connect, Execution.run_bind, dials]
  simp only [begin, assumeRole, configured, Execution.run_bind, dialled, script, logsIn,
    Bool.false_eq_true, if_false, answered, silent, Execution.run_pure]

/-- Such a session for the role of a ledger. -/
theorem run_connect_of_ledger_role (answerable : ∀ utterance ∈ answer, utterance.WellFormed)
    (unready : ∀ utterance ∈ answer, utterance.isReady = false)
    (unreported : (answer.foldl Reply.heed .initial).report = none)
    (patient : (Utterance.answer answer 73).length < 0x100000000) :
    ∃ after, Execution.direct.run (connect (ScriptedNetwork.network "")
        ⟨"db", 5432, "bank", "ledger", "", "ledger_rw", none⟩)
      (.ofScripts [[Utterance.answer [.authenticated] 73, Utterance.answer answer 73].map .send]) =
        (.ok ⟨0, [], false⟩, after) := by
  let credentials : Credentials := ⟨"db", 5432, "bank", "ledger", "", "ledger_rw", none⟩
  have prompt : credentials.connectTimeoutMs ≠ some 0 := nofun
  have configured : credentials.role.isEmpty = false := by decide
  obtain ⟨greeting, greets⟩ : ∃ octets, (Login.greeting credentials).encode = .ok octets :=
    ⟨_, rfl⟩
  have statement : setRole credentials.role = "SET ROLE \"ledger_rw\"" := by decide
  obtain ⟨question, asks⟩ : ∃ octets, ClientMessage.encodeAll
      (ClientMessage.ofQuery (setRole credentials.role) []) = .ok octets := by
    rw [statement]
    exact ⟨_, rfl⟩
  have formed : ∀ utterance ∈ [Utterance.authenticated], utterance.WellFormed := by decide
  exact run_connect_of_scripted_role formed rfl greets prompt configured asks answerable unready
    unreported patient

end

/-- The server accepts the statement, and tells that it was carried out: its answer is completed. -/
theorem role_is_confirmed_iff_answer_completes_as_usual :
    let credentials : Credentials := ⟨"db", 5432, "bank", "ledger", "", "ledger_rw", none⟩
    let said : List Utterance :=
      [.parseComplete, .bindComplete, .noData, .commandComplete (Octets.ofText "SET")]
    let world := ScriptedNetwork.ofScripts
      [[Utterance.answer [.authenticated] 73, Utterance.answer said 73].map .send]
    let network := ScriptedNetwork.network ""
    let answer := said.map Utterance.meaning
    ∃ after, Execution.direct.run (connect network credentials) world =
        (.ok ⟨0, [], false⟩, after) ∧
      ∃ nonces received login reply,
        (Execution.direct.withState Note).run (connect network.noting credentials)
            (.empty, world) = (.ok ⟨0, [], false⟩, ⟨[nonces], received⟩, after) ∧
        ServerMessage.readAll received = login ++ .ready :: (answer ++ [.ready]) ∧
        (∀ message ∈ login, message.isOfLogin = true) ∧
        Reply.dialogue.after .initial answer = some reply ∧
        reply.result.status = .commandOk ∧ Completed answer := by
  intro credentials said world network answer
  have configured : credentials.role.isEmpty = false := by decide
  have answerable : ∀ utterance ∈ said, utterance.WellFormed := by decide
  obtain ⟨after, opened⟩ := run_connect_of_ledger_role answerable (by decide) rfl (by decide)
  obtain ⟨nonces, received, login, heard, reply, same, whole, ofLogin, goesOn, _, _, completes⟩ :=
    role_is_confirmed_iff_answer_completes configured opened
  have noted := congrArg (fun ended => ended.2.1.received) same
  have arrived : received = Utterance.answer [.authenticated] 73 ++ Utterance.answer said 73 :=
    noted.symm.trans (by decide +kernel)
  have messages : ServerMessage.readAll received =
      .authenticated :: .ready :: (answer ++ [.ready]) := by
    rw [arrived]
    decide +kernel
  have nothing : ServerMessage.readAll [] = [] := by decide +kernel
  -- The login ends with the first message that the server is ready, as that has no place in it.
  have split : login = [.authenticated] ∧ heard = answer := by
    rw [messages, nothing] at whole
    rcases login with _ | ⟨first, _ | ⟨second, others⟩⟩
    · cases whole
    · injection whole with same whole
      injection whole with _ whole
      exact ⟨by rw [same], (List.append_inj_left' whole rfl).symm⟩
    · injection whole with _ whole
      injection whole with ready _
      rw [← ready] at ofLogin
      exact absurd (ofLogin .ready (by simp)) (by decide)
  obtain ⟨rfl, rfl⟩ := split
  have completed : Completed answer :=
    ⟨[.parseComplete, .bindComplete, .noData], [], rfl, by decide, by decide⟩
  exact ⟨after, opened, nonces, received, _, reply, same, messages, ofLogin, goesOn,
    (completes.mpr completed).2, completed⟩

/-- A session is opened although the server does not tell that the statement for the role was
carried out, and although it tells so and then says something unexpected. -/
theorem session_is_opened_without_a_confirmed_role :
    let credentials : Credentials := ⟨"db", 5432, "bank", "ledger", "", "ledger_rw", none⟩
    let opened (said : List Utterance) : Except ConnectionFailure (Session Nat) :=
      (Execution.direct.run (connect (ScriptedNetwork.network "") credentials) (.ofScripts
        [[Utterance.answer [.authenticated] 73, Utterance.answer said 73].map .send])).1
    let silent : List Utterance := [.parseComplete, .bindComplete, .noData]
    let suspended : List Utterance :=
      [.parseComplete, .bindComplete, .noData, .commandComplete (Octets.ofText "SET"),
        .portalSuspended]
    (opened silent = .ok ⟨0, [], false⟩ ∧ .commandComplete ∉ silent.map Utterance.meaning) ∧
    opened suspended = .ok ⟨0, [], false⟩ ∧
      (suspended.foldl Reply.heed .initial).result.status = .badResponse := by
  intro credentials opened silent suspended
  have opens {said : List Utterance} (answerable : ∀ utterance ∈ said, utterance.WellFormed)
      (unready : ∀ utterance ∈ said, utterance.isReady = false)
      (unreported : (said.foldl Reply.heed .initial).report = none)
      (patient : (Utterance.answer said 73).length < 0x100000000) :
      opened said = .ok ⟨0, [], false⟩ := by
    obtain ⟨after, connects⟩ := run_connect_of_ledger_role answerable unready unreported patient
    exact congrArg Prod.fst connects
  exact ⟨⟨opens (by decide) (by decide) rfl (by decide), by decide⟩,
    opens (by decide) (by decide) rfl (by decide), rfl⟩

end Session

end BankLedger.Postgres
