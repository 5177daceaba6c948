import BankLedger.Proofs.Postgres.Course
import BankLedger.Proofs.Postgres.Succession
import BankLedger.Proofs.Postgres.Verdict
import BankLedger.Proofs.Postgres.WriteBuffer

/-!
# Broken sessions

A query that goes over a line ends well or breaks its session, because all that can go wrong there
is blamed on the transport.  A query that cannot be written does neither: nothing is sent, and the
session goes on as if there had been no such query.  But some of these queries blame the transport
too, and then the backend tells of a connection that failed where none did.
-/

namespace BankLedger.Postgres

open BankLedger.Database BankLedger.Sql ClientMessage

variable {m : Type → Type} [Monad m] {World Line : Type}
variable (network : Network m Line) (execution : Execution m World)

/-! ## Causes and codes -/

/-- No answer of a server is told as a failure of the connection. -/
theorem QueryResult.code_toResultSet_ne (result : QueryResult) (vendor : String) :
    (result.toResultSet vendor).code ≠ .connectionError := by
  have refined : (ServerError.refine result.report).1 ≠ .connectionError := by
    rw [ServerError.refine.eq_def]
    split
    · simp
    · repeat' split
      all_goals simp
  rw [code_toResultSet, verdict]
  cases result.status <;> simp [QueryStatus.code, refined]

theorem code_failedResult_eq_iff (failure : ConnectionFailure) :
    (failedResult failure).code = .connectionError ↔
      (∃ cause, failure = .transport cause) ∨ failure = .broken := by
  cases failure <;> simp [failedResult, ResultSet.status]

/-- A conversation about a reply that fails blames the transport. -/
theorem Network.exists_cause_of_run_converse {line : Line} {patience : Nat} {reply : Reply}
    {unread : Octets} {world : World} {failure : ConnectionFailure}
    (fails : (execution.run (network.converse line Reply.dialogue patience reply unread) world).1.1
      = .error failure) : ∃ cause, failure = .transport cause := by
  induction patience generalizing reply unread world with
  | zero =>
      simp only [converse, Execution.run_pure, Except.error.injEq] at fails
      exact ⟨_, fails.symm⟩
  | succ patience inductionHypothesis =>
      rw [run_converse_succ] at fails
      cases hearing : Reply.dialogue.hear reply unread with
      | mk sent stance left =>
        rw [hearing] at fails
        dsimp only at fails
        split at fails
        next reason _ => exact ⟨reason, Except.error.inj fails.symm⟩
        next =>
          cases stance with
          | ended outcome =>
              cases fails
              exact Reply.exists_cause_of_hear hearing
          | listening next =>
              dsimp only at fails
              split at fails
              next reason _ => exact ⟨reason, Except.error.inj fails.symm⟩
              next => exact ⟨_, Except.error.inj fails.symm⟩
              next => exact inductionHypothesis fails

theorem Network.exists_cause_of_run_ask {line : Line} {octets : Octets} {reply : Reply}
    {unread : Octets} {world : World} {failure : ConnectionFailure}
    (fails : (execution.run (network.ask line octets Reply.dialogue reply unread) world).1.1 =
      .error failure) : ∃ cause, failure = .transport cause := by
  rw [run_ask] at fails
  dsimp only at fails
  split at fails
  next reason _ => exact ⟨reason, Except.error.inj fails.symm⟩
  next => exact network.exists_cause_of_run_converse execution fails

namespace Session

/-! ## The course of a query -/

/-- How a query goes: it is barred by a session that is broken, it is refused because it cannot be
written, it is answered, or it is interrupted because the transport fails. -/
inductive Course (session : Session Line) (text : String) (parameters : List WireText)
    (world : World) : (Except ConnectionFailure QueryResult × Session Line) × World → Prop
  | barred (broken : session.broken = true) :
      Course session text parameters world ((.error .broken, session), world)
  | refused (healthy : session.broken = false) {failure : ConnectionFailure}
      (refuses : encodeAll (ofQuery text parameters) = .error failure) :
      Course session text parameters world ((.error failure, session), world)
  | answered (healthy : session.broken = false) (sendable : Sendable text parameters)
      (result : QueryResult) (unread : Octets) (after : World) :
      Course session text parameters world ((.ok result, ⟨session.line, unread, false⟩), after)
  | interrupted (healthy : session.broken = false) (sendable : Sendable text parameters)
      (cause : String) (unread : Octets) (after : World) :
      Course session text parameters world
        ((.error (.transport cause), ⟨session.line, unread, true⟩), after)

variable (session : Session Line) (text : String) (parameters : List WireText) (world : World)

theorem run_query_of_broken {session : Session Line} (broken : session.broken = true) :
    execution.run (session.query network text parameters) world =
      ((.error .broken, session), world) := by
  rw [query, if_pos broken]
  exact execution.run_pure ..

/-- Every query takes its course. -/
theorem query_takes_course :
    Course session text parameters world
      (execution.run (session.query network text parameters) world) := by
  cases healthy : session.broken with
  | true =>
      rw [run_query_of_broken network execution text parameters world healthy]
      exact .barred healthy
  | false =>
      cases encodes : encodeAll (ofQuery text parameters) with
      | error failure =>
          rw [run_query_of_error healthy encodes]
          exact .refused healthy encodes
      | ok octets =>
          have sendable := sendable_of_encodeAll encodes
          rw [run_query_of_ok healthy encodes]
          dsimp only
          cases asked : (execution.run (network.ask session.line octets Reply.dialogue .initial
              session.unread) world).1.1 with
          | ok result => exact .answered healthy sendable ..
          | error failure =>
              obtain ⟨cause, rfl⟩ := network.exists_cause_of_run_ask execution asked
              exact .interrupted healthy sendable ..

/-! ## Queries over a broken session -/

section

variable {session : Session Line} (broken : session.broken = true)

include broken

/-- Queries over a broken session do nothing, whatever is in the write buffer. -/
theorem run_queryAllBuffered_of_broken (scraps : ClientMessage → Octets)
    (queries : List (String × List WireText)) (buffer : Octets) :
    (execution.withState Octets).run (session.queryAllBuffered network scraps queries)
        (buffer, world) = ((queries.map fun _ => .error .broken, session), buffer, world) := by
  induction queries with
  | nil => exact Execution.run_pure ..
  | cons query others inductionHypothesis =>
      rw [queryAllBuffered, queryBuffered, if_pos broken]
      simp only [Execution.run_bind, Execution.run_pure, inductionHypothesis, List.map_cons]

theorem close_of_broken : session.close network = network.hangUp session.line := by
  rw [close, broken]
  rfl

end

/-! ## What a query leaves -/

theorem Course.healthy_of_ok {session left : Session Line} {text : String}
    {parameters : List WireText} {world after : World} {result : QueryResult}
    (course : Course session text parameters world ((.ok result, left), after)) :
    left.broken = false := by
  cases course
  rfl

/-- A query that fails over a healthy session was refused and did nothing, or was interrupted and
broke the session. -/
theorem Course.refused_or_broken {session left : Session Line} {text : String}
    {parameters : List WireText} {world after : World} {failure : ConnectionFailure}
    (course : Course session text parameters world ((.error failure, left), after))
    (healthy : session.broken = false) :
    encodeAll (ofQuery text parameters) = .error failure ∧ ¬Sendable text parameters ∧
        left = session ∧ after = world ∨
      Sendable text parameters ∧ left.broken = true := by
  cases course with
  | barred broken => rw [healthy] at broken; cases broken
  | refused _ refuses => exact .inl ⟨refuses, not_sendable_of_encodeAll refuses, rfl, rfl⟩
  | interrupted _ sendable => exact .inr ⟨sendable, rfl⟩

/-- A query leaves its session as it was or broken, if it fails.  Let a query go over any session
with a write buffer that is empty, whatever the server does and whatever scraps are left of a
message that cannot be written.  It goes as it goes without a buffer, and leaves the buffer empty,
unless something could not be sent, and then the session is broken.  If it returns a result, the
session is healthy.  If it fails over a healthy session, it could not be written, and then nothing
happened on the line, nothing changed in the session, and all later queries go as if there had been
no such query; or it broke the session.  Over a broken session every later query fails for that
reason and does nothing, and closing it only hangs up, whatever is in the buffer. -/
theorem query_leaves_session_as_it_was_or_broken (scraps : ClientMessage → Octets) :
    let outcome := execution.run (session.query network text parameters) world
    let left := outcome.1.2
    (∃ buffer,
      (execution.withState Octets).run (session.queryBuffered network scraps text parameters)
          ([], world) = (outcome.1, buffer, outcome.2) ∧
      (buffer = [] ∨ left.broken = true ∧ network.MayFail execution session.line)) ∧
    (∀ result, outcome.1.1 = .ok result → left.broken = false) ∧
    (∀ failure, outcome.1.1 = .error failure → session.broken = false →
      (encodeAll (ofQuery text parameters) = .error failure ∧ ¬Sendable text parameters ∧
        left = session ∧ outcome.2 = world ∧ ∀ others,
          let later := (execution.withState Octets).run
            (session.queryAllBuffered network scraps others) ([], world)
          (execution.withState Octets).run
              (session.queryAllBuffered network scraps ((text, parameters) :: others))
              ([], world) = ((.error failure :: later.1.1, later.1.2), later.2)) ∨
      Sendable text parameters ∧ left.broken = true) ∧
    (left.broken = true → ∀ others buffer later,
      (execution.withState Octets).run (left.queryAllBuffered network scraps others)
          (buffer, later) = ((others.map fun _ => .error .broken, left), buffer, later) ∧
      (execution.withState Octets).run (left.close network.buffering) (buffer, later) =
        ((), buffer, (execution.run (network.hangUp left.line) later).2)) := by
  have buffered := run_queryBuffered network execution scraps session text parameters world
  have course := query_takes_course network execution session text parameters world
  revert buffered course
  generalize execution.run (session.query network text parameters) world = outcome
  obtain ⟨⟨answer, left⟩, after⟩ := outcome
  intro buffered course
  refine ⟨buffered, ?_, ?_, ?_⟩
  · rintro result rfl
    exact course.healthy_of_ok
  · rintro failure rfl healthy
    refine (course.refused_or_broken healthy).imp_left ?_
    rintro ⟨refuses, unsendable, rfl, rfl⟩
    refine ⟨refuses, unsendable, rfl, rfl, fun others => ?_⟩
    obtain ⟨buffer, ran, rfl | ⟨broken, _⟩⟩ := buffered
    · rw [queryAllBuffered]
      simp only [Execution.run_bind, ran, Execution.run_pure]
    · cases healthy.symm.trans broken
  · intro broken others buffer later
    refine ⟨run_queryAllBuffered_of_broken network execution later broken scraps others buffer, ?_⟩
    rw [close_of_broken network.buffering broken]
    exact execution.run_liftM ..

/-! ## What the backend tells -/

/-- The backend tells of a failed connection exactly if the session is broken afterwards or a query
over a healthy session is refused with the cause of a failed transport: its text cannot be stated,
or its parameters can be listed and are too long for a frame.  In the latter case the connection did
not fail: the session is as healthy as before, and nothing happened on the line. -/
theorem connection_error_iff_broken_or_unwritable :
    let outcome := execution.run ((backend network).execute session text parameters) world
    let (left, resultSet) := outcome.1
    (resultSet.code = .connectionError ↔
      left.broken = true ∨ session.broken = false ∧ Unwritable text parameters) ∧
    (session.broken = false → Unwritable text parameters →
      left = session ∧ outcome.2 = world) := by
  have course := query_takes_course network execution session text parameters world
  simp only [backend, Execution.run_bind, Execution.run_pure]
  generalize execution.run (session.query network text parameters) world = outcome at course ⊢
  cases course with
  | barred broken =>
      refine ⟨iff_of_true rfl (.inl broken), ?_⟩
      intro healthy
      rw [broken] at healthy
      cases healthy
  | refused healthy refuses =>
      refine ⟨?_, fun _ _ => ⟨rfl, rfl⟩⟩
      simp only [resultSetOf, code_failedResult_eq_iff, healthy, Bool.false_eq_true, false_or,
        true_and]
      rcases refusal_of_encodeAll refuses with ⟨unwritable, cause, rfl⟩ | ⟨writable, rfl⟩
      · exact iff_of_true (.inl ⟨cause, rfl⟩) unwritable
      · exact iff_of_false (by simp [tooLarge]) writable
  | answered healthy sendable result unread after =>
      have writable := not_unwritable_of_sendable sendable
      refine ⟨iff_of_false (result.code_toResultSet_ne vendor) ?_,
        fun _ unwritable => absurd unwritable writable⟩
      rintro (broken | ⟨_, unwritable⟩)
      · cases broken
      · exact writable unwritable
  | interrupted healthy sendable cause unread after =>
      exact ⟨iff_of_true rfl (.inl rfl),
        fun _ unwritable => absurd unwritable (not_unwritable_of_sendable sendable)⟩

/-- A query with a zero octet in its text is told as a failure of the connection, which is not
broken. -/
theorem connection_error_over_a_healthy_session :
    let network := ScriptedNetwork.network ""
    let session : Session Nat := ⟨0, [], false⟩
    let world : ScriptedNetwork := ⟨#[.ofScript []], []⟩
    let outcome := Execution.direct.run ((backend network).execute session "\x00" []) world
    let (left, resultSet) := outcome.1
    resultSet.code = .connectionError ∧ left.broken = false := by
  intro network session world
  have refuses : encodeAll (ofQuery "\x00" []) =
      .error (.transport "string contains embedded null") := by decide
  have ran : Execution.direct.run (session.query network "\x00" []) world =
      ((.error (.transport "string contains embedded null"), session), world) :=
    run_query_of_error rfl refuses world
  simp only [backend, Execution.run_bind, ran, Execution.run_pure]
  exact ⟨rfl, rfl⟩

end Session

end BankLedger.Postgres
