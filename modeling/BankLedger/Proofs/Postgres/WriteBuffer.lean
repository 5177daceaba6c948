import BankLedger.Proofs.Postgres.Succession
import BankLedger.Proofs.Postgres.Writing

/-!
# The write buffer of a session

A client writes its messages into a buffer and sends the buffer at once.  A message that cannot be
written leaves scraps in the buffer, after the messages that were written before it, so the buffer
is cleared before the next query.  A buffer that could not be sent stays as it is, but then the
session is broken.  So the buffer of a healthy session is empty between two queries, however they
end, and that is why a session says no more about it: a query that goes through a buffer goes as it
goes without.
-/

namespace BankLedger.Postgres

open BankLedger.Database BankLedger.Sql

variable {m : Type → Type} [Monad m] {World Line : Type}

/-- Writes messages into the buffer, up to the first that cannot be written.  Of that one there are
scraps in the buffer. -/
def ClientMessage.writeAll (scraps : ClientMessage → Octets) :
    List ClientMessage → StateT Octets m (Except ConnectionFailure Unit)
  | [] => return .ok ()
  | message :: others => do
      match message.encode with
      | .error failure =>
          modify (· ++ scraps message)
          return .error failure
      | .ok octets =>
          modify (· ++ octets)
          writeAll scraps others

/-- Sends all that is in the buffer, which is empty then.  If it cannot be sent, it stays. -/
def Network.flush (network : Network m Line) (line : Line) :
    StateT Octets m (Except String Unit) := do
  match ← liftM (network.send line (← get)) with
  | .error reason => return .error reason
  | .ok () =>
      set ([] : Octets)
      return .ok ()

/-- The same network behind a buffer: what is sent is written into the buffer, and all that is in
the buffer is sent. -/
def Network.buffering (network : Network m Line) : Network (StateT Octets m) Line where
  dial credentials := liftM (network.dial credentials)
  send line octets := do
    modify (· ++ octets)
    network.flush line
  receive line := liftM (network.receive line)
  hangUp line := liftM (network.hangUp line)
  freshNonces := liftM network.freshNonces
  patience := network.patience

/-- Sends what is in the buffer and leads the dialogue that it opens. -/
def Network.askBuffered {State Result : Type} (network : Network m Line) (line : Line)
    (dialogue : Dialogue State Result) (state : State) (unread : Octets) :
    StateT Octets m (Except ConnectionFailure Result × Octets) := do
  match ← network.flush line with
  | .error reason => return (.error (.transport reason), unread)
  | .ok () => network.buffering.converse line dialogue network.patience state unread

/-- Runs a query that is written into a buffer.  If it cannot be written, the buffer is cleared. -/
def Session.queryBuffered (network : Network m Line) (scraps : ClientMessage → Octets)
    (session : Session Line) (text : String) (parameters : List WireText) :
    StateT Octets m (Except ConnectionFailure QueryResult × Session Line) := do
  if session.broken then return (.error .broken, session)
  match ← ClientMessage.writeAll scraps (ClientMessage.ofQuery text parameters) with
  | .error failure =>
      set ([] : Octets)
      return (.error failure, session)
  | .ok () =>
      let (outcome, unread) ←
        network.askBuffered session.line Reply.dialogue Reply.initial session.unread
      return (outcome, { session with unread := unread, broken := breaks outcome })

/-- Puts some queries one after the other that are written into a buffer. -/
def Session.queryAllBuffered (network : Network m Line) (scraps : ClientMessage → Octets)
    (session : Session Line) :
    List (String × List WireText) →
      StateT Octets m (List (Except ConnectionFailure QueryResult) × Session Line)
  | [] => return ([], session)
  | (text, parameters) :: others => do
      let (outcome, session) ← session.queryBuffered network scraps text parameters
      let (outcomes, session) ← session.queryAllBuffered network scraps others
      return (outcome :: outcomes, session)

variable (network : Network m Line) (execution : Execution m World)

/-! ## Writing and sending -/

/-- Messages are written as they are sent.  If one of them cannot be written, what is written is
unknown. -/
theorem ClientMessage.run_writeAll (scraps : ClientMessage → Octets) (messages : List ClientMessage)
    (buffer : Octets) (world : World) :
    ∃ written,
      (execution.withState Octets).run (writeAll scraps messages) (buffer, world) =
        ((encodeAll messages).map fun _ => (), buffer ++ written, world) ∧
      ∀ octets, encodeAll messages = .ok octets → written = octets := by
  induction messages generalizing buffer with
  | nil =>
      refine ⟨[], ?_, ?_⟩
      · rw [writeAll, Execution.run_pure, List.append_nil]
        rfl
      · intro octets encodes
        cases encodes
        rfl
  | cons message others inductionHypothesis =>
      -- What was written before a message that cannot be written stays in the buffer, too.
      rw [writeAll]
      cases encodes : message.encode with
      | error failure =>
          refine ⟨scraps message, ?_, ?_⟩
          · simp only [Execution.run_bind, Execution.run_modify, Execution.run_pure,
              encodeAll_cons_of_error encodes]
            rfl
          · intro octets whole
            cases (encodeAll_cons_of_error encodes others).symm.trans whole
      | ok octets =>
          obtain ⟨written, writes, all⟩ := inductionHypothesis (buffer ++ octets)
          refine ⟨octets ++ written, ?_, ?_⟩
          · simp only [Execution.run_bind, Execution.run_modify, writes,
              encodeAll_cons_of_ok encodes, List.append_assoc]
            cases encodeAll others <;> rfl
          · intro known whole
            rw [encodeAll_cons_of_ok encodes] at whole
            cases rest : encodeAll others with
            | error failure =>
                rw [rest] at whole
                cases whole
            | ok later =>
                rw [rest] at whole
                cases whole
                rw [all later rest]

namespace Network

theorem run_flush (line : Line) (buffer : Octets) (world : World) :
    (execution.withState Octets).run (network.flush line) (buffer, world) =
      let sent := execution.run (network.send line buffer) world
      match sent.1 with
      | .error reason => (.error reason, buffer, sent.2)
      | .ok () => (.ok (), [], sent.2) := by
  simp only [flush, Execution.run_bind, Execution.run_get, Execution.run_liftM]
  cases (execution.run (network.send line buffer) world).1 with
  | error reason => exact Execution.run_pure ..
  | ok sent => simp only [Execution.run_bind, Execution.run_set, Execution.run_pure]

/-- What is said through an empty buffer is said as it is. -/
theorem run_say_buffering (line : Line) (octets : Octets) (world : World) :
    (execution.withState Octets).run (network.buffering.say line octets) ([], world) =
      let said := execution.run (network.say line octets) world
      match said.1 with
      | .error reason => (.error reason, octets, said.2)
      | .ok () => (.ok (), [], said.2) := by
  cases octets with
  | nil => simp only [say, List.isEmpty_nil, if_true, Execution.run_pure]
  | cons octet others =>
      simp only [say, List.isEmpty_cons, Bool.false_eq_true, if_false, buffering,
        Execution.run_bind, Execution.run_modify, run_flush, List.nil_append]

/-- A line over which something cannot be sent in some world. -/
def MayFail (line : Line) : Prop :=
  ∃ octets world reason, (execution.run (network.send line octets) world).1 = .error reason

variable {network execution} in
theorem mayFail_of_say {line : Line} {octets : Octets} {world : World} {reason : String}
    (failed : (execution.run (network.say line octets) world).1 = .error reason) :
    network.MayFail execution line := by
  cases octets with
  | nil =>
      rw [say, List.isEmpty_nil, if_pos rfl, Execution.run_pure] at failed
      cases failed
  | cons octet others => exact ⟨octet :: others, world, reason, failed⟩

variable {State Result : Type}

/-- A conversation behind an empty buffer goes as it goes without.  It leaves the buffer empty,
unless something could not be sent, and then it blames the transport. -/
theorem run_converse_buffering (line : Line) (dialogue : Dialogue State Result) (patience : Nat)
    (state : State) (unread : Octets) (world : World) :
    let outcome := execution.run (network.converse line dialogue patience state unread) world
    ∃ buffer,
      (execution.withState Octets).run
          (network.buffering.converse line dialogue patience state unread) ([], world) =
        (outcome.1, buffer, outcome.2) ∧
      (buffer = [] ∨ Session.breaks outcome.1.1 = true ∧ network.MayFail execution line) := by
  induction patience generalizing state unread world with
  | zero =>
      refine ⟨[], ?_, .inl rfl⟩
      simp only [converse, Execution.run_pure]
  | succ patience inductionHypothesis =>
      have receives (world : World) :
          (execution.withState Octets).run (network.buffering.receive line) ([], world) =
            ((execution.run (network.receive line) world).1, [],
              (execution.run (network.receive line) world).2) :=
        execution.run_liftM ..
      rw [run_converse_succ, run_converse_succ]
      simp only [run_say_buffering]
      cases said : execution.run (network.say line (dialogue.hear state unread).sent) world with
      | mk answer spoken =>
        cases answer with
        | error reason => exact ⟨_, rfl, .inr ⟨rfl, mayFail_of_say (congrArg Prod.fst said)⟩⟩
        | ok done =>
            cases (dialogue.hear state unread).stance with
            | ended outcome => exact ⟨_, rfl, .inl rfl⟩
            | listening next =>
                simp only [receives]
                rcases (execution.run (network.receive line) spoken).1 with
                  reason | _ | ⟨octet, others⟩
                · exact ⟨_, rfl, .inl rfl⟩
                · exact ⟨_, rfl, .inl rfl⟩
                · exact inductionHypothesis ..

/-- A dialogue that is opened with what is in the buffer goes as it goes without one. -/
theorem run_askBuffered (line : Line) (octets : Octets) (dialogue : Dialogue State Result)
    (state : State) (unread : Octets) (world : World) :
    let outcome := execution.run (network.ask line octets dialogue state unread) world
    ∃ buffer,
      (execution.withState Octets).run (network.askBuffered line dialogue state unread)
          (octets, world) = (outcome.1, buffer, outcome.2) ∧
      (buffer = [] ∨ Session.breaks outcome.1.1 = true ∧ network.MayFail execution line) := by
  rw [run_ask]
  simp only [askBuffered, Execution.run_bind, run_flush]
  cases sent : execution.run (network.send line octets) world with
  | mk answer after =>
    cases answer with
    | error reason =>
        refine ⟨octets, ?_, .inr ⟨rfl, octets, world, reason, congrArg Prod.fst sent⟩⟩
        exact Execution.run_pure ..
    | ok done => exact network.run_converse_buffering execution ..

end Network

/-! ## Queries -/

namespace Session

variable (scraps : ClientMessage → Octets) (session : Session Line)

/-- A query that goes through an empty buffer goes as it goes without, whatever scraps there were.
It leaves the buffer empty, unless something could not be sent, and then the session is broken. -/
theorem run_queryBuffered (text : String) (parameters : List WireText) (world : World) :
    let outcome := execution.run (session.query network text parameters) world
    ∃ buffer,
      (execution.withState Octets).run (session.queryBuffered network scraps text parameters)
          ([], world) = (outcome.1, buffer, outcome.2) ∧
      (buffer = [] ∨ outcome.1.2.broken = true ∧ network.MayFail execution session.line) := by
  cases healthy : session.broken with
  | true =>
      refine ⟨[], ?_, .inl rfl⟩
      rw [query, queryBuffered, if_pos healthy, if_pos healthy]
      simp only [Execution.run_pure]
  | false =>
      obtain ⟨written, writes, all⟩ := ClientMessage.run_writeAll execution scraps
        (ClientMessage.ofQuery text parameters) [] world
      rw [List.nil_append] at writes
      rw [queryBuffered, healthy, if_neg Bool.false_ne_true, Execution.run_bind, writes]
      cases encodes : ClientMessage.encodeAll (ClientMessage.ofQuery text parameters) with
      | error failure =>
          refine ⟨[], ?_, .inl rfl⟩
          rw [run_query_of_error healthy encodes]
          simp only [Except.map, Execution.run_bind, Execution.run_set, Execution.run_pure]
      | ok octets =>
          obtain ⟨buffer, asks, empty⟩ := network.run_askBuffered execution session.line octets
            Reply.dialogue .initial session.unread world
          rw [run_query_of_ok healthy encodes, all octets encodes]
          refine ⟨buffer, ?_, empty⟩
          simp only [Except.map, Execution.run_bind, asks, Execution.run_pure]

end Session

end BankLedger.Postgres
