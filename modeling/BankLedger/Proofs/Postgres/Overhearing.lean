import BankLedger.Proofs.Postgres.Hearing

/-!
# Overhearing a network

What a session does depends on what it receives.  A network can be overheard: every piece that is
received and all nonces that are drawn are noted beside the world, and nothing else changes.  So a
conversation that ends well can be told from the note: the dialogue heard a stream of messages each
of which let it go on, and one that finished it.
-/

namespace BankLedger.Postgres

open BankLedger.Database BankLedger.Sql

/-! ## All messages of a stream -/

/-- The messages that a stream starts with, in order, up to an incomplete or malformed one. -/
def ServerMessage.readAll (stream : Octets) : List ServerMessage :=
  match found : read stream with
  | .message message rest =>
      have := length_of_read found
      message :: readAll rest
  | _ => []
termination_by stream.length

theorem ServerMessage.readAll_of_message {stream rest : Octets} {message : ServerMessage}
    (found : read stream = .message message rest) :
    readAll stream = message :: readAll rest := by
  rw [readAll]
  split <;> simp_all

/-- What is heard of a stream stays so when more arrives. -/
theorem ServerMessage.readAll_prefix_append (stream more : Octets) :
    readAll stream <+: readAll (stream ++ more) := by
  cases found : read stream with
  | incomplete =>
      rw [readAll]
      split <;> simp_all
  | malformed cause =>
      rw [readAll]
      split <;> simp_all
  | message message rest =>
      have shorter := length_of_read found
      rw [readAll_of_message found, readAll_of_message (read_append_of_message found more),
        List.prefix_cons_inj]
      exact readAll_prefix_append rest more
termination_by stream.length

variable {State Result : Type}

namespace Dialogue

/-- The state of a dialogue after some messages, if it goes on with each of them. -/
def after (dialogue : Dialogue State Result) (state : State) : List ServerMessage → Option State
  | [] => some state
  | message :: others =>
      match dialogue state message with
      | .proceed next _ => dialogue.after next others
      | _ => none

variable (dialogue : Dialogue State Result)

variable {dialogue} in
theorem after_cons_eq_some_iff {state last : State} {message : ServerMessage}
    {others : List ServerMessage} :
    dialogue.after state (message :: others) = some last ↔
      ∃ next reply, dialogue state message = .proceed next reply ∧
        dialogue.after next others = some last := by
  rw [after]
  cases dialogue state message <;> simp

variable {dialogue} in
theorem after_append_singleton_eq_some_iff {state last : State} {messages : List ServerMessage}
    {message : ServerMessage} :
    dialogue.after state (messages ++ [message]) = some last ↔
      ∃ next reply, dialogue.after state messages = some next ∧
        dialogue next message = .proceed last reply := by
  induction messages generalizing state with
  | nil =>
      rw [List.nil_append, after_cons_eq_some_iff]
      simp [after]
  | cons first others inductionHypothesis =>
      simp only [List.cons_append, after_cons_eq_some_iff, inductionHypothesis]
      constructor
      · rintro ⟨next, said, proceeds, later, reply, goesOn, turn⟩
        exact ⟨later, reply, ⟨next, said, proceeds, goesOn⟩, turn⟩
      · rintro ⟨later, reply, ⟨next, said, proceeds, goesOn⟩, turn⟩
        exact ⟨next, said, proceeds, later, reply, goesOn, turn⟩

/-- A dialogue that ends well goes on with every message before the one that finishes it. -/
theorem exists_messages_of_hear {state : State} {stream sent rest : Octets} {result : Result}
    (heard : dialogue.hear state stream = ⟨sent, .ended (.ok result), rest⟩) :
    ∃ messages final last,
      ServerMessage.readAll stream = messages ++ final :: ServerMessage.readAll rest ∧
      dialogue.after state messages = some last ∧ dialogue last final = .finish result := by
  cases found : ServerMessage.read stream with
  | incomplete =>
      rw [dialogue.hear_of_incomplete state found] at heard
      cases heard
  | malformed cause =>
      rw [dialogue.hear_of_malformed state found] at heard
      cases heard
  | message message after =>
      rw [dialogue.hear_of_message state found] at heard
      rw [ServerMessage.readAll_of_message found]
      cases turn : dialogue state message with
      | proceed next reply =>
          have shorter := ServerMessage.length_of_read found
          simp only [turn] at heard
          cases hearing : dialogue.hear next after with
          | mk said stance unread =>
              simp only [hearing] at heard
              cases heard
              obtain ⟨messages, final, last, whole, goesOn, finishes⟩ :=
                exists_messages_of_hear hearing
              exact ⟨message :: messages, final, last, by rw [whole, List.cons_append],
                after_cons_eq_some_iff.mpr ⟨next, reply, turn, goesOn⟩, finishes⟩
      | finish known =>
          rw [turn] at heard
          cases heard
          exact ⟨[], message, state, rfl, rfl, turn⟩
      | fail failure =>
          rw [turn] at heard
          cases heard
termination_by stream.length

/-- Messages that a dialogue goes on with are heard one after the other. -/
theorem exists_sent_of_after {said : List Utterance}
    (wellFormed : ∀ utterance ∈ said, utterance.WellFormed) {state last : State}
    (goesOn : dialogue.after state (said.map Utterance.meaning) = some last) (rest : Octets) :
    ∃ sent, dialogue.hear state (said.flatMap Utterance.octets ++ rest) =
      { dialogue.hear last rest with sent := sent } := by
  induction said generalizing state with
  | nil =>
      cases goesOn
      exact ⟨_, rfl⟩
  | cons utterance others inductionHypothesis =>
      rw [List.forall_mem_cons] at wellFormed
      obtain ⟨next, reply, proceeds, later⟩ := after_cons_eq_some_iff.mp goesOn
      obtain ⟨sent, heard⟩ := inductionHypothesis wellFormed.2 later
      have first := dialogue.hear_of_message state
        (Utterance.read_octets wellFormed.1 (others.flatMap Utterance.octets ++ rest))
      rw [List.flatMap_cons, List.append_assoc, first, proceeds]
      simp only [heard]
      exact ⟨_, rfl⟩

end Dialogue

/-! ## Notes -/

/-- What was noted of a network: the nonces that were drawn for each login, and all that was
received. -/
structure Note where
  nonces : List (Nat → String)
  received : Octets

namespace Note

/-- A note before anything happens. -/
def empty : Note :=
  ⟨[], []⟩

/-- A note with more that was received. -/
def hear (note : Note) (octets : Octets) : Note :=
  { note with received := note.received ++ octets }

/-- A note with the nonces of another login. -/
def draw (note : Note) (nonces : Nat → String) : Note :=
  { note with nonces := note.nonces ++ [nonces] }

theorem hear_nil (note : Note) : note.hear [] = note := by
  rw [hear, List.append_nil]

theorem hear_hear (note : Note) (first second : Octets) :
    (note.hear first).hear second = note.hear (first ++ second) := by
  simp only [hear, List.append_assoc]

end Note

variable {m : Type → Type} [Monad m] {World Line : Type}

/-- The same network, overheard. -/
def Network.noting (network : Network m Line) : Network (StateT Note m) Line where
  dial credentials := liftM (network.dial credentials)
  send line octets := liftM (network.send line octets)
  receive line := do
    let piece ← liftM (network.receive line)
    modify (·.hear (piece.toOption.getD []))
    return piece
  hangUp line := liftM (network.hangUp line)
  freshNonces := do
    let nonces ← liftM network.freshNonces
    modify (·.draw nonces)
    return nonces
  patience := network.patience

section

variable {execution : Execution m World} {α β : Type}

/-- An action beside a note does what another one does alone, and notes only what it receives.
Something is known of that and of its answer. -/
def Overhears (execution : Execution m World) (known : Octets → α → Prop) (noting : StateT Note m α)
    (action : m α) : Prop :=
  ∀ note world, ∃ received,
    (execution.withState Note).run noting (note, world) =
      ((execution.run action world).1, note.hear received, (execution.run action world).2) ∧
    known received (execution.run action world).1

theorem overhears_pure {known : Octets → α → Prop} {answer : α} (holds : known [] answer) :
    Overhears execution known (pure answer) (pure answer) := by
  intro note world
  refine ⟨[], ?_⟩
  rw [Execution.run_pure, Execution.run_pure, note.hear_nil]
  exact ⟨rfl, holds⟩

theorem overhears_liftM (action : m α) :
    Overhears execution (fun received _ => received = []) (liftM action) action := by
  intro note world
  refine ⟨[], ?_, rfl⟩
  rw [Execution.run_liftM, note.hear_nil]

theorem Overhears.imp {known weaker : Octets → α → Prop} {noting : StateT Note m α} {action : m α}
    (overhears : Overhears execution known noting action)
    (weakens : ∀ received answer, known received answer → weaker received answer) :
    Overhears execution weaker noting action := by
  intro note world
  obtain ⟨received, same, holds⟩ := overhears note world
  exact ⟨received, same, weakens _ _ holds⟩

theorem Overhears.bind {known : Octets → α → Prop} {knownNext : Octets → β → Prop}
    {noting : StateT Note m α} {action : m α} {notingNext : α → StateT Note m β} {next : α → m β}
    (first : Overhears execution known noting action)
    (others : ∀ answer, Overhears execution
      (fun more result => ∀ received, known received answer → knownNext (received ++ more) result)
      (notingNext answer) (next answer)) :
    Overhears execution knownNext (noting >>= notingNext) (action >>= next) := by
  intro note world
  obtain ⟨received, same, holds⟩ := first note world
  obtain ⟨more, follows, later⟩ :=
    others (execution.run action world).1 (note.hear received) (execution.run action world).2
  refine ⟨received ++ more, ?_⟩
  rw [Execution.run_bind, same, Execution.run_bind, follows, note.hear_hear]
  exact ⟨rfl, later received holds⟩

end

namespace Network

variable (network : Network m Line) (execution : Execution m World)

theorem run_receive_noting (line : Line) (note : Note) (world : World) :
    (execution.withState _).run (network.noting.receive line) (note, world) =
      let received := execution.run (network.receive line) world
      (received.1, note.hear (received.1.toOption.getD []), received.2) := by
  simp only [noting, Execution.run_bind, Execution.run_liftM, Execution.run_modify,
    Execution.run_pure]

theorem run_freshNonces_noting (note : Note) (world : World) :
    (execution.withState _).run network.noting.freshNonces (note, world) =
      let drawn := execution.run network.freshNonces world
      (drawn.1, note.draw drawn.1, drawn.2) := by
  simp only [noting, Execution.run_bind, Execution.run_liftM, Execution.run_modify,
    Execution.run_pure]

theorem run_say_noting (line : Line) (octets : Octets) (note : Note) (world : World) :
    (execution.withState _).run (network.noting.say line octets) (note, world) =
      let said := execution.run (network.say line octets) world
      (said.1, note, said.2) := by
  cases octets with
  | nil =>
      simp only [say, List.isEmpty_nil, if_true, Execution.run_pure]
  | cons octet others => exact execution.run_liftM ..

/-- A conversation that is overheard goes as it goes alone; and if it ends well, the dialogue ends
so that hears what was unread and then what is noted. -/
theorem run_converse_noting (line : Line) (dialogue : Dialogue State Result) (patience : Nat)
    (state : State) (unread : Octets) (note : Note) (world : World) :
    let outcome := execution.run (network.converse line dialogue patience state unread) world
    ∃ received,
      (execution.withState _).run (network.noting.converse line dialogue patience state unread)
          (note, world) = (outcome.1, note.hear received, outcome.2) ∧
      ∀ result, outcome.1.1 = .ok result →
        ∃ sent, dialogue.hear state (unread ++ received) =
          ⟨sent, .ended (.ok result), outcome.1.2⟩ := by
  induction patience generalizing state unread note world with
  | zero =>
      refine ⟨[], ?_, ?_⟩
      · simp only [converse, Execution.run_pure, note.hear_nil]
      · simp only [converse, Execution.run_pure]
        intro result fails
        cases fails
  | succ patience inductionHypothesis =>
      cases hearing : dialogue.hear state unread with
      | mk sent stance left =>
        rw [run_converse_succ, run_converse_succ, hearing]
        simp only [run_say_noting]
        cases said : execution.run (network.say line sent) world with
        | mk answer spoken =>
          cases answer with
          | error reason =>
              refine ⟨[], by rw [note.hear_nil], ?_⟩
              intro result fails
              cases fails
          | ok done =>
              cases stance with
              | ended outcome =>
                  refine ⟨[], by rw [note.hear_nil], ?_⟩
                  rintro result rfl
                  exact ⟨sent, by rw [List.append_nil, hearing]⟩
              | listening next =>
                  simp only [run_receive_noting]
                  rcases arrived : (execution.run (network.receive line) spoken).1 with
                    reason | _ | ⟨octet, others⟩
                  · refine ⟨[], rfl, ?_⟩
                    intro result fails
                    cases fails
                  · refine ⟨[], rfl, ?_⟩
                    intro result fails
                    cases fails
                  · let piece := octet :: others
                    obtain ⟨more, same, ends⟩ :=
                      inductionHypothesis next (left ++ piece) (note.hear piece)
                        (execution.run (network.receive line) spoken).2
                    refine ⟨piece ++ more, ?_, ?_⟩
                    · rw [← note.hear_hear]
                      exact same
                    · intro result succeeds
                      obtain ⟨heardLater, heard⟩ := ends result succeeds
                      refine ⟨sent ++ heardLater, ?_⟩
                      rw [dialogue.hear_append, hearing, Dialogue.resume]
                      simp only [← List.append_assoc, heard]
                      rfl

theorem overhears_converse (line : Line) (dialogue : Dialogue State Result) (patience : Nat)
    (state : State) (unread : Octets) :
    Overhears execution
      (fun received outcome => ∀ result, outcome.1 = .ok result →
        ∃ sent, dialogue.hear state (unread ++ received) =
          ⟨sent, .ended (.ok result), outcome.2⟩)
      (network.noting.converse line dialogue patience state unread)
      (network.converse line dialogue patience state unread) :=
  network.run_converse_noting execution line dialogue patience state unread

/-- The same of a dialogue that is opened with some octets. -/
theorem overhears_ask (line : Line) (octets : Octets) (dialogue : Dialogue State Result)
    (state : State) (unread : Octets) :
    Overhears execution
      (fun received outcome => ∀ result, outcome.1 = .ok result →
        ∃ sent, dialogue.hear state (unread ++ received) =
          ⟨sent, .ended (.ok result), outcome.2⟩)
      (network.noting.ask line octets dialogue state unread)
      (network.ask line octets dialogue state unread) := by
  refine (overhears_liftM (network.send line octets)).bind fun sent => ?_
  cases sent with
  | error reason => exact overhears_pure nofun
  | ok done =>
      refine (network.overhears_converse execution line dialogue network.patience state
        unread).imp ?_
      rintro received outcome ends _ rfl
      exact ends

end Network

/-! ## Sessions -/

namespace Session

variable (network : Network m Line) (execution : Execution m World)

/-- A reply ended well in a stream, and left a healthy session. -/
def Answers (stream : Octets) (result : QueryResult) (session : Session Line) : Prop :=
  session.broken = false ∧ ∃ sent, Reply.dialogue.hear .initial stream =
    ⟨sent, .ended (.ok result), session.unread⟩

theorem overhears_query (session : Session Line) (text : String) (parameters : List WireText) :
    Overhears execution
      (fun received outcome => ∀ result, outcome.1 = .ok result →
        Answers (session.unread ++ received) result outcome.2)
      (session.query network.noting text parameters) (session.query network text parameters) := by
  rw [query, query]
  cases session.broken with
  | true => exact overhears_pure nofun
  | false =>
      cases ClientMessage.encodeAll (ClientMessage.ofQuery text parameters) with
      | error failure => exact overhears_pure nofun
      | ok octets =>
          refine (network.overhears_ask execution session.line octets Reply.dialogue .initial
            session.unread).bind fun outcome => overhears_pure ?_
          rintro received ends result ended
          obtain ⟨sent, heard⟩ := ends result ended
          refine ⟨congrArg breaks ended, sent, ?_⟩
          rwa [List.append_nil]

theorem overhears_assumeRole (role : String) (session : Session Line) :
    Overhears execution
      (fun received outcome => ∀ other, outcome = .ok other → role.isEmpty = false →
        ∃ result, result.report = none ∧ Answers (session.unread ++ received) result other)
      (session.assumeRole network.noting role) (session.assumeRole network role) := by
  rw [assumeRole, assumeRole]
  cases role.isEmpty with
  | true => exact overhears_pure nofun
  | false =>
      refine (overhears_query network execution session _ []).bind fun outcome => ?_
      obtain ⟨outcome, session⟩ := outcome
      cases outcome with
      | error failure => exact overhears_pure nofun
      | ok result =>
          cases reported : result.report with
          | some report =>
              simp only [reported]
              exact overhears_pure nofun
          | none =>
              simp only [reported]
              refine overhears_pure ?_
              rintro received answers other opened _
              cases opened
              rw [List.append_nil]
              exact ⟨result, reported, answers result rfl⟩

/-- An action that opens sessions does beside a note what another one does alone.  If it opens a
session, it drew the nonces of one login, and something is known of them, of what is noted from
there and of the session. -/
def OverhearsOpening (known : (Nat → String) → Octets → Session Line → Prop)
    (noting : StateT Note m (Except ConnectionFailure (Session Line)))
    (action : m (Except ConnectionFailure (Session Line))) : Prop :=
  ∀ note world, ∃ overheard,
    (execution.withState Note).run noting (note, world) =
      ((execution.run action world).1, overheard, (execution.run action world).2) ∧
    ∀ session, (execution.run action world).1 = .ok session →
      ∃ nonces received, overheard = (note.draw nonces).hear received ∧
        known nonces received session

variable (credentials : Credentials)

/-- The login ended well that hears a stream, and left the rest of it to a session. -/
def LogsIn (nonces : Nat → String) (stream : Octets) (session : Session Line) : Prop :=
  ∃ sent, (Login.dialogue credentials nonces).hear .initial stream =
    ⟨sent, .ended (.ok ()), session.unread⟩

/-- The login ended well that hears a stream, and so did the reply about the role, if there is one
to assume, that hears the rest of it. -/
def Opens (nonces : Nat → String) (stream : Octets) (session : Session Line) : Prop :=
  ∃ sent rest, (Login.dialogue credentials nonces).hear .initial stream =
      ⟨sent, .ended (.ok ()), rest⟩ ∧
    (credentials.role.isEmpty = false →
      ∃ result, result.report = none ∧ Answers rest result session)

theorem overhearsOpening_logIn (line : Line) :
    OverhearsOpening execution (LogsIn credentials) (logIn network.noting credentials line)
      (logIn network credentials line) := by
  intro note world
  rw [logIn, logIn]
  cases (Login.greeting credentials).encode with
  | error failure =>
      refine ⟨note, ?_, ?_⟩
      · rw [Execution.run_pure, Execution.run_pure]
      · rw [Execution.run_pure]
        exact nofun
  | ok octets =>
      let drawn := execution.run network.freshNonces world
      obtain ⟨received, same, ends⟩ :=
        network.overhears_ask execution line octets (Login.dialogue credentials drawn.1) .initial []
          (note.draw drawn.1) drawn.2
      refine ⟨(note.draw drawn.1).hear received, ?_, ?_⟩
      · simp only [Execution.run_bind, Network.run_freshNonces_noting, same, Execution.run_pure,
          drawn]
      · simp only [Execution.run_bind, Execution.run_pure]
        intro session opened
        cases ended : (execution.run (network.ask line octets (Login.dialogue credentials drawn.1)
          .initial []) drawn.2).1.1 with
        | error failure =>
            rw [ended] at opened
            cases opened
        | ok result =>
            rw [ended] at opened
            cases opened
            exact ⟨drawn.1, received, rfl, ends () ended⟩

theorem overhearsOpening_begin (line : Line) :
    OverhearsOpening execution (Opens credentials) (begin network.noting credentials line)
      (begin network credentials line) := by
  intro note world
  obtain ⟨overheard, same, ends⟩ :=
    overhearsOpening_logIn network execution credentials line note world
  rw [begin, begin, Execution.run_bind, Execution.run_bind, same]
  cases loggedIn : (execution.run (logIn network credentials line) world).1 with
  | error failure =>
      refine ⟨overheard, ?_, ?_⟩
      · simp only [Execution.run_pure]
      · simp only [Execution.run_pure]
        exact nofun
  | ok session =>
      obtain ⟨nonces, received, rfl, sent, heard⟩ := ends session loggedIn
      obtain ⟨more, assumed, answers⟩ :=
        overhears_assumeRole network execution credentials.role session
          ((note.draw nonces).hear received)
          (execution.run (logIn network credentials line) world).2
      refine ⟨_, assumed, ?_⟩
      intro other opened
      refine ⟨nonces, received ++ more, ?_, sent, session.unread ++ more, ?_, answers other opened⟩
      · rw [Note.hear_hear]
      · rw [Dialogue.hear_append, heard]
        rfl

/-- A session is opened beside a note as it is opened alone. -/
theorem overhearsOpening_connect :
    OverhearsOpening execution (Opens credentials) (connect network.noting credentials)
      (connect network credentials) := by
  intro note world
  have dialled : (execution.withState _).run (dial network.noting credentials) (note, world) =
      ((execution.run (dial network credentials) world).1, note,
        (execution.run (dial network credentials) world).2) := by
    rw [dial, dial]
    split
    · rw [Execution.run_pure, Execution.run_pure]
    · exact execution.run_liftM ..
  rw [connect, connect, Execution.run_bind, Execution.run_bind, dialled]
  cases (execution.run (dial network credentials) world).1 with
  | error reason =>
      refine ⟨note, ?_, ?_⟩
      · simp only [Execution.run_pure]
      · simp only [Execution.run_pure]
        exact nofun
  | ok line =>
      obtain ⟨overheard, same, ends⟩ :=
        overhearsOpening_begin network execution credentials line note
          (execution.run (dial network credentials) world).2
      simp only [Execution.run_bind, same]
      cases begun : (execution.run (begin network credentials line)
          (execution.run (dial network credentials) world).2).1 with
      | error failure =>
          refine ⟨overheard, ?_, ?_⟩
          · simp only [Execution.run_bind, Network.noting, Execution.run_liftM, Execution.run_pure]
          · simp only [Execution.run_bind, Execution.run_pure]
            exact nofun
      | ok session =>
          refine ⟨overheard, ?_, ?_⟩
          · simp only [Execution.run_pure]
          · simp only [Execution.run_pure]
            rintro other opened
            cases opened
            exact ends session begun

end Session

end BankLedger.Postgres
